import FilterQuery.Decode.Source
import FilterQuery.Numeric.Integer
import FilterQuery.Value.Display

/-!
# Decoding of scalars

Numbers are converted to every numeric type, and numerals are read as numbers. Texts are never
read, and nothing is turned into a text that is none.
-/

namespace FilterQuery

namespace Value

def unconvertible {α : Type} (place : String) (t : Ty) (v : Value) : Except Failure α :=
  .error (.single (.unconvertible place t.name v.typeBehind.name v.display))

def readNumeral {α β : Type} (place : String) (reading : NumeralReading)
    (read : List Char → Except LiteralError α) (make : α → β) (s : String) : Except Failure β :=
  match read s.toList with
  | .ok a => .ok (make a)
  | .error e => .error (.single (.numeral place reading s e))

/-- A value as an integer with a sign; fractions are cut off, and what is too large wraps. -/
def decodeSigned (place : String) (t : IntType) (v : Value) : Except Failure Value :=
  match v.behind with
  | .int n => .ok (.int (.wrap t n.val))
  | .double x | .single x => .ok (.int (.wrap t (x.truncate?.getD 0)))
  | .numeral s => readNumeral place .signed Integer.ofSigned (fun n => .int (.wrap t n)) s
  | _ => unconvertible place (.int t) v

/-- A value as an integer without a sign; negative numbers are refused. -/
def decodeUnsigned (place : String) (t : IntType) (v : Value) : Except Failure Value :=
  match v.behind with
  | .int n =>
    if n.val < 0 then .error (.single (.negative place (toString n.val)))
    else .ok (.int (.wrap t n.val))
  | .double x | .single x =>
    if x.isNegative then .error (.single (.negative place (x.fixed 6)))
    else .ok (.int (.wrap t (x.truncate?.getD 0)))
  | .numeral s => readNumeral place .unsigned Integer.ofBased (fun n => .int (.wrap t n)) s
  | _ => unconvertible place (.int t) v

def decodeFloat (place : String) (t : Ty) (make : Binary → Value) (v : Value) :
    Except Failure Value :=
  match v.behind with
  | .int n => .ok (make (.ofInt .double n.val))
  | .double x => .ok (make x)
  | .single x => .ok (make (x.convert .double))
  | .numeral s => readNumeral place .float (Literal.read .double) make s
  | _ => unconvertible place t v

/-- A value as a text; only texts and numerals are some. -/
def decodeText (place : String) (t : Ty) (v : Value) : Except Failure Value :=
  match v.behind, t with
  | .text s, .numeral | .numeral s, .numeral => .ok (.numeral s)
  | .text s, _ | .numeral s, _ => .ok (.text s)
  | .rawText bs, _ => .ok (.rawText bs)
  | _, _ => unconvertible place t v

def decodeBool (place : String) (v : Value) : Except Failure Value :=
  match v.behind with
  | .bool b => .ok (.bool b)
  | _ => unconvertible place .bool v

end Value

end FilterQuery
