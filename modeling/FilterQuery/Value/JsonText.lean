import FilterQuery.Numeric.DecimalText
import FilterQuery.Value.Basic

/-!
# Values as JSON text

Writes a value on one line of JSON. Characters that have a meaning in HTML are written by their
code points, and instants as RFC 3339 texts.
-/

namespace FilterQuery

inductive EncodeError where
  /-- A number that is not finite. -/
  | notFinite (text : String)
  | yearOutOfRange
  | offsetOutOfRange
  | unsupportedType (typeName : String)
deriving DecidableEq, Repr

def EncodeError.message : EncodeError → String
  | .notFinite text => "json: unsupported value: " ++ text
  | .yearOutOfRange =>
    "json: error calling MarshalJSON for type time.Time: Time.MarshalJSON: year " ++
      "outside of range [0,9999]"
  | .offsetOutOfRange =>
    "json: error calling MarshalJSON for type time.Time: Time.MarshalJSON: timezone hour " ++
      "outside of range [0,23]"
  | .unsupportedType t => "json: unsupported type: " ++ t

namespace JsonText

def escapeChar (c : Char) : List Char :=
  match c with
  | '"' => ['\\', '"']
  | '\\' => ['\\', '\\']
  | '\n' => ['\\', 'n']
  | '\r' => ['\\', 'r']
  | '\t' => ['\\', 't']
  | c =>
    let n := c.toNat
    if n = 0x08 then ['\\', 'b']
    else if n = 0x0C then ['\\', 'f']
    else if n < 0x20 ∨ n = 0x3C ∨ n = 0x3E ∨ n = 0x26 ∨ n = 0x2028 ∨ n = 0x2029 then
      '\\' :: 'u' :: Quoted.hex 4 n
    else [c]

def string (s : String) : String :=
  String.ofList ('"' :: (s.toList.flatMap escapeChar ++ ['"']))

/-- Bytes as a JSON string; a stray byte is written as the replacement character. -/
def rawString (bs : List UInt8) : String :=
  let body := (Utf8.pieces bs).flatMap fun
    | .char c => escapeChar c
    | .stray _ => '\\' :: 'u' :: Quoted.hex 4 0xFFFD
  String.ofList ('"' :: (body ++ ['"']))

/-- A number; only finite ones can be written. -/
def number (fmt : BinaryFormat) (x : Binary) : Except EncodeError String :=
  if x.isFinite then .ok (x.general .record fmt) else .error (.notFinite (x.general .record fmt))

/-- An instant as a JSON string; its year has four digits, and its offset is below a day. -/
def instant (t : Instant) : Except EncodeError String :=
  if t.date.year < 0 ∨ 9999 < t.date.year then .error .yearOutOfRange
  else if 24 * 3600 ≤ t.offset.natAbs then .error .offsetOutOfRange
  else .ok ("\"" ++ t.text ++ "\"")

/-- The parts of a list or an object between brackets, with commas. -/
def enclose (opening closing : String) (parts : List String) : String :=
  opening ++ String.intercalate "," parts ++ closing

end JsonText

namespace Value

mutual

def jsonText : Value → Except EncodeError String
  | .null | .nilOf _ => .ok "null"
  | .bool b => .ok (if b then "true" else "false")
  | .text s => .ok (JsonText.string s)
  | .rawText bs => .ok (JsonText.rawString bs)
  | .int n => .ok (toString n.val)
  | .double x => JsonText.number .double x
  | .single x => JsonText.number .single x
  | .numeral s => .ok s
  | .time t => JsonText.instant t
  | .regex re => .ok (JsonText.string re.source)
  | .list _ items | .array _ items => do return JsonText.enclose "[" "]" (← jsonItems items)
  | .object _ es => do return JsonText.enclose "\x7b" "\x7d" (← jsonEntries es)
  | .ref _ v => v.jsonText
  | v => .error (.unsupportedType v.typeName)

def jsonItems : List Value → Except EncodeError (List String)
  | [] => .ok []
  | v :: vs => do
    let t ← v.jsonText
    return t :: (← jsonItems vs)

def jsonEntries : List (String × Value) → Except EncodeError (List String)
  | [] => .ok []
  | (k, v) :: es => do
    let t ← v.jsonText
    return (JsonText.string k ++ ":" ++ t) :: (← jsonEntries es)

end

end Value

end FilterQuery
