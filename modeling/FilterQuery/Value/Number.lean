import FilterQuery.Numeric.Literal
import FilterQuery.Numeric.Word
import FilterQuery.Value.Basic

/-!
# Values as numbers

Which values are numbers, which are coerced to numbers, and which stand for an integer.
-/

namespace FilterQuery

namespace Value

/-- The number of a built-in numeric value, as a double. -/
def asDouble? : Value → Option Binary
  | .int n => some (.ofInt .double n.val)
  | .single x => some (x.convert .double)
  | .double x => some x
  | _ => none

/-- The number that a value is coerced to: built-in numbers, numerals, times as milliseconds since
1970, and texts that hold a number literal between blanks. -/
def toNumber? : Value → Option Binary
  | .numeral s => (Literal.read .double s.toList).toOption
  | .time t => some (.ofInt .double t.unixMillis)
  | .text s =>
    match Unicode.trimSpace s.toList with
    | [] => none
    | cs => (Literal.read .double cs).toOption
  | v => v.asDouble?

def isNumeric (v : Value) : Bool := v.toNumber?.any Binary.isFinite

inductive IntegerReading where
  /-- The value is no integer. -/
  | none
  | exact (n : Int)
  /-- The value is a number beyond the range of 64 bits. -/
  | unspecified
deriving DecidableEq, Repr

/-- Reads a floating point number without a fraction. -/
def integerOfBinary (x : Binary) : IntegerReading :=
  match x with
  | .infinite _ => .unspecified
  | x =>
    if x.isIntegral then
      match x.truncate? with
      | some n => if fitsSigned n then .exact n else .unspecified
      | Option.none => .none
    else .none

/-- Reads a built-in number as an integer; integers are wrapped to 64 bits with sign. -/
def asInteger : Value → IntegerReading
  | .int n => .exact (SizedInt.wrap .int n.val).val
  | .single x => integerOfBinary (x.convert .double)
  | .double x => integerOfBinary x
  | _ => .none

/-- The integer that a value stands for, if it is one. -/
def asInteger? (v : Value) : Option Int :=
  match v.asInteger with
  | .exact n => some n
  | _ => Option.none

end Value

end FilterQuery
