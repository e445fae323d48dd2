import FilterQuery.Numeric.Literal
import FilterQuery.Text.Quoted

/-!
# Decoding failures

Why a value does not fit the type that it is decoded into. The parts of a list, a map or a record
are all tried, so a failure may consist of several mismatches; each names its place.
-/

namespace FilterQuery

/-- The numbers that a numeral may be read as. -/
inductive NumeralReading where
  | signed
  | unsigned
  | float
deriving DecidableEq, Repr

/-- The function that messages name for a numeral that cannot be read. -/
def NumeralReading.name : NumeralReading → String
  | .signed => "strconv.ParseInt"
  | .unsigned => "strconv.ParseUint"
  | .float => "strconv.ParseFloat"

inductive Mismatch where
  /-- A scalar of another type. -/
  | unconvertible (place expected actual shown : String)
  /-- A negative number for a type without a sign. -/
  | negative (place shown : String)
  | numeral (place : String) (reading : NumeralReading) (text : String) (cause : LiteralError)
  /-- A list is needed. -/
  | notList (place kind : String)
  /-- A map is needed. -/
  | notMap (place kind : String)
  /-- A map with text keys is needed. -/
  | keyKind (place kind : String)
  /-- A record field whose type the values of a map do not have. -/
  | fieldType (type elem : String)
  /-- A field to be filled in place that is no record. -/
  | squashTarget (field kind : String)
  /-- A field to be spread in place that is no record. -/
  | squashSource (type : String)
deriving DecidableEq, Repr

def Mismatch.message : Mismatch → String
  | .unconvertible place expected actual shown =>
    "'" ++ place ++ "' expected type '" ++ expected ++ "', got unconvertible type '" ++ actual ++
      "', value: '" ++ shown ++ "'"
  | .negative place shown => "cannot parse '" ++ place ++ "', " ++ shown ++ " overflows uint"
  | .numeral place reading text cause =>
    "error decoding json.Number into " ++ place ++ ": " ++ reading.name ++ ": parsing " ++
      Quoted.quote text ++ ": " ++ cause.message
  | .notList place kind => "'" ++ place ++ "': source data must be an array or slice, got " ++ kind
  | .notMap place kind => "'" ++ place ++ "' expected a map, got '" ++ kind ++ "'"
  | .keyKind place kind =>
    "'" ++ place ++ "' needs a map with string keys, has '" ++ kind ++ "' keys"
  | .fieldType type elem =>
    "cannot assign type '" ++ type ++ "' to map value field of type '" ++ elem ++ "'"
  | .squashTarget field kind => field ++ ": unsupported type for squash: " ++ kind
  | .squashSource type => "cannot squash non-struct type '" ++ type ++ "'"

inductive Failure where
  | single (m : Mismatch)
  /-- The mismatches among the parts of a value. -/
  | several (ms : List Mismatch)
deriving DecidableEq, Repr

namespace Failure

def mismatches : Failure → List Mismatch
  | .single m => [m]
  | .several ms => ms

/-- The wording of a failure: several mismatches are listed in the order of their texts. -/
def message : Failure → String
  | .single m => m.message
  | .several ms =>
    let points := (ms.map fun m => "* " ++ m.message).mergeSort (fun a b => a ≤ b)
    toString ms.length ++ " error(s) decoding:\n\n" ++ String.intercalate "\n" points

/-- The parts of a value, if all of them could be decoded, and else all that went wrong. -/
def collect {α : Type} (parts : List (Except Failure α)) : Except Failure (List α) :=
  let bad := parts.flatMap fun
    | .ok _ => []
    | .error f => f.mismatches
  if bad.isEmpty then .ok (parts.filterMap Except.toOption) else .error (.several bad)

end Failure

end FilterQuery
