import FilterQuery.Document.Node
import FilterQuery.Document.Path

/-!
# Violations

Why a document is not accepted as a filter, and where. Only the first violation is reported.
-/

namespace FilterQuery

inductive ViolationKind where
  /-- The operand has the wrong shape for its operator, or the root is not a mapping. -/
  | unexpectedValue
  /-- An operator on a field stands where there is no field. -/
  | propertyNotFound
  /-- The key is no operator of the target, or a field holds a list. -/
  | operatorNotSupported
  /-- The data path may not be queried. -/
  | schemaValidation
  /-- The data path is longer than the target allows. -/
  | maxDataDepth
deriving DecidableEq, Repr

namespace ViolationKind

/-- Every kind, in the order of their numbers, which start with one. -/
def list : List ViolationKind :=
  [.unexpectedValue, .propertyNotFound, .operatorNotSupported, .schemaValidation, .maxDataDepth]

def ofNumber? : Nat → Option ViolationKind
  | 0 => none
  | n + 1 => list[n]?

def name : ViolationKind → String
  | .unexpectedValue => "UnexpectedValue"
  | .propertyNotFound => "PropertyNotFound"
  | .operatorNotSupported => "OperatorNotSupported"
  | .schemaValidation => "SchemaValidation"
  | .maxDataDepth => "MaxDataDepth"

def summary : ViolationKind → String
  | .unexpectedValue => "unexpected value"
  | .propertyNotFound => "property not found"
  | .operatorNotSupported => "operator not supported"
  | .schemaValidation => "schema validation"
  | .maxDataDepth => "max data depth"

end ViolationKind

/-- A violation: its kind, the offending node as a plain value, and where it stands. -/
structure Violation where
  kind : ViolationKind
  value : Value
  path : Path

namespace Violation

def ofNode (kind : ViolationKind) (n : Node) (path : Path) : Violation := ⟨kind, n.plain, path⟩

def dataPath (v : Violation) : Path := v.path.data

/-- The message of a violation at a path; without a kind, that of an invalid filter. -/
def messageOf (kind? : Option ViolationKind) (path : Path) : String :=
  let place := "'" ++ path.text ++ "'"
  let last := (path.getLast?.map Segment.text).getD ""
  match kind? with
  | some .unexpectedValue =>
    if path.isEmpty then "unexpected value for query at " ++ place
    else "unexpected value for operator " ++ last ++ " at " ++ place
  | some .propertyNotFound => "property not found for operator " ++ last ++ " at " ++ place
  | some .operatorNotSupported => "'" ++ last ++ "' operator not supported at " ++ place
  | some .schemaValidation =>
    "querying path '" ++ path.data.text ++ "' is not allowed at " ++ place
  | some .maxDataDepth =>
    "max depth exceeded for path '" ++ path.data.text ++ "' at " ++ place
  | none => "invalid query at " ++ place

def message (v : Violation) : String := messageOf (some v.kind) v.path

end Violation

end FilterQuery
