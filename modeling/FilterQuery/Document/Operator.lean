/-!
# Operators

The closed set of operators of the filter language, in the order of their numbers.
-/

namespace FilterQuery

inductive Operator where
  | and
  | or
  | nor
  | not
  | oneOf
  | noneOf
  | allOf
  | gt
  | gte
  | lt
  | lte
  | ne
  | eq
  | like
  | present
deriving DecidableEq, Repr

namespace Operator

def list : List Operator :=
  [.and, .or, .nor, .not, .oneOf, .noneOf, .allOf, .gt, .gte, .lt, .lte, .ne, .eq, .like,
    .present]

/-- The name of an operator as it is written in documents. -/
def name : Operator → String
  | .and => "$and"
  | .or => "$or"
  | .nor => "$nor"
  | .not => "$not"
  | .oneOf => "$in"
  | .noneOf => "$nin"
  | .allOf => "$all"
  | .gt => "$gt"
  | .gte => "$gte"
  | .lt => "$lt"
  | .lte => "$lte"
  | .ne => "$ne"
  | .eq => "$eq"
  | .like => "$like"
  | .present => "$exists"

def ofName? (s : String) : Option Operator := list.find? (·.name == s)

def number (op : Operator) : Nat := list.idxOf op

def ofNumber? (n : Nat) : Option Operator := list[n]?

def isCombinator : Operator → Bool
  | .and | .or | .nor => true
  | _ => false

def takesValues : Operator → Bool
  | .oneOf | .noneOf | .allOf => true
  | _ => false

@[simp] theorem ofName?_name (op : Operator) : ofName? op.name = some op := by
  cases op <;> decide

theorem ofName?_eq_some_iff {s : String} {op : Operator} : ofName? s = some op ↔ s = op.name := by
  constructor
  · intro h
    have found := List.find?_some (p := fun o : Operator => o.name == s) h
    exact (beq_iff_eq.mp found).symm
  · rintro rfl
    exact ofName?_name op

end Operator

end FilterQuery
