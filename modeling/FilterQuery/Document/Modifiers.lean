import FilterQuery.Document.Violation
import FilterQuery.Value.Number

/-!
# Result modifiers

The root keys `$sort`, `$skip` and `$limit` do not filter: they say in which order the results
come, how many are left out and how many are given. `Node.split` separates them from the filter.
-/

namespace FilterQuery

/-- One criterion of an order: a field and a direction, descending if negative. -/
structure SortField where
  key : String
  order : Int
deriving DecidableEq, Repr

/-- How results are ordered and cut. A limit of zero is none. -/
structure Modifiers where
  sort : List SortField := []
  skip : Int := 0
  limit : Int := 0
deriving DecidableEq, Repr

/-- Modifiers given beside the document; those that are given win over the document's. -/
structure Overrides where
  sort : Option (List SortField) := none
  skip : Option Int := none
  limit : Option Int := none

namespace Modifiers

def sortKey : String := "$sort"

def skipKey : String := "$skip"

def limitKey : String := "$limit"

def override (m : Modifiers) (o : Overrides) : Modifiers where
  sort := o.sort.getD m.sort
  skip := o.skip.getD m.skip
  limit := o.limit.getD m.limit

/-- Reads the criteria of an order, each one or minus one. -/
def readCriteria (path : Path) : List (String × Node) → Except Violation (List SortField)
  | [] => .ok []
  | (key, n) :: rest =>
    match n.scalar?.bind Value.asInteger? with
    | some order =>
      if order = 1 ∨ order = -1 then do
        let criteria ← readCriteria path rest
        return ⟨key, order⟩ :: criteria
      else .error (.ofNode .unexpectedValue n (path ++ [.key key]))
    | none => .error (.ofNode .unexpectedValue n (path ++ [.key key]))

def readSort (path : Path) : Node → Except Violation (List SortField)
  | .mapping es => readCriteria path es
  | n => .error (.ofNode .unexpectedValue n path)

def readCount (path : Path) (n : Node) : Except Violation Int :=
  match n.scalar?.bind Value.asInteger? with
  | some c => if 0 ≤ c then .ok c else .error (.ofNode .unexpectedValue n path)
  | none => .error (.ofNode .unexpectedValue n path)

/-- Separates the entries of a root into those of the filter and the modifiers; `m` holds the
modifiers before. -/
def splitEntries (m : Modifiers) :
    List (String × Node) → Except Violation (List (String × Node) × Modifiers)
  | [] => .ok ([], m)
  | (key, n) :: rest =>
    let path : Path := [.key key]
    if key = sortKey then do
      let sort ← readSort path n
      splitEntries { m with sort := sort } rest
    else if key = skipKey then do
      let skip ← readCount path n
      splitEntries { m with skip := skip } rest
    else if key = limitKey then do
      let limit ← readCount path n
      splitEntries { m with limit := limit } rest
    else do
      let (filter, m) ← splitEntries m rest
      return ((key, n) :: filter, m)

end Modifiers

/-- Separates the modifiers of a document from its filter. Only mappings have modifiers. -/
def Node.split : Node → Except Violation (Node × Modifiers)
  | .mapping es => do
    let (filter, m) ← Modifiers.splitEntries {} es
    return (.mapping filter, m)
  | n => .ok (n, {})

end FilterQuery
