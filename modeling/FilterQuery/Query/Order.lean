import FilterQuery.Document.Modifiers
import FilterQuery.Query.Engine
import FilterQuery.Query.SearchTree

/-!
# The order of results

Items are ordered by criteria in sequence, each the values at a field; items that are equal under
all criteria keep their order.
-/

namespace FilterQuery

inductive SortError (ε : Type) where
  | reading (e : ε)
  | comparing (e : ε)
deriving DecidableEq, Repr

namespace SortError

variable {ε : Type}

def cause : SortError ε → ε
  | .reading e | .comparing e => e

/-- The wording, where `text` words the errors of the engine. -/
def message (text : ε → String) : SortError ε → String
  | .reading e => "getting field: " ++ text e
  | .comparing e => text e

end SortError

/-- What an item is ordered by: its value for each criterion, and its position. -/
structure ItemKey where
  values : List Value
  position : Nat

namespace ItemKey

variable {ε : Type}

def fieldValue : Option Value → Value
  | some v => .defined v
  | none => .undefined

/-- The value of an item for a criterion: the field, or the list of fields if a list was
expanded. -/
def criterionValue (e : Engine ε) (item : Value) (path : Path) : Except (SortError ε) Value :=
  match e.fields item path with
  | .error err => .error (.reading err)
  | .ok ([v?], false) => .ok (fieldValue v?)
  | .ok (found, _) => .ok (.anyList (found.map fieldValue))

def ofItem (e : Engine ε) (paths : List Path) (position : Nat) (item : Value) :
    Except (SortError ε) ItemKey := do
  let values ← paths.mapM (criterionValue e item)
  return ⟨values, position⟩

/-- An order turned by the sign of a criterion; a criterion of zero makes all values equal. -/
def directed (order : Int) (o : Ordering) : Ordering :=
  if order < 0 then o.swap else if order = 0 then .eq else o

/-- Compares values criterion by criterion: the first in which they differ decides, even if it
makes them equal. -/
def compareValues (e : Engine ε) :
    List Int → List Value → List Value → Except ε (Option Ordering)
  | order :: orders, a :: as, b :: bs => do
    match ← e.compare a b with
    | .eq => compareValues e orders as bs
    | o => return some (directed order o)
  | _, _, _ => .ok none

/-- Compares two keys; positions decide where the values do not. -/
def compare (e : Engine ε) (orders : List Int) (a b : ItemKey) :
    Except (SortError ε) Ordering :=
  match compareValues e orders a.values b.values with
  | .error err => .error (.comparing err)
  | .ok (some o) => .ok o
  | .ok none => .ok (Ord.compare a.position b.position)

/-- How a tree of items compares its keys and its values. -/
def treeOrder (e : Engine ε) (orders : List Int) : TreeOrder ItemKey Value (SortError ε) where
  keys := compare e orders
  values a b :=
    match e.compare a b with
    | .error err => .error (.comparing err)
    | .ok o => .ok (o == .eq)

end ItemKey

variable {ε : Type} (T : SearchTree ItemKey Value (SortError ε)) (e : Engine ε)

/-- Puts items, the first of which has the given position, into a tree. -/
def insertItems (paths : List Path) (orders : List Int) :
    Nat → T.Tree → List Value → Except (SortError ε) T.Tree
  | _, t, [] => .ok t
  | position, t, item :: items => do
    let key ← ItemKey.ofItem e paths position item
    let t ← T.insert (ItemKey.treeOrder e orders) key item t
    insertItems paths orders (position + 1) t items

def sortItems (criteria : List SortField) (items : List Value) :
    Except (SortError ε) (List Value) := do
  let paths := criteria.map fun c => Path.ofDotted c.key
  let t ← insertItems T e paths (criteria.map (·.order)) 0 T.empty items
  return T.toList t

end FilterQuery
