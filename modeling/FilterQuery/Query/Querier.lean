import FilterQuery.Query.Order
import FilterQuery.Query.Page
import FilterQuery.Query.Predicate

/-!
# Queries over items

A query filters items, orders them and cuts a page. Its modifiers come from the document, unless
they are given beside it.
-/

namespace FilterQuery

inductive QueryError (ε : Type) where
  /-- The modifiers of the document are not acceptable. -/
  | modifier (v : Violation)
  | compile (e : CompileError)
  | matching (position : Nat) (e : MatchError ε)
  | sorting (e : SortError ε)
  /-- The page ends beyond what can be counted. -/
  | noPage

namespace QueryError

variable {ε : Type}

/-- The wording, where `text` words the errors of the engine. -/
def message (text : ε → String) : QueryError ε → String
  | .modifier v => v.message
  | .compile e => e.message
  | .matching n e => "matching item " ++ toString n ++ ": " ++ e.message text
  | .sorting e => "sorting: " ++ e.message text
  | .noPage => "page out of range"

end QueryError

/-- Queries items with an engine, where data paths have a limited length, and orders them with a kind of
search trees. -/
structure Querier (ε : Type) where
  engine : Engine ε
  compiler : Compiler Unit (Predicate ε) (Predicate ε) := Predicate.compiler engine
  tree : SearchTree ItemKey Value (SortError ε) := .balanced

namespace Querier

variable {ε : Type}

def predicate (q : Querier ε) (n : Node) : Except CompileError (Predicate ε) :=
  q.compiler.compile n

/-- The items that satisfy a predicate; the first of them has the given position. -/
def filterFrom (p : Predicate ε) : Nat → List Value → Except (QueryError ε) (List Value)
  | _, [] => .ok []
  | position, item :: items =>
    match p item with
    | .error e => .error (.matching position e)
    | .ok b => do
      let rest ← filterFrom p (position + 1) items
      return if b then item :: rest else rest

def filter (p : Predicate ε) (items : List Value) : Except (QueryError ε) (List Value) :=
  filterFrom p 0 items

/-- Orders items; without criteria they stay as they are. -/
def order (q : Querier ε) (criteria : List SortField) (items : List Value) :
    Except (QueryError ε) (List Value) :=
  if criteria.isEmpty then .ok items
  else match sortItems q.tree q.engine criteria items with
    | .ok sorted => .ok sorted
    | .error e => .error (.sorting e)

def cut (m : Modifiers) (items : List Value) : Except (QueryError ε) (List Value) :=
  match page? m.skip m.limit items with
  | some page => .ok page
  | none => .error .noPage

def query (q : Querier ε) (items : List Value) (n : Node) (o : Overrides) :
    Except (QueryError ε) (List Value) := do
  let (filterNode, m) ← n.split.mapError .modifier
  let m := m.override o
  let p ← (q.predicate filterNode).mapError .compile
  let found ← filter p items
  let sorted ← q.order m.sort found
  cut m sorted

end Querier

end FilterQuery
