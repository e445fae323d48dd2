import FilterQuery.Query.SortTree

/-!
# Search trees

Items are ordered by a search tree: each is inserted under its key, and the tree lists them in the
order of their keys. Any kind of tree will do that offers the operations of `SearchTree`.
-/

namespace FilterQuery

/-- How a tree compares keys, and values under one key. Comparing may fail. -/
structure TreeOrder (κ ν ε : Type) where
  keys : κ → κ → Except ε Ordering
  values : ν → ν → Except ε Bool

/-- A kind of search trees from keys to values. -/
structure SearchTree (κ ν ε : Type) where
  Tree : Type
  empty : Tree
  insert : TreeOrder κ ν ε → κ → ν → Tree → Except ε Tree
  /-- All values, by their keys. -/
  toList : Tree → List ν

/-- The trees that keep the heights of their branches alike. They never compare values. -/
def SearchTree.balanced {κ ν ε : Type} : SearchTree κ ν ε where
  Tree := SortTree κ ν
  empty := .leaf
  insert order := SortTree.insert order.keys
  toList := SortTree.toList

end FilterQuery
