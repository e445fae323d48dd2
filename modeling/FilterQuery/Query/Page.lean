import FilterQuery.Numeric.Word

/-!
# Pages of results

A page leaves out the first items and is cut at a limit. Counts are integers of 64 bits; where
their sum is beyond that there is no page.
-/

namespace FilterQuery

/-- A sum of two integers of 64 bits, wrapped to that size. -/
def add64 (a b : Int) : Int := Int.bmod (a + b) unsignedLimit

/-- The items after the first `skip`, and of them the first `limit` if that is positive. There is
no page if the end of it lies beyond what 64 bits can count. -/
def page? {α : Type} (skip limit : Int) (items : List α) : Option (List α) :=
  let length : Int := items.length
  let start := min (max skip 0) length
  -- a sum that wraps around is negative, and so before the start
  let stop := if 0 < limit then min (add64 start limit) length else length
  if start ≤ stop then some ((items.drop start.toNat).take (stop - start).toNat) else none

end FilterQuery
