/-!
# Ranges of code points

A set of code points is an array of ranges in increasing order; a range with step two holds every
second code point, as alternating upper and lower case letters do.
-/

namespace FilterQuery.Unicode

/-- The code points `first`, `first + step`, …, up to `last`. -/
structure Range where
  first : Nat
  last : Nat
  step : Nat
deriving DecidableEq, Repr

def Range.contains (r : Range) (c : Nat) : Bool :=
  r.first ≤ c && c ≤ r.last && (c - r.first) % r.step == 0

def inRanges (rs : Array Range) (c : Nat) : Bool := rs.any (·.contains c)

end FilterQuery.Unicode
