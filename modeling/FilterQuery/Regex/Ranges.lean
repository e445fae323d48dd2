import FilterQuery.Regex.CharSet

/-!
# Sets of characters as ranges

A set of code points has one form as a list of ranges in increasing order that do not touch. Two
sets are equal when their ranges are, and a set with one or two members is seen at once.
-/

namespace FilterQuery.Regex

/-- The code points from `lo` to `hi`. -/
structure CodeRange where
  lo : Nat
  hi : Nat
deriving DecidableEq, Repr

namespace CodeRange

def lastCode : Nat := 0x10FFFF

/-- Puts ranges in order and joins those that overlap or touch. -/
def normalize (rs : List CodeRange) : List CodeRange :=
  ((rs.mergeSort fun a b => a.lo ≤ b.lo).foldl join []).reverse
where
  /-- Adds a range behind the others, which come last first. -/
  join : List CodeRange → CodeRange → List CodeRange
    | [], r => [r]
    | a :: before, r =>
      if r.lo ≤ a.hi + 1 then ⟨a.lo, max a.hi r.hi⟩ :: before else r :: a :: before

/-- The gaps of ranges in order, from `start` on. -/
def gapsFrom : Nat → List CodeRange → List CodeRange
  | start, [] => if start ≤ lastCode then [⟨start, lastCode⟩] else []
  | start, r :: rs =>
    if start < r.lo then ⟨start, r.lo - 1⟩ :: gapsFrom (r.hi + 1) rs else gapsFrom (r.hi + 1) rs

def anyContains (rs : List CodeRange) (c : Nat) : Bool := rs.any fun r => r.lo ≤ c && c ≤ r.hi

def members (r : Unicode.Range) : List Nat :=
  (List.range ((r.last - r.first) / r.step + 1)).map fun k => r.first + k * r.step

def ofTable (rows : Array Unicode.Range) : List CodeRange :=
  rows.toList.flatMap fun r =>
    if r.step = 1 then [⟨r.first, r.last⟩] else (members r).map fun c => ⟨c, c⟩

/-- The successors, in their case orbits, of the code points of the ranges. -/
def foldSuccessors (rs : List CodeRange) : List CodeRange :=
  Unicode.foldRows.toList.flatMap fun row =>
    let shift (c : Nat) : Nat := ((c : Int) + row.delta).toNat
    if row.range.step = 1 then
      rs.filterMap fun r =>
        let lo := max r.lo row.range.first
        let hi := min r.hi row.range.last
        if lo ≤ hi then some ⟨shift lo, shift hi⟩ else none
    else
      ((members row.range).filter (anyContains rs)).map fun c => ⟨shift c, shift c⟩

/-- Adds the code points that differ only in case. -/
def foldClosure (rs : List CodeRange) : List CodeRange :=
  let step (rs : List CodeRange) : List CodeRange := normalize (rs ++ foldSuccessors rs)
  -- no orbit has more than four members
  step (step (step rs))

end CodeRange

def CharSet.ranges : CharSet → List CodeRange
  | .none => []
  | .range lo hi => if lo ≤ hi then [⟨lo, hi⟩] else []
  | .property p =>
    let rs := CodeRange.normalize (p.tables.flatMap CodeRange.ofTable)
    if p.others then CodeRange.gapsFrom 0 rs else rs
  | .union a b => CodeRange.normalize (a.ranges ++ b.ranges)
  | .complement a => CodeRange.gapsFrom 0 a.ranges
  | .folded a => CodeRange.foldClosure a.ranges

end FilterQuery.Regex
