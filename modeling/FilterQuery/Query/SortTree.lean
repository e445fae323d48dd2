/-!
# Sort trees

A height-balanced search tree from keys to lists of values. Keys that compare as equal share a
node, in which the values keep the order of their insertion. Comparing may fail, and then so does
the insertion.
-/

namespace FilterQuery

/-- A search tree; each node knows its height. -/
inductive SortTree (κ ν : Type) where
  | leaf
  | node (height : Nat) (left : SortTree κ ν) (key : κ) (values : List ν) (right : SortTree κ ν)

namespace SortTree

variable {κ ν ε : Type}

def height : SortTree κ ν → Nat
  | .leaf => 0
  | .node h .. => h

def join (l : SortTree κ ν) (k : κ) (vs : List ν) (r : SortTree κ ν) : SortTree κ ν :=
  .node (max l.height r.height + 1) l k vs r

def toList : SortTree κ ν → List ν
  | .leaf => []
  | .node _ l _ vs r => l.toList ++ vs ++ r.toList

/-- A node over two trees of which the left may be too high by one. -/
def balanceLeft (l : SortTree κ ν) (k : κ) (vs : List ν) (r : SortTree κ ν) : SortTree κ ν :=
  match l with
  | .node _ ll lk lvs lr =>
    if l.height ≤ r.height + 1 then join l k vs r
    else match lr with
      | .node _ lrl lrk lrvs lrr =>
        if lr.height ≤ ll.height then join ll lk lvs (join lr k vs r)
        else join (join ll lk lvs lrl) lrk lrvs (join lrr k vs r)
      | .leaf => join ll lk lvs (join lr k vs r)
  | .leaf => join l k vs r

/-- A node over two trees of which the right may be too high by one. -/
def balanceRight (l : SortTree κ ν) (k : κ) (vs : List ν) (r : SortTree κ ν) : SortTree κ ν :=
  match r with
  | .node _ rl rk rvs rr =>
    if r.height ≤ l.height + 1 then join l k vs r
    else match rl with
      | .node _ rll rlk rlvs rlr =>
        if rl.height ≤ rr.height then join (join l k vs rl) rk rvs rr
        else join (join l k vs rll) rlk rlvs (join rlr rk rvs rr)
      | .leaf => join (join l k vs rl) rk rvs rr
  | .leaf => join l k vs r

/-- Inserts a value under a key. The new key is compared with the keys on the way down. -/
def insert (compare : κ → κ → Except ε Ordering) (k : κ) (v : ν) :
    SortTree κ ν → Except ε (SortTree κ ν)
  | .leaf => .ok (join .leaf k [v] .leaf)
  | .node h l k' vs r => do
    match ← compare k k' with
    | .eq => return .node h l k' (vs ++ [v]) r
    | .lt => return balanceLeft (← insert compare k v l) k' vs r
    | .gt => return balanceRight l k' vs (← insert compare k v r)

end SortTree

end FilterQuery
