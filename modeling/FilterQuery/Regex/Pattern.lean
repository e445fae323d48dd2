import FilterQuery.Regex.CharSet

/-!
# Patterns and matching

A pattern is a regular expression with anchors. Matching follows the set of positions of the
subject that the pattern can reach: a set of positions is a number whose bit `i` stands for the
position before character `i`, so each step of the pattern is one operation on numbers.
-/

namespace FilterQuery.Regex

/-- A condition on a position that consumes nothing. -/
inductive Anchor where
  | textStart
  | textEnd
  | lineStart
  | lineEnd
  | wordBoundary
  | notWordBoundary
deriving DecidableEq, Repr

/-- A regular expression over leaves that consume one character (`σ`) or none (`α`). -/
inductive Pattern (σ α : Type) where
  | empty
  | set (s : σ)
  | anchor (a : α)
  | seq (p q : Pattern σ α)
  | alt (p q : Pattern σ α)
  /-- At least `min` times, and at most `max` times if that is given. -/
  | loop (min : Nat) (max : Option Nat) (p : Pattern σ α)

namespace Pattern

variable {σ σ' α α' : Type}

def mapLeaves (f : σ → σ') (g : α → α') : Pattern σ α → Pattern σ' α'
  | .empty => .empty
  | .set s => .set (f s)
  | .anchor a => .anchor (g a)
  | .seq p q => .seq (p.mapLeaves f g) (q.mapLeaves f g)
  | .alt p q => .alt (p.mapLeaves f g) (q.mapLeaves f g)
  | .loop min max p => .loop min max (p.mapLeaves f g)

/-- Applies `f` to a growing set until nothing is added, at most `fuel` times. -/
def saturate (f : Nat → Nat) : Nat → Nat → Nat
  | 0, s => s
  | fuel + 1, s =>
    let s' := s ||| f s
    if s' = s then s else saturate f fuel s'

/-- The positions reached from the positions `s`, where a consuming leaf holds the positions
before the characters it accepts, and an anchor the positions where it holds. A subject of
length `len` has `len + 1` positions. -/
def reach (len : Nat) : Pattern Nat Nat → Nat → Nat
  | .empty, s => s
  | .set mask, s => (s &&& mask) <<< 1
  | .anchor mask, s => s &&& mask
  | .seq p q, s => q.reach len (p.reach len s)
  | .alt p q, s => p.reach len s ||| q.reach len s
  | .loop min max p, s =>
    let s₀ := min.repeat (p.reach len) s
    match max with
    | none => saturate (p.reach len) (len + 1) s₀
    | some m => (m - min).repeat (fun s => s ||| p.reach len s) s₀

end Pattern

/-- The set of the indices below `n` that satisfy `p`, as a number. -/
def positions (n : Nat) (p : Nat → Bool) : Nat :=
  (List.range n).foldl (fun s i => if p i then s ||| (1 <<< i) else s) 0

/-- Whether a code point belongs to a word, as boundaries see it. -/
def isWordCode (c : Nat) : Bool := CharSet.word.contains c

def Anchor.holdsAt (cs : Array Nat) (a : Anchor) (i : Nat) : Bool :=
  let before := if i = 0 then none else cs[i - 1]?
  let after := cs[i]?
  let boundary := (before.any isWordCode) != (after.any isWordCode)
  match a with
  | .textStart => i == 0
  | .textEnd => i == cs.size
  | .lineStart => before.all (· == 10)
  | .lineEnd => after.all (· == 10)
  | .wordBoundary => boundary
  | .notWordBoundary => !boundary

def Pattern.matchesIn (p : Pattern CharSet Anchor) (cs : Array Nat) : Bool :=
  let n := cs.size
  let masked := p.mapLeaves
    (fun s => positions n fun i => (cs[i]?).any s.contains)
    (fun a => positions (n + 1) fun i => a.holdsAt cs i)
  masked.reach n (Nat.pow 2 (n + 1) - 1) != 0

end FilterQuery.Regex
