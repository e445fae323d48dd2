import FilterQuery.Regex.Pattern
import FilterQuery.Regex.Ranges

/-!
# Trees of regular expressions

A regular expression as it is read: literals, sets, groups, loops, sequences and alternatives. Trees
are kept flat and factored, so that a sequence holds no sequence, neighbouring literals are one, and
alternatives with a common start share it. Their height and the size of what they stand for are
limited, and a limit applies to the tree in this form.
-/

namespace FilterQuery.Regex

structure Flags where
  fold : Bool := false
  multiLine : Bool := false
  dotNewline : Bool := false
  ungreedy : Bool := false
deriving DecidableEq, Repr

/-- A set, closed under case if the flags ask for it. -/
def Flags.close (flags : Flags) (s : CharSet) : CharSet := if flags.fold then .folded s else s

/-- A repetition: at least `min` times, and at most `max` times if that is given. -/
structure Repetition where
  min : Nat
  max : Option Nat
  /-- Whether the bounds are written as numbers. -/
  counted : Bool := false
  /-- Whether few repetitions are preferred. -/
  lazy : Bool := false
deriving DecidableEq, Repr

inductive Tree where
  | empty
  | literal (flags : Flags) (codes : Array Nat)
  | set (s : CharSet)
  /-- Any character; the line feed only if `newline` is set. -/
  | dot (newline : Bool)
  | anchor (a : Anchor)
  | capture (t : Tree)
  | loop (r : Repetition) (t : Tree)
  | sequence (ts : List Tree)
  | alternatives (ts : List Tree)

namespace Tree

/-! ## Measures -/

mutual

def height : Tree → Nat
  | .capture t | .loop _ t => t.height + 1
  | .sequence ts | .alternatives ts => heights ts + 1
  | _ => 1

def heights : List Tree → Nat
  | [] => 0
  | t :: ts => max t.height (heights ts)

end

/-- The size of a loop over a body of size `n`: loops with bounds are written out. -/
def Repetition.sizeOver (r : Repetition) (n : Nat) : Nat :=
  match r.max with
  | none => if r.min = 0 then 2 + n else 1 + r.min * n
  | some m => if r.counted then m * n + (m - r.min) else 1 + n

mutual

/-- The number of steps of a machine for the tree, or somewhat more. -/
def size : Tree → Nat
  | .literal _ codes => max 1 codes.size
  | .capture t => 2 + t.size
  | .loop r t => max 1 (Repetition.sizeOver r t.size)
  | .sequence ts => max 1 (sizes ts)
  | .alternatives ts => max 1 (sizes ts + (ts.length - 1))
  | _ => 1

def sizes : List Tree → Nat
  | [] => 0
  | t :: ts => t.size + sizes ts

end

mutual

/-- Whether nested counted loops stay below `n` repetitions altogether. -/
def countWithin : Nat → Tree → Bool
  | n, .loop r t =>
    match r.max with
    | some 0 => true
    | _ =>
      let m := if r.counted then r.max.getD r.min else 0
      m ≤ n && t.countWithin (if 0 < m then n / m else n)
  | n, .capture t => t.countWithin n
  | n, .sequence ts | n, .alternatives ts => allCountWithin n ts
  | _, _ => true

def allCountWithin : Nat → List Tree → Bool
  | _, [] => true
  | n, t :: ts => t.countWithin n && allCountWithin n ts

end

/-! ## Single characters -/

/-- Whether a tree stands for one character. -/
def isClass : Tree → Bool
  | .literal _ codes => codes.size == 1
  | .set _ | .dot _ => true
  | _ => false

def charSet : Tree → CharSet
  | .literal flags codes => (codes[0]?).elim .none fun c => flags.close (.singleton c)
  | .set s => s
  | .dot newline => if newline then .any else .notNewline
  | _ => .none

def unite : Tree → Tree → Tree
  | .dot true, _ | _, .dot true => .dot true
  | .dot false, t | t, .dot false => .dot (t.charSet.contains 10)
  | .literal f c, .literal g d =>
    if c = d ∧ f = g then .literal f c
    else .set (.union (Tree.literal f c).charSet (Tree.literal g d).charSet)
  | a, b => .set (.union a.charSet b.charSet)

/-- Writes a set as `dot` where it is one. -/
def tidy : Tree → Tree
  | .set s =>
    let rs := s.ranges
    if rs = CharSet.any.ranges then .dot true
    else if rs = CharSet.notNewline.ranges then .dot false
    else .set s
  | t => t

/-- Writes a set with one member as a literal, and one with two that differ in case as a literal
whose case does not count. -/
def settle (flags : Flags) : Tree → Tree
  | .set s =>
    let swaps (a b : Nat) : Bool := Unicode.foldNext a == b && Unicode.foldNext b == a
    match s.ranges with
    | [⟨a, b⟩] =>
      if a = b then .literal { flags with fold := false } #[a]
      else if a + 1 = b ∧ swaps a b then .literal { flags with fold := true } #[a]
      else .set s
    | [⟨a, a'⟩, ⟨b, b'⟩] =>
      if a = a' ∧ b = b' ∧ swaps a b then .literal { flags with fold := true } #[a] else .set s
    | _ => .set s
  | t => t

/-! ## Sequences -/

/-- Joins the last two trees of a sequence, given in reverse, if both are literals that treat case
alike. -/
def joinLast : List Tree → List Tree
  | .literal f codes :: .literal g before :: rest =>
    if f.fold = g.fold then .literal g (before ++ codes) :: rest
    else .literal f codes :: .literal g before :: rest
  | ts => ts

def ofReversed (ts : List Tree) : Tree :=
  match (joinLast ts).reverse with
  | [] => .empty
  | [t] => t
  | ts => .sequence (ts.flatMap fun
    | .sequence us => us
    | t => [t])

/-! ## Alternatives -/

/-- The literal that a tree starts with, and whether its case counts. -/
def leadingCodes : Tree → List Nat × Bool
  | .literal f codes | .sequence (.literal f codes :: _) => (codes.toList, f.fold)
  | _ => ([], false)

def dropFromLiteral (n : Nat) (f : Flags) (codes : Array Nat) : Tree :=
  if codes.size ≤ n then .empty else .literal f (codes.extract n codes.size)

/-- Drops the first `n` code points of a tree that starts with a literal. -/
def dropCodes (n : Nat) : Tree → Tree
  | .literal f codes => dropFromLiteral n f codes
  | .sequence (.literal f codes :: rest) =>
    match dropFromLiteral n f codes, rest with
    | .empty, [t] => t
    | .empty, ts => .sequence ts
    | t, ts => .sequence (t :: ts)
  | t => t

/-- The tree that a tree starts with, if that is one character or a fixed number of repetitions of
one. -/
def leadingClass? : Tree → Option Tree
  | .sequence (t :: _) => if shared t then some t else none
  | t => if shared t then some t else none
where
  /-- Whether alternatives may share such a start. -/
  shared : Tree → Bool
    | .loop r t => r.counted && r.max == some r.min && t.isClass
    | t => t.isClass

/-- Whether two trees that alternatives may start with are the same. -/
def sameStart : Tree → Tree → Bool
  | .literal f c, .literal g d => f.fold == g.fold && c == d
  | .set s, .set t => s.ranges == t.ranges
  | .dot a, .dot b => a == b
  | .loop r t, .loop q u => r.min == q.min && r.max == q.max && r.lazy == q.lazy && leaf t u
  | _, _ => false
where
  /-- The same for trees that are no loops. -/
  leaf : Tree → Tree → Bool
    | .literal f c, .literal g d => f.fold == g.fold && c == d
    | .set s, .set t => s.ranges == t.ranges
    | .dot a, .dot b => a == b
    | _, _ => false

def dropFirst : Tree → Tree
  | .sequence [_, t] => t
  | .sequence (_ :: ts) => if ts.isEmpty then .empty else .sequence ts
  | _ => .empty

def commonStart : List Nat → List Nat → List Nat
  | a :: as, b :: bs => if a = b then a :: commonStart as bs else []
  | _, _ => []

/-- Splits trees into runs that start with the same literal; each run with what its trees share. -/
def literalRuns : List Tree → List (List Nat × Bool × List Tree)
  | [] => []
  | t :: ts => go t.leadingCodes.1 t.leadingCodes.2 [t] ts
where
  /-- Extends the run whose trees, in reverse, share `codes`. -/
  go (codes : List Nat) (fold : Bool) (run : List Tree) :
      List Tree → List (List Nat × Bool × List Tree)
    | [] => [(codes, fold, run.reverse)]
    | t :: ts =>
      let (next, fold') := t.leadingCodes
      let shared := commonStart codes next
      if fold = fold' ∧ !shared.isEmpty then go shared fold (t :: run) ts
      else (codes, fold, run.reverse) :: go next fold' [t] ts

/-- Splits trees into runs that start with the same set. -/
def classRuns : List Tree → List (Option Tree × List Tree)
  | [] => []
  | t :: ts => go t.leadingClass? [t] ts
where
  /-- Extends the run whose trees, in reverse, start with `first`. -/
  go (first : Option Tree) (run : List Tree) : List Tree → List (Option Tree × List Tree)
    | [] => [(first, run.reverse)]
    | t :: ts =>
      match first, t.leadingClass? with
      | some a, some b =>
        if sameStart a b then go first (t :: run) ts
        else (first, run.reverse) :: go (some b) [t] ts
      | _, next => (first, run.reverse) :: go next [t] ts

/-- Joins neighbours that stand for one character. -/
def joinClasses : List Tree → List Tree
  | [] => []
  | t :: ts => go t false ts
where
  /-- Extends `t`, which was joined before if `joined` is set. -/
  go (t : Tree) (joined : Bool) : List Tree → List Tree
    | [] => [if joined then t.tidy else t]
    | u :: us =>
      if t.isClass && u.isClass then go (t.unite u) true us
      else (if joined then t.tidy else t) :: go u false us

def joinEmpty : List Tree → List Tree
  | .empty :: .empty :: ts => joinEmpty (.empty :: ts)
  | t :: ts => t :: joinEmpty ts
  | [] => []

/-- The tree for a choice between trees: alternatives of alternatives are hoisted, and common starts
are taken out. The fuel bounds the number of starts taken out of each other. -/
def choice : Nat → List Tree → Tree
  | _, [t] => t
  | 0, ts => .alternatives ts
  | fuel + 1, ts =>
    let ts := ts.flatMap fun
      | .alternatives us => us
      | t => [t]
    let ts := (literalRuns ts).flatMap fun
      | (_, _, [t]) => [t]
      | (codes, fold, run) =>
        [.sequence [.literal { fold := fold } codes.toArray,
          choice fuel (run.map (dropCodes codes.length))]]
    let ts := (classRuns ts).flatMap fun
      | (some first, t :: u :: run) =>
        [.sequence [first, choice fuel ((t :: u :: run).map dropFirst)]]
      | (_, run) => run
    match joinEmpty (joinClasses ts) with
    | [t] => t
    | ts => .alternatives ts

/-! ## Meaning -/

mutual

def toPattern : Tree → Pattern CharSet Anchor
  | .empty => .empty
  | .literal flags codes =>
    codes.foldr (fun c p => .seq (.set (flags.close (.singleton c))) p) .empty
  | .set s => .set s
  | .dot newline => .set (if newline then .any else .notNewline)
  | .anchor a => .anchor a
  | .capture t => t.toPattern
  | .loop r t => .loop r.min r.max t.toPattern
  | .sequence ts => sequencePattern ts
  | .alternatives ts => choicePattern ts

def sequencePattern : List Tree → Pattern CharSet Anchor
  | [] => .empty
  | t :: ts => .seq t.toPattern (sequencePattern ts)

def choicePattern : List Tree → Pattern CharSet Anchor
  | [] => .set .none
  | [t] => t.toPattern
  | t :: ts => .alt t.toPattern (choicePattern ts)

end

end Tree

end FilterQuery.Regex
