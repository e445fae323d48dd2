import FilterQuery.Regex.Tree

/-!
# Reading patterns

The written form of patterns: literals, classes, groups, alternatives, repetition, anchors and
flags. There are no back references and no look-around, so that matching takes time linear in the
subject for a given pattern.

The reader keeps one `Frame` per open group. An alternative is a list of trees; a repetition
operator applies to the last tree of the alternative that is being read. Every tree is checked
against the limits when it is complete.
-/

namespace FilterQuery.Regex

inductive Fault where
  | charRange
  | escape
  | groupName
  | flags
  | stackedRepeat
  | repeatCount
  | missingBracket
  | missingParen
  | missingRepeatArgument
  | trailingBackslash
  | unexpectedParen
  | nesting
  | size
deriving DecidableEq, Repr

def Fault.message : Fault → String
  | .charRange => "invalid character class range"
  | .escape => "invalid escape sequence"
  | .groupName => "invalid named capture"
  | .flags => "invalid or unsupported Perl syntax"
  | .stackedRepeat => "invalid nested repetition operator"
  | .repeatCount => "invalid repeat count"
  | .missingBracket => "missing closing ]"
  | .missingParen => "missing closing )"
  | .missingRepeatArgument => "missing argument to repetition operator"
  | .trailingBackslash => "trailing backslash at end of expression"
  | .unexpectedParen => "unexpected )"
  | .nesting => "expression nests too deeply"
  | .size => "expression too large"

/-- A fault and the part of the pattern that shows it. -/
structure PatternError where
  fault : Fault
  excerpt : String
deriving DecidableEq, Repr

def PatternError.message (e : PatternError) : String :=
  "error parsing regexp: " ++ e.fault.message ++ ": \x60" ++ e.excerpt ++ "\x60"

def maxHeight : Nat := 1000

/-- The greatest size of a tree: steps of forty bytes in 128 mebibytes. -/
def maxSize : Nat := 128 * 1024 * 1024 / 40

/-- A tree within the limits; `whole` is the complete pattern. -/
def Tree.limited (whole : List Char) (t : Tree) : Except PatternError Tree :=
  if maxSize < t.size then .error ⟨.size, String.ofList whole⟩
  else if maxHeight < t.height then .error ⟨.nesting, String.ofList whole⟩
  else .ok t

/-- An open group: whether it captures, the flags outside of it, the alternatives finished so far
and the trees of the current one, both in reverse. -/
structure Frame where
  outer : Flags
  captures : Bool := false
  alternatives : List Tree := []
  items : List Tree := []

namespace Frame

def push (f : Frame) (t : Tree) : Frame := { f with items := t :: Tree.joinLast f.items }

/-- Ends the current alternative. -/
def bar (whole : List Char) (flags : Flags) (f : Frame) : Except PatternError Frame := do
  let t ← ((Tree.ofReversed f.items).settle flags).limited whole
  let alternatives := match f.alternatives with
    | [] => [t]
    -- two alternatives of one character each are one class
    | a :: before => if a.isClass && t.isClass then a.unite t :: before else t :: a.tidy :: before
  return { f with alternatives := alternatives, items := [] }

/-- What stands between the parentheses of the group. -/
def close (whole : List Char) (flags : Flags) (f : Frame) : Except PatternError Tree := do
  let f ← f.bar whole flags
  let ts := match f.alternatives with
    | [] => []
    | t :: before => (t.tidy :: before).reverse
  ((Tree.choice (whole.length + 1) ts).settle flags).limited whole

end Frame

/-- The part of a text that was consumed when `rest` is left. -/
def consumed (text rest : List Char) : String :=
  String.ofList (text.take (text.length - rest.length))

/-- Fails with the part of the text that was consumed. -/
def faultAt {α : Type} (fault : Fault) (text rest : List Char) : Except PatternError α :=
  .error ⟨fault, consumed text rest⟩

/-- Whether a character may stand for itself after a backslash. -/
def isAsciiPunctuation (c : Char) : Bool := c.toNat < 0x80 && !c.isAlphanum

def hexValue? (c : Char) : Option Nat :=
  if c.isDigit then some (c.toNat - '0'.toNat)
  else if 'a' ≤ c ∧ c ≤ 'f' then some (c.toNat - 'a'.toNat + 10)
  else if 'A' ≤ c ∧ c ≤ 'F' then some (c.toNat - 'A'.toNat + 10)
  else none

def octalValue? (c : Char) : Option Nat :=
  if '0' ≤ c ∧ c ≤ '7' then some (c.toNat - '0'.toNat) else none

/-- Up to `k` further octal digits. -/
def readOctal : Nat → Nat → List Char → Nat × List Char
  | 0, n, cs => (n, cs)
  | _, n, [] => (n, [])
  | k + 1, n, c :: cs =>
    match octalValue? c with
    | some d => readOctal k (n * 8 + d) cs
    | none => (n, c :: cs)

/-- The outcome of reading hexadecimal digits up to a closing brace; on failure, the text that is
left at the point of failure. -/
def readBraced : Nat → Nat → List Char → Except (List Char) (Nat × List Char)
  | _, _, [] => .error []
  | count, n, c :: cs =>
    if c = '\x7d' then
      if count = 0 then .error cs else .ok (n, cs)
    else match hexValue? c with
      | some d =>
        if n * 16 + d > 0x10FFFF then .error cs else readBraced (count + 1) (n * 16 + d) cs
      | none => .error cs

/-- Reads an escaped character; `text` starts with the backslash. -/
def readEscape (text : List Char) : Except PatternError (Nat × List Char) :=
  match text.tail with
  | [] => .error ⟨.trailingBackslash, ""⟩
  | c :: t =>
    let bad (rest : List Char) : Except PatternError (Nat × List Char) := faultAt .escape text rest
    if '1' ≤ c ∧ c ≤ '7' then
      match t with
      | d :: _ =>
        if (octalValue? d).isSome then .ok (readOctal 2 (c.toNat - '0'.toNat) t) else bad t
      | [] => bad t
    else match c with
      | '0' => .ok (readOctal 2 0 t)
      | 'x' =>
        match t with
        | [] => bad t
        | '\x7b' :: t =>
          match readBraced 0 0 t with
          | .ok r => .ok r
          | .error rest => bad rest
        | _ :: [] => bad []
        | x :: y :: t =>
          match hexValue? x, hexValue? y with
          | some a, some b => .ok (a * 16 + b, t)
          | _, _ => bad t
      | 'a' => .ok (0x07, t)
      | 'f' => .ok (0x0C, t)
      | 'n' => .ok (0x0A, t)
      | 'r' => .ok (0x0D, t)
      | 't' => .ok (0x09, t)
      | 'v' => .ok (0x0B, t)
      | c => if isAsciiPunctuation c then .ok (c.toNat, t) else bad t

/-- Reads a class given by a Unicode property; `none` when the text does not start with one. -/
def readProperty (flags : Flags) (text : List Char) :
    Except PatternError (Option (CharSet × List Char)) :=
  match text with
  | '\\' :: p :: t =>
    if p = 'p' ∨ p = 'P' then
      let found (name : List Char) (rest : List Char) :=
        let (negated, name) := match name with
          | '^' :: n => (true, n)
          | n => (false, n)
        match Unicode.property? (String.ofList name) with
        | none => faultAt .charRange text rest
        | some property =>
          let s := flags.close (.property property)
          .ok (some (if (p == 'P') != negated then .complement s else s, rest))
      match t with
      | [] => found [] []
      | '\x7b' :: body =>
        let name := body.takeWhile (· ≠ '\x7d')
        match body.drop name.length with
        | [] => faultAt .charRange text []
        | _ :: rest => found name rest
      | c :: rest => found [c] rest
    else .ok none
  | _ => .ok none

def readShorthand? (flags : Flags) : List Char → Option (CharSet × List Char)
  | '\\' :: c :: t =>
    (CharSet.shorthand? c.toLower).map fun s =>
      let s := flags.close s
      (if c.isUpper then .complement s else s, t)
  | _ => none

/-- The text before the first `:]`, and the text after it. -/
def splitColonBracket : List Char → Option (List Char × List Char)
  | [] => none
  | ':' :: ']' :: rest => some ([], rest)
  | c :: rest => (splitColonBracket rest).map fun (a, b) => (c :: a, b)

def readNamedClass (flags : Flags) (text : List Char) :
    Except PatternError (Option (CharSet × List Char)) :=
  match text with
  | '[' :: ':' :: t =>
    match splitColonBracket t with
    | none => .ok none
    | some (name, rest) =>
      let (negated, name) := match name with
        | '^' :: n => (true, n)
        | n => (false, n)
      match CharSet.named? (String.ofList name) with
      | none => faultAt .charRange text rest
      | some s =>
        let s := flags.close s
        .ok (some (if negated then .complement s else s, rest))
  | _ => .ok none

def readClassChar (whole text : List Char) : Except PatternError (Nat × List Char) :=
  match text with
  | [] => .error ⟨.missingBracket, String.ofList whole⟩
  | '\\' :: _ => readEscape text
  | c :: t => .ok (c.toNat, t)

def readClassRange (flags : Flags) (whole text : List Char) :
    Except PatternError (CharSet × List Char) := do
  let (lo, t) ← readClassChar whole text
  let dash := match t with
    | '-' :: c :: _ => c != ']'
    | _ => false
  if dash then
    let (hi, t) ← readClassChar whole t.tail
    if hi < lo then faultAt .charRange text t
    else return (flags.close (.range lo hi), t)
  else return (flags.close (.range lo lo), t)

/-- Reads the items of a class up to its closing bracket. `first` says that a bracket would be an
ordinary character. -/
def readClassItems (flags : Flags) (whole : List Char) :
    Nat → Bool → CharSet → List Char → Except PatternError (CharSet × List Char)
  | 0, _, _, _ => .error ⟨.missingBracket, String.ofList whole⟩
  | fuel + 1, first, acc, text => do
    match text, first with
    | ']' :: rest, false => return (acc, rest)
    | _, _ =>
      if let some (s, rest) ← readNamedClass flags text then
        return ← readClassItems flags whole fuel false (.union acc s) rest
      if let some (s, rest) ← readProperty flags text then
        return ← readClassItems flags whole fuel false (.union acc s) rest
      if let some (s, rest) := readShorthand? flags text then
        return ← readClassItems flags whole fuel false (.union acc s) rest
      let (s, rest) ← readClassRange flags whole text
      readClassItems flags whole fuel false (.union acc s) rest

/-- Reads a bracketed class; `text` starts with the bracket. -/
def readClass (flags : Flags) (text : List Char) : Except PatternError (CharSet × List Char) := do
  let t := text.tail
  let (negated, t) := match t with
    | '^' :: t => (true, t)
    | t => (false, t)
  let (s, rest) ← readClassItems flags text (t.length + 2) true .none t
  return (if negated then .complement s else s, rest)

/-- A repetition count: `none` stands for a number too large to matter. -/
def readCount? (cs : List Char) : Option (Option Nat × List Char) :=
  let ds := cs.takeWhile Char.isDigit
  match ds with
  | [] => none
  | '0' :: _ :: _ => none
  | _ =>
    let n := ds.foldl (fun n d => n * 10 + (d.toNat - '0'.toNat)) 0
    some (if n ≤ 1000 then some n else none, cs.drop ds.length)

structure Bounds where
  min : Option Nat
  /-- `none` when there is no upper bound. -/
  max : Option (Option Nat)

/-- Reads `{n}`, `{n,}` or `{n,m}`; `none` when the brace is an ordinary character. -/
def readBounds? (text : List Char) : Option (Bounds × List Char) := do
  let (min, t) ← readCount? text.tail
  match t with
  | '\x7d' :: rest => some (⟨min, some min⟩, rest)
  | ',' :: '\x7d' :: rest => some (⟨min, none⟩, rest)
  | ',' :: t =>
    let (max, t) ← readCount? t
    match t with
    | '\x7d' :: rest => some (⟨min, some max⟩, rest)
    | _ => none
  | _ => none

/-- The reader between two items. `lastRepeat` is the text from the operator that made the last
item, if one did. -/
structure Reader where
  flags : Flags := {}
  frame : Frame := { outer := {} }
  stack : List Frame := []
  lastRepeat : Option (List Char) := none

namespace Reader

def push (r : Reader) (t : Tree) : Reader :=
  { r with frame := r.frame.push (t.settle r.flags), lastRepeat := none }

def literal (r : Reader) (c : Nat) : Reader :=
  -- where case does not count, the smallest of an orbit stands for all of it
  let c := if r.flags.fold then (Unicode.foldOrbit c).foldl min c else c
  r.push (.literal r.flags #[c])

/-- Opens a group; inside, the flags are `inner`. -/
def openGroup (r : Reader) (captures : Bool) (inner : Flags) : Reader :=
  { r with
    flags := inner
    frame := { outer := r.flags, captures := captures }
    stack := { r.frame with items := Tree.joinLast r.frame.items } :: r.stack
    lastRepeat := none }

/-- Repeats the last tree; `before` starts with the operator and `after` follows it. -/
def repeatLast (whole : List Char) (r : Reader) (min : Nat) (max : Option Nat) (counted : Bool)
    (before after : List Char) : Except PatternError (Reader × List Char) := do
  -- a question mark changes preference only, which matching does not see
  let (lazy, after) := match after with
    | '?' :: t => (!r.flags.ungreedy, t)
    | t => (r.flags.ungreedy, t)
  match r.lastRepeat with
  | some text => faultAt .stackedRepeat text after
  | none =>
    match r.frame.items with
    | [] => faultAt .missingRepeatArgument before after
    | t :: items =>
      let looped ← (Tree.loop ⟨min, max, counted, lazy⟩ t).limited whole
      if counted && (2 ≤ min || max.any (2 ≤ ·)) && !looped.countWithin 1000 then
        faultAt .repeatCount before after
      else
        let frame := { r.frame with items := looped :: items }
        return ({ r with frame := frame, lastRepeat := some before }, after)

def isGroupName (name : List Char) : Bool :=
  !name.isEmpty && name.all fun c => c == '_' || c.isAlphanum

def splitAngle? (cs : List Char) : Option (List Char × List Char) :=
  let name := cs.takeWhile (· ≠ '>')
  match cs.drop name.length with
  | [] => none
  | _ :: rest => some (name, rest)

/-- Reads flags up to a colon or a parenthesis. `negated` says that a minus was read, and `any`
that a flag was read since. -/
def readFlags (text : List Char) :
    Flags → Bool → Bool → List Char → Except PatternError (Bool × Flags × List Char)
  | _, _, _, [] => faultAt .flags text []
  | f, negated, any, c :: t =>
    match c with
    | 'i' => readFlags text { f with fold := !negated } negated true t
    | 'm' => readFlags text { f with multiLine := !negated } negated true t
    | 's' => readFlags text { f with dotNewline := !negated } negated true t
    | 'U' => readFlags text { f with ungreedy := !negated } negated true t
    | '-' => if negated then faultAt .flags text t else readFlags text f true false t
    | ':' => if negated && !any then faultAt .flags text t else .ok (true, f, t)
    | ')' => if negated && !any then faultAt .flags text t else .ok (false, f, t)
    | _ => faultAt .flags text t

/-- Reads what starts with `(?`: a named group, a group with flags, or flags alone. -/
def readSpecialGroup (r : Reader) (text : List Char) :
    Except PatternError (Reader × List Char) := do
  let named? := match text.drop 2 with
    | 'P' :: '<' :: t => if t.isEmpty then none else some t
    | '<' :: t => if t.isEmpty then none else some t
    | _ => none
  match named? with
  | some t =>
    match splitAngle? t with
    | none => .error ⟨.groupName, String.ofList text⟩
    | some (name, rest) =>
      if isGroupName name then return (r.openGroup true r.flags, rest)
      else faultAt .groupName text rest
  | none =>
    let (opens, flags, rest) ← readFlags text r.flags false false (text.drop 2)
    if opens then return (r.openGroup false flags, rest)
    else return ({ r with flags := flags, lastRepeat := none }, rest)

/-- The literal text of a `\Q` quotation, and the text after its `\E`. -/
def splitQuotation : List Char → List Char × List Char
  | [] => ([], [])
  | '\\' :: 'E' :: rest => ([], rest)
  | c :: rest =>
    let (a, b) := splitQuotation rest
    (c :: a, b)

/-- Reads what starts with a backslash outside of a class. -/
def readBackslash (r : Reader) (text : List Char) : Except PatternError (Reader × List Char) := do
  match text with
  | _ :: 'A' :: t => return (r.push (.anchor .textStart), t)
  | _ :: 'b' :: t => return (r.push (.anchor .wordBoundary), t)
  | _ :: 'B' :: t => return (r.push (.anchor .notWordBoundary), t)
  | _ :: 'C' :: t => faultAt .escape text t
  | _ :: 'Q' :: t =>
    let (quoted, rest) := splitQuotation t
    return (quoted.foldl (fun r c => r.literal c.toNat) { r with lastRepeat := none }, rest)
  | _ :: 'z' :: t => return (r.push (.anchor .textEnd), t)
  | _ =>
    if let some (s, rest) ← readProperty r.flags text then
      return (r.push (.set s), rest)
    if let some (s, rest) := readShorthand? r.flags text then
      return (r.push (.set s), rest)
    let (c, rest) ← readEscape text
    return (r.literal c, rest)

/-- Closes the innermost group; `whole` is the complete pattern. -/
def closeGroup (r : Reader) (whole : List Char) : Except PatternError Reader := do
  let body ← r.frame.close whole r.flags
  match r.stack with
  | [] => .error ⟨.unexpectedParen, String.ofList whole⟩
  | outer :: stack =>
    let group ← if r.frame.captures then (Tree.capture body).limited whole else pure body
    return {
      flags := r.frame.outer
      frame := outer.push group
      stack := stack
      lastRepeat := none }

/-- Reads the first item or operator of a nonempty text. -/
def step (whole : List Char) (r : Reader) (c : Char) (t : List Char) :
    Except PatternError (Reader × List Char) := do
  let text := c :: t
  match c with
  | '(' =>
    match t with
    | '?' :: _ => r.readSpecialGroup text
    | _ => return (r.openGroup true r.flags, t)
  | '|' => return ({ r with frame := ← r.frame.bar whole r.flags, lastRepeat := none }, t)
  | ')' => return (← r.closeGroup whole, t)
  | '^' => return (r.push (.anchor (if r.flags.multiLine then .lineStart else .textStart)), t)
  | '$' => return (r.push (.anchor (if r.flags.multiLine then .lineEnd else .textEnd)), t)
  | '.' => return (r.push (.dot r.flags.dotNewline), t)
  | '[' =>
    let (s, rest) ← readClass r.flags text
    return (r.push (.set s), rest)
  | '*' => repeatLast whole r 0 none false text t
  | '+' => repeatLast whole r 1 none false text t
  | '?' => repeatLast whole r 0 (some 1) false text t
  | '\x7b' =>
    match readBounds? text with
    | none => return (r.literal c.toNat, t)
    | some (b, rest) =>
      match b.min, b.max with
      | some min, none => repeatLast whole r min none true text rest
      | some min, some (some max) =>
        if max < min then faultAt .repeatCount text rest
        else repeatLast whole r min (some max) true text rest
      | _, _ => faultAt .repeatCount text rest
  | '\\' => r.readBackslash text
  | c => return (r.literal c.toNat, t)

def run (whole : List Char) : Nat → Reader → List Char → Except PatternError Reader
  | _, r, [] => .ok r
  -- not reached from the length of the text, since every step consumes a character
  | 0, r, _ => .ok r
  | fuel + 1, r, c :: t => do
    let (r, rest) ← r.step whole c t
    run whole fuel r rest

end Reader

def readPattern (text : List Char) : Except PatternError (Pattern CharSet Anchor) := do
  let r ← Reader.run text (text.length + 1) {} text
  let t ← r.frame.close text r.flags
  if r.stack.isEmpty then return t.toPattern else .error ⟨.missingParen, String.ofList text⟩

end FilterQuery.Regex

namespace FilterQuery

/-- A pattern together with the text it was read from. -/
structure Regex where
  source : String
  pattern : Regex.Pattern Regex.CharSet Regex.Anchor

namespace Regex

/-- The expression without a text, which matches everywhere. -/
def empty : Regex := ⟨"", .empty⟩

/-- What stands for an expression that is missing: it matches nowhere. -/
def never : Regex := ⟨"", .set .none⟩

def ofText (source : String) : Except PatternError Regex := do
  return ⟨source, ← readPattern source.toList⟩

def matchesText (re : Regex) (text : List Char) : Bool :=
  re.pattern.matchesIn (text.map Char.toNat).toArray

end Regex

end FilterQuery
