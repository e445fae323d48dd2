import FilterQuery.Document.Yaml.Cursor

/-!
# The text of scalars

Scalars are plain, quoted or blocks of lines. Lines of a plain or quoted scalar are folded: a line
break between words is a blank, and a run of breaks has one break less.
-/

namespace FilterQuery.Yaml

/-! ## Gaps between words -/

/-- What separates two words of a scalar: blanks before the first line break, that break, and the
breaks after it. An escaped break has no text. -/
structure Gap where
  blanks : List Char := []
  first : Option (List Char) := none
  more : List Char := []

namespace Gap

def text (g : Gap) : List Char :=
  match g.first with
  | none => g.blanks
  | some ['\n'] => if g.more.isEmpty then [' '] else g.more
  | some b => b ++ g.more

def crossesLine (g : Gap) : Bool := g.first.isSome

/-- Reads blanks and line breaks in front of a line that is indented by `indent`. -/
def read (indent : Nat) : Nat → Gap → Cursor → Option (Gap × Cursor)
  | 0, g, c => some (g, c)
  | fuel + 1, g, c =>
    if isBlank c.peek then
      if g.crossesLine then
        -- no tab in the indentation
        if c.peek == '\t' && c.mark.column < indent then none
        else read indent fuel g c.next
      else read indent fuel { g with blanks := g.blanks ++ [c.peek] } c.next
    else if isBreak c.peek then
      if g.crossesLine then
        read indent fuel { g with more := g.more ++ c.breakText } c.nextLine
      else read indent fuel { g with blanks := [], first := some c.breakText } c.nextLine
    else some (g, c)

end Gap

/-! ## Quoted scalars -/

def hexNumber? (cs : List Char) : Option Nat :=
  cs.foldlM (fun n c =>
    if c.isDigit then some (n * 16 + (c.toNat - '0'.toNat))
    else if 'a' ≤ c ∧ c ≤ 'f' then some (n * 16 + (c.toNat - 'a'.toNat + 10))
    else if 'A' ≤ c ∧ c ≤ 'F' then some (n * 16 + (c.toNat - 'A'.toNat + 10))
    else none) 0

def escape? (c : Char) : Option Char :=
  match c with
  | '0' => some '\x00'
  | 'a' => some '\x07'
  | 'b' => some '\x08'
  | 't' | '\t' => some '\t'
  | 'n' => some '\n'
  | 'v' => some '\x0b'
  | 'f' => some '\x0c'
  | 'r' => some '\r'
  | 'e' => some '\x1b'
  | ' ' => some ' '
  | '"' => some '"'
  | '\'' => some '\''
  | '\\' => some '\\'
  | 'N' => some '\x85'
  | '_' => some '\xa0'
  | 'L' => some '\u2028'
  | 'P' => some '\u2029'
  | _ => none

def escapeWidth? (c : Char) : Option Nat :=
  match c with
  | 'x' => some 2
  | 'u' => some 4
  | 'U' => some 8
  | _ => none

/-- Reads an escape whose backslash is ahead. -/
def readEscape (c : Cursor) : Option (Char × Cursor) :=
  match escape? (c.peekAt 1) with
  | some ch => some (ch, c.advance 2)
  | none => do
    let width ← escapeWidth? (c.peekAt 1)
    let digits := (c.rest.drop 2).take width
    if digits.length < width then none
    else
      let n ← hexNumber? digits
      if n.isValidChar then some (Char.ofNat n, c.advance (2 + width)) else none

/-- Reads a quoted scalar behind its opening quote; `acc` is the text before, reversed. -/
def readQuoted (single : Bool) : Nat → List Char → Cursor → Option (String × Cursor)
  | 0, _, _ => none
  | fuel + 1, acc, c =>
    if c.atDocumentMark || c.atEnd then none
    else if isBlank c.peek || isBreak c.peek then do
      let (gap, c) ← Gap.read 0 (c.rest.length + 1) {} c
      readQuoted single fuel (gap.text.reverse ++ acc) c
    else if single && c.peek == '\'' then
      if c.peekAt 1 == '\'' then readQuoted single fuel ('\'' :: acc) (c.advance 2)
      else some (String.ofList acc.reverse, c.next)
    else if !single && c.peek == '"' then some (String.ofList acc.reverse, c.next)
    else if !single && c.peek == '\\' then
      if isBreak (c.peekAt 1) then do
        let c := c.next.nextLine
        let (gap, c) ← Gap.read 0 (c.rest.length + 1) { first := some [] } c
        readQuoted single fuel (gap.text.reverse ++ acc) c
      else do
        let (ch, c) ← readEscape c
        readQuoted single fuel (ch :: acc) c
    else readQuoted single fuel (c.peek :: acc) c.next

/-! ## Plain scalars -/

/-- A plain scalar and what follows the gap behind it. -/
structure Plain where
  text : String
  rest : Cursor
  /-- Whether the scalar was followed by the end of its line. -/
  endsLine : Bool

/-- Whether a plain scalar ends before the next character. -/
def endsPlain (flow : Bool) (c : Cursor) : Bool :=
  (c.peek == ':' && isGap (c.peekAt 1)) ||
    (flow && [',', '?', '[', ']', '\x7b', '\x7d'].contains c.peek)

def readWord (flow : Bool) : Nat → List Char → Cursor → List Char × Cursor
  | 0, acc, c => (acc, c)
  | fuel + 1, acc, c =>
    if isGap c.peek || endsPlain flow c then (acc, c)
    else readWord flow fuel (c.peek :: acc) c.next

/-- Reads a plain scalar whose lines are indented by `indent` or, in flow style, not at all; `acc`
is the text before, reversed, and `gap` what follows that text. -/
def readPlain (flow : Bool) (indent : Nat) :
    Nat → List Char → Gap → Cursor → Option Plain
  | 0, _, _, _ => none
  | fuel + 1, acc, gap, c =>
    let done : Option Plain := some ⟨String.ofList acc.reverse, c, gap.crossesLine⟩
    if c.atDocumentMark || c.peek == '#' then done
    else
      let (word, c) := readWord flow (c.rest.length + 1) [] c
      let (acc, gap) :=
        if word.isEmpty then (acc, gap) else (word ++ (gap.text.reverse ++ acc), ({} : Gap))
      if isBlank c.peek || isBreak c.peek then do
        let (gap, c) ← Gap.read indent (c.rest.length + 1) gap c
        if !flow && c.mark.column < indent then
          some ⟨String.ofList acc.reverse, c, gap.crossesLine⟩
        else readPlain flow indent fuel acc gap c
      else some ⟨String.ofList acc.reverse, c, gap.crossesLine⟩

/-! ## Block scalars -/

/-- What becomes of the line breaks at the end of a block scalar. -/
inductive Chomping where
  | strip
  | clip
  | keep
deriving DecidableEq, Repr

def readChomping (c : Cursor) : Chomping × Cursor :=
  if c.peek == '+' then (.keep, c.next)
  else if c.peek == '-' then (.strip, c.next)
  else (.clip, c)

/-- Reads an indentation indicator; zero stands for none. A written zero is refused. -/
def readIncrement (c : Cursor) : Option (Nat × Cursor) :=
  if c.peek == '0' then none
  else if c.peek.isDigit then some (c.peek.toNat - '0'.toNat, c.next)
  else some (0, c)

/-- Reads the two indicators in either order. -/
def readIndicators (c : Cursor) : Option (Chomping × Nat × Cursor) := do
  match readChomping c with
  | (.clip, c) =>
    let (n, c) ← readIncrement c
    if n = 0 then return (.clip, 0, c)
    else
      let (chomping, c) := readChomping c
      return (chomping, n, c)
  | (chomping, c) =>
    let (n, c) ← readIncrement c
    return (chomping, n, c)

/-- Reads indentation and empty lines before a line of content: the breaks, and the largest column
reached. An indentation of zero is not known yet. -/
def readIndentation (indent : Nat) :
    Nat → List Char → Nat → Cursor → Option (List Char × Nat × Cursor)
  | 0, breaks, top, c => some (breaks, top, c)
  | fuel + 1, breaks, top, c =>
    let blanks := (c.taken (· == ' ')).length
    let c := c.advance (if indent = 0 then blanks else min blanks (indent - c.mark.column))
    let top := max top c.mark.column
    if c.peek == '\t' && (indent = 0 || c.mark.column < indent) then none
    else if isBreak c.peek then
      readIndentation indent fuel (breaks ++ c.breakText) top c.nextLine
    else some (breaks, top, c)

/-- What was read of a block scalar: the text, reversed; the break behind the last line; the empty
lines behind that; and whether the last line started with a blank. -/
structure Lines where
  acc : List Char := []
  lastBreak : List Char := []
  empty : List Char := []
  blankLed : Bool := false

/-- Reads the lines of a block scalar that stand at column `indent`. -/
def readLines (folded : Bool) (indent : Nat) : Nat → Lines → Cursor → Option (Lines × Cursor)
  | 0, ls, c => some (ls, c)
  | fuel + 1, ls, c =>
    if c.mark.column != indent || c.atEnd then some (ls, c)
    else
      let blank := isBlank c.peek
      let joint :=
        if folded && !ls.blankLed && !blank && ls.lastBreak == ['\n'] then
          if ls.empty.isEmpty then [' '] else []
        else ls.lastBreak
      let content := c.taken fun ch => !(isBreak ch || isEnd ch)
      let c := c.skipLine
      let acc := content.reverse ++ (ls.empty.reverse ++ (joint.reverse ++ ls.acc))
      let (lastBreak, c) := if isBreak c.peek then (c.breakText, c.nextLine) else ([], c)
      match readIndentation indent (c.rest.length + 1) [] 0 c with
      | none => none
      | some (empty, _, c) =>
        readLines folded indent fuel
          { acc := acc, lastBreak := lastBreak, empty := empty, blankLed := blank } c

/-- Reads a block scalar behind its indicator. `outer` is the indentation of the block around it,
if there is one. -/
def readBlock (folded : Bool) (outer : Option Nat) (c : Cursor) : Option (String × Cursor) := do
  let (chomping, increment, c) ← readIndicators c
  let c := c.skipWhile isBlank
  let c := if c.peek == '#' then c.skipLine else c
  if !(isBreak c.peek || c.atEnd) then none
  else
    let c := if isBreak c.peek then c.nextLine else c
    -- without an indicator, the first line of content shows the indentation
    let known := if increment = 0 then 0 else outer.getD 0 + increment
    let (empty, top, c) ← readIndentation known (c.rest.length + 1) [] 0 c
    let least := max 1 (match outer with | some n => n + 1 | none => 0)
    let indent := if known = 0 then max top least else known
    let (ls, c) ← readLines folded indent (c.rest.length + 1) { empty := empty } c
    let tail := match chomping with
      | .strip => []
      | .clip => ls.lastBreak
      | .keep => ls.lastBreak ++ ls.empty
    some (String.ofList (ls.acc.reverse ++ tail), c)

end FilterQuery.Yaml
