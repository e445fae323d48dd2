/-!
# Positions in a block document

A cursor is a place in a text: the characters that are left, and the line and column of the first
of them. Behind the last character the cursor shows NUL, which no document holds.
-/

namespace FilterQuery.Yaml

/-- A place in a text, all counted from zero. -/
structure Mark where
  index : Nat := 0
  line : Nat := 0
  column : Nat := 0
deriving DecidableEq, Repr

def isAllowed (c : Char) : Bool :=
  let n := c.toNat
  n == 0x09 || n == 0x0A || n == 0x0D || (0x20 ≤ n && n ≤ 0x7E) || n == 0x85 ||
    (0xA0 ≤ n && n ≤ 0xFFFD) || 0x10000 ≤ n

def isBreak (c : Char) : Bool :=
  c == '\r' || c == '\n' || c == '\x85' || c == '\u2028' || c == '\u2029'

def isBlank (c : Char) : Bool := c == ' ' || c == '\t'

/-- Whether a character is NUL, which stands for the end of the text. -/
def isEnd (c : Char) : Bool := c == '\x00'

/-- Whether a character separates words: a blank, a line break or the end. -/
def isGap (c : Char) : Bool := isBlank c || isBreak c || isEnd c

/-- Whether a character belongs to the names of anchors, directives and tag handles. -/
def isNameChar (c : Char) : Bool := c.isAlphanum || c == '_' || c == '-'

/-- A place in a text and what follows it. -/
structure Cursor where
  rest : List Char
  mark : Mark := {}
  /-- Whether nothing but blanks was read since the last line break. -/
  afterBreak : Bool := false

namespace Cursor

def peekAt (c : Cursor) (n : Nat) : Char := c.rest.getD n '\x00'

def peek (c : Cursor) : Char := c.rest.headD '\x00'

/-- Moves over one character within a line. -/
def next (c : Cursor) : Cursor :=
  { rest := c.rest.tail
    mark := { c.mark with index := c.mark.index + 1, column := c.mark.column + 1 }
    afterBreak := c.afterBreak && isBlank c.peek }

/-- Moves over a line break; a carriage return takes the line feed after it along. -/
def nextLine (c : Cursor) : Cursor :=
  let width := if c.peek == '\r' && c.peekAt 1 == '\n' then 2 else 1
  { rest := c.rest.drop width
    mark := { index := c.mark.index + width, line := c.mark.line + 1, column := 0 }
    afterBreak := true }

/-- Moves over `n` characters within a line. -/
def advance (n : Nat) (c : Cursor) : Cursor := n.repeat next c

/-- The characters ahead that satisfy `p`. -/
def taken (p : Char → Bool) (c : Cursor) : List Char := c.rest.takeWhile p

/-- Moves over the characters that satisfy `p`, all within the line. -/
def skipWhile (p : Char → Bool) (c : Cursor) : Cursor := c.advance (c.taken p).length

def skipLine (c : Cursor) : Cursor := c.skipWhile fun ch => !(isBreak ch || isEnd ch)

def atEnd (c : Cursor) : Bool := isEnd c.peek

/-- The text of the line break ahead: separators of lines and paragraphs are kept, the other breaks
are a line feed. -/
def breakText (c : Cursor) : List Char :=
  if c.peek == '\u2028' || c.peek == '\u2029' then [c.peek] else ['\n']

/-- Whether three characters `ch` alone start the line. -/
def atIndicator (ch : Char) (c : Cursor) : Bool :=
  c.mark.column == 0 && c.peek == ch && c.peekAt 1 == ch && c.peekAt 2 == ch && isGap (c.peekAt 3)

/-- Whether a document starts or ends here. -/
def atDocumentMark (c : Cursor) : Bool := c.atIndicator '-' || c.atIndicator '.'

end Cursor

end FilterQuery.Yaml
