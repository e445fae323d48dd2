import FilterQuery.Document.Yaml.ScalarText
import FilterQuery.Text.Utf8

/-!
# Tokens of block documents

The tokens between text and tree. Indentation shows as tokens of its own: a block starts with
`blockSequenceStart` or `blockMappingStart` and ends with `blockEnd`.
-/

namespace FilterQuery.Yaml

/-- How a tag is written: in full, or as a handle and a suffix. The tag `!` alone is written in
full. -/
inductive TagText where
  | full (tag : String)
  | short (handle suffix : String)
deriving DecidableEq, Repr

inductive TokenKind where
  | streamEnd
  | version (major minor : Nat)
  | tagDirective (handle lead : String)
  | documentStart
  | documentEnd
  | blockSequenceStart
  | blockMappingStart
  | blockEnd
  | flowSequenceStart
  | flowSequenceEnd
  | flowMappingStart
  | flowMappingEnd
  | flowEntry
  | blockEntry
  | key
  | value
  | alias (name : String)
  | anchor (name : String)
  | tag (t : TagText)
  /-- A scalar, and whether it is plain. -/
  | scalar (text : String) (plain : Bool)
deriving DecidableEq, Repr

structure Token where
  kind : TokenKind
  mark : Mark
deriving DecidableEq, Repr

/-! ## Names, tags and directives -/

def endsName (c : Char) : Bool :=
  isGap c || ['?', ':', ',', ']', '\x7d', '%', '@', '\x60'].contains c

/-- Reads the name of an anchor or alias behind its indicator. -/
def readName (c : Cursor) : Option (String × Cursor) :=
  let name := c.taken isNameChar
  let c := c.skipWhile isNameChar
  if !name.isEmpty && endsName c.peek then some (String.ofList name, c) else none

/-- Whether a character may stand in the address that a tag is. -/
def isTagChar (c : Char) : Bool :=
  isNameChar c || ";/?:@&=+$,.!~*'()[]%".toList.contains c

/-- The width of a character by its first byte. -/
def utf8Width? (b : Nat) : Option Nat :=
  if b < 0x80 then some 1
  else if b < 0xC0 then none
  else if b < 0xE0 then some 2
  else if b < 0xF0 then some 3
  else if b < 0xF8 then some 4
  else none

def percentByte? (c : Cursor) : Option Nat :=
  if c.peek == '%' then
    match c.rest.tail.take 2 with
    | [a, b] => hexNumber? [a, b]
    | _ => none
  else none

/-- Reads the continuation bytes of a character written by percent escapes. -/
def readContinuation : Nat → List UInt8 → Cursor → Option (List UInt8 × Cursor)
  | 0, bytes, c => some (bytes, c)
  | n + 1, bytes, c => do
    let b ← percentByte? c
    if 0x80 ≤ b ∧ b < 0xC0 then readContinuation n (bytes ++ [b.toUInt8]) (c.advance 3) else none

def readPercent (c : Cursor) : Option (List Char × Cursor) := do
  let b ← percentByte? c
  let width ← utf8Width? b
  let (bytes, c) ← readContinuation (width - 1) [b.toUInt8] (c.advance 3)
  some (Utf8.decodeLossy bytes, c)

def readTagChars : Nat → List Char → Cursor → Option (List Char × Cursor)
  | 0, acc, c => some (acc, c)
  | fuel + 1, acc, c =>
    if c.peek == '%' then do
      let (cs, c) ← readPercent c
      readTagChars fuel (acc ++ cs) c
    else if isTagChar c.peek then readTagChars fuel (acc ++ [c.peek]) c.next
    else some (acc, c)

/-- Reads a tag handle, which starts with an exclamation mark and usually ends with one. -/
def readHandle (c : Cursor) : Option (List Char × Cursor) :=
  if c.peek == '!' then
    let name := c.next.taken isNameChar
    let c := c.next.skipWhile isNameChar
    if c.peek == '!' then some ('!' :: (name ++ ['!']), c.next) else some ('!' :: name, c)
  else none

/-- Reads a tag whose exclamation mark is ahead. -/
def readTag (c : Cursor) : Option (TagText × Cursor) := do
  let (tag, c) ←
    if c.peekAt 1 == '<' then do
      let c := c.advance 2
      let (cs, c) ← readTagChars (c.rest.length + 1) [] c
      if cs.isEmpty || c.peek != '>' then none
      else some (TagText.full (String.ofList cs), c.next)
    else do
      let (handle, c) ← readHandle c
      if 1 < handle.length && handle.getLast? == some '!' then do
        let (suffix, c) ← readTagChars (c.rest.length + 1) [] c
        if suffix.isEmpty then none
        else some (TagText.short (String.ofList handle) (String.ofList suffix), c)
      else do
        let (suffix, c) ← readTagChars (c.rest.length + 1) handle.tail c
        if suffix.isEmpty then some (TagText.full "!", c)
        else some (TagText.short "!" (String.ofList suffix), c)
  if isGap c.peek then some (tag, c) else none

/-- Reads a number of at most two digits. -/
def readVersionNumber (c : Cursor) : Option (Nat × Cursor) :=
  let digits := c.taken Char.isDigit
  if digits.isEmpty || 2 < digits.length then none
  else
    some (digits.foldl (fun n d => n * 10 + (d.toNat - '0'.toNat)) 0, c.skipWhile Char.isDigit)

def readDirectiveValue (name : List Char) (c : Cursor) : Option (TokenKind × Cursor) :=
  let c := c.skipWhile isBlank
  if name = "YAML".toList then do
    let (major, c) ← readVersionNumber c
    if c.peek != '.' then none
    else
      let (minor, c) ← readVersionNumber c.next
      some (.version major minor, c)
  else if name = "TAG".toList then do
    let (handle, c) ← readHandle c
    if handle.getLast? != some '!' || !isBlank c.peek then none
    else
      let c := c.skipWhile isBlank
      let (lead, c) ← readTagChars (c.rest.length + 1) [] c
      if lead.isEmpty || !isGap c.peek then none
      else some (.tagDirective (String.ofList handle) (String.ofList lead), c)
  else none

/-- Reads a directive whose percent sign is ahead, to the end of its line. -/
def readDirective (c : Cursor) : Option (TokenKind × Cursor) := do
  let name := c.next.taken isNameChar
  let c := c.next.skipWhile isNameChar
  if name.isEmpty || !isGap c.peek then none
  else
    let (kind, c) ← readDirectiveValue name c
    let c := c.skipWhile isBlank
    let c := if c.peek == '#' then c.skipLine else c
    if isBreak c.peek then some (kind, c.nextLine)
    else if c.atEnd then some (kind, c)
    else none

end FilterQuery.Yaml
