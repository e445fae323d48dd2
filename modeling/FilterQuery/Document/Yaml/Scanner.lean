import FilterQuery.Document.Yaml.Token

/-!
# Scanning block documents

A scanner turns text into tokens. A key of a mapping is only known by the colon behind it, so
tokens wait in a queue: when the colon comes, the tokens that open the mapping and the key are put
in front of the one that the key started with. `Scanner.fill` reads until the first token of the
queue cannot change any more and two more tokens stand behind it.
-/

namespace FilterQuery.Yaml

/-- A token that a key may start with. -/
structure PendingKey where
  /-- Whether the block has to go on with a key here. -/
  required : Bool
  /-- The number of the token, counted from the start of the text. -/
  token : Nat
  mark : Mark
  /-- Whether the token waits in the queue for the colon. -/
  awaited : Bool := true
deriving DecidableEq, Repr

/-- The key around a flow collection that ends, in which `noted` is the token noted last. -/
def PendingKey.closing (noted : Nat) (key : PendingKey) : PendingKey :=
  { key with awaited := key.awaited && key.token != noted }

structure Scanner where
  cursor : Cursor
  /-- Tokens that were read but not taken. -/
  queue : List Token := []
  /-- The number of tokens taken. -/
  taken : Nat := 0
  /-- Whether a key may start here. -/
  keyAllowed : Bool := true
  /-- The pending key of the innermost flow collection, or of the block. -/
  pending : Option PendingKey := none
  /-- The number of the token that a key was last taken to start with in the innermost flow
  collection; at first its bracket. -/
  noted : Nat := 0
  /-- Pending key and noted token of the levels around the innermost flow collection. -/
  outer : List (Option PendingKey × Nat) := []
  /-- The columns of the open blocks, innermost first. -/
  blocks : List Nat := []
  /-- The number of characters of the first piece of the text, if that starts with a second byte
  order mark. -/
  marked : Nat := 0

/-- Moves over a comment and over the comments that follow it. -/
def skipComments : Nat → Cursor → Cursor
  | 0, c => c
  | fuel + 1, c =>
    let c := c.skipLine
    let ahead := c.taken fun ch => isBlank ch || ch == '\n' || ch == '\r'
    if ahead.length < 512 && c.peekAt ahead.length == '#' then
      let c := ahead.foldl
        (fun c _ => if isBlank c.peek then c.next else if isBreak c.peek then c.nextLine else c) c
      skipComments fuel c
    else c

/-- Moves to the next token, and tells whether a key may start there. The first `marked` characters
are a piece that starts with a byte order mark. -/
def skipToToken (flow : Bool) (marked : Nat) : Nat → Bool → Cursor → Bool × Cursor
  | 0, allowed, c => (allowed, c)
  | fuel + 1, allowed, c =>
    -- every line of the marked piece loses its first character to the mark
    let c := if c.mark.column = 0 ∧ c.mark.index + 1 < marked then c.next else c
    -- no tab may indent a key
    let c := c.skipWhile fun ch => ch == ' ' || (ch == '\t' && (flow || !allowed))
    let c := if c.peek == '#' then skipComments (c.rest.length + 1) c else c
    -- a new line of a block may start with a key
    if isBreak c.peek then skipToToken flow marked fuel (allowed || !flow) c.nextLine
    else (allowed, c)

def skipLineComment (c : Cursor) : Cursor :=
  let blanks := c.taken isBlank
  if !c.afterBreak && blanks.length < 512 && c.peekAt blanks.length == '#' then c.skipLine else c

namespace Scanner

def inFlow (s : Scanner) : Bool := !s.outer.isEmpty

def push (kind : TokenKind) (mark : Mark) (s : Scanner) : Scanner :=
  { s with queue := s.queue ++ [⟨kind, mark⟩] }

/-- Puts a token in front of the one with number `n`, or at the end if that one was taken. -/
def insertBefore (n : Nat) (kind : TokenKind) (mark : Mark) (s : Scanner) : Scanner :=
  if n < s.taken then s.push kind mark
  else { s with queue := s.queue.insertIdx (n - s.taken) ⟨kind, mark⟩ }

/-- Ends the blocks right of a column; without a column, all blocks. -/
def unroll (column : Option Nat) (s : Scanner) : Scanner :=
  if s.inFlow then s
  else
    let closes (b : Nat) : Bool := column.all (· < b)
    let ends := (s.blocks.takeWhile closes).map fun _ => (⟨.blockEnd, s.cursor.mark⟩ : Token)
    { s with queue := s.queue ++ ends, blocks := s.blocks.dropWhile closes }

/-- Whether a block opens at a column: it stands right of the innermost open block. -/
def opensBlock (column : Nat) (s : Scanner) : Bool :=
  !s.inFlow && (s.blocks.head?).all (· < column)

/-- How deep blocks, and how deep flow collections, may be nested. -/
def maxDepth : Nat := 10000

/-- Opens a block here if the column asks for one. -/
def roll (kind : TokenKind) (s : Scanner) : Option Scanner := do
  let column := s.cursor.mark.column
  if s.opensBlock column then
    guard (s.blocks.length < maxDepth)
    return { s.push kind s.cursor.mark with blocks := column :: s.blocks }
  else return s

/-! ## Pending keys -/

/-- Whether the colon may still come: it has to stand in the line of its key, within a thousand
characters or so. -/
def isFresh (key : PendingKey) (s : Scanner) : Bool :=
  s.cursor.mark.line ≤ key.mark.line && s.cursor.mark.index ≤ key.mark.index + 1024

/-- Gives up the pending key, unless it is required. -/
def dropKey (s : Scanner) : Option Scanner :=
  if s.pending.any (·.required) then none else some { s with pending := none }

/-- Notes that a key may start with the token that is read next. -/
def saveKey (s : Scanner) : Option Scanner := do
  if s.keyAllowed then
    let mark := s.cursor.mark
    let key : PendingKey :=
      { required := !s.inFlow && s.blocks.head? == some mark.column
        token := s.taken + s.queue.length
        mark := mark }
    let s ← s.dropKey
    return { s with pending := some key, noted := key.token }
  else return s

/-- Moves over `n` characters and adds the token that they are. -/
def emit (kind : TokenKind) (n : Nat) (s : Scanner) : Scanner :=
  { s.push kind s.cursor.mark with cursor := s.cursor.advance n }

/-! ## Single tokens -/

/-- Reads the end of the text, which ends all blocks. -/
def readEnd (s : Scanner) : Option Scanner := do
  let mark := s.cursor.mark
  let mark := if mark.column = 0 then mark else { mark with line := mark.line + 1, column := 0 }
  let s := { s with cursor := { s.cursor with mark := mark } }
  let s ← (s.unroll none).dropKey
  return { s with keyAllowed := false }.push .streamEnd mark

def readDirectiveToken (s : Scanner) : Option Scanner := do
  let s ← (s.unroll none).dropKey
  let (kind, c) ← readDirective s.cursor
  return { s.push kind s.cursor.mark with cursor := c, keyAllowed := false }

def readDocumentMark (kind : TokenKind) (s : Scanner) : Option Scanner := do
  let s ← (s.unroll none).dropKey
  return { s with keyAllowed := false }.emit kind 3

def readFlowStart (kind : TokenKind) (s : Scanner) : Option Scanner := do
  let s ← s.saveKey
  guard (s.outer.length < maxDepth)
  let s :=
    { s with
      pending := none
      noted := s.taken + s.queue.length
      outer := (s.pending, s.noted) :: s.outer
      keyAllowed := true }
  return s.emit kind 1

def readFlowEnd (kind : TokenKind) (s : Scanner) : Option Scanner := do
  let s ← s.dropKey
  let s := match s.outer with
    | [] => s
    -- the opening bracket waits for a colon only if another token was noted within
    | (key, noted) :: outer =>
      { s with pending := key.map (PendingKey.closing s.noted), noted := noted, outer := outer }
  return { s with keyAllowed := false }.emit kind 1

def readFlowEntry (s : Scanner) : Option Scanner := do
  let s ← s.dropKey
  return { s with keyAllowed := true }.emit .flowEntry 1

def readBlockEntry (s : Scanner) : Option Scanner := do
  if !s.inFlow && !s.keyAllowed then none
  else
    let s ← (← s.roll .blockSequenceStart).dropKey
    return { s with keyAllowed := true }.emit .blockEntry 1

def readKey (s : Scanner) : Option Scanner := do
  if !s.inFlow && !s.keyAllowed then none
  else
    let s ← (← s.roll .blockMappingStart).dropKey
    return { s with keyAllowed := !s.inFlow }.emit .key 1

/-- Opens the mapping and the key that a pending key has turned out to start. -/
def openKey (key : PendingKey) (s : Scanner) : Option Scanner := do
  let column := key.mark.column
  let s := s.insertBefore key.token .key key.mark
  let s ←
    if s.opensBlock column then do
      guard (s.blocks.length < maxDepth)
      let s := s.insertBefore key.token .blockMappingStart key.mark
      pure { s with blocks := column :: s.blocks }
    else pure s
  return { s with pending := none, keyAllowed := false }

def readValue (s : Scanner) : Option Scanner :=
  match s.pending with
  | some key =>
    if s.isFresh key then (s.openKey key).map (emit .value 1)
    else if key.required then none
    else complexValue { s with pending := none }
  | none => complexValue s
where
  /-- Reads the colon behind a key that was marked as such. -/
  complexValue (s : Scanner) : Option Scanner :=
    if !s.inFlow && !s.keyAllowed then none
    else (s.roll .blockMappingStart).map fun s =>
      { s with keyAllowed := !s.inFlow }.emit .value 1

def readAnchor (kind : String → TokenKind) (s : Scanner) : Option Scanner := do
  let s ← s.saveKey
  let (name, c) ← readName s.cursor.next
  return { s.push (kind name) s.cursor.mark with cursor := c, keyAllowed := false }

def readTagToken (s : Scanner) : Option Scanner := do
  let s ← s.saveKey
  let (tag, c) ← readTag s.cursor
  return { s.push (.tag tag) s.cursor.mark with cursor := c, keyAllowed := false }

def readBlockScalar (folded : Bool) (s : Scanner) : Option Scanner := do
  let s ← s.dropKey
  let (text, c) ← readBlock folded s.blocks.head? s.cursor.next
  return { s.push (.scalar text false) s.cursor.mark with cursor := c, keyAllowed := true }

def readQuotedScalar (single : Bool) (s : Scanner) : Option Scanner := do
  let s ← s.saveKey
  let c := s.cursor.next
  let (text, c) ← readQuoted single (c.rest.length + 1) [] c
  return { s.push (.scalar text false) s.cursor.mark with cursor := c, keyAllowed := false }

def readPlainScalar (s : Scanner) : Option Scanner := do
  let s ← s.saveKey
  let c := s.cursor
  let indent := match s.blocks.head? with
    | some n => n + 1
    | none => 0
  let p ← readPlain s.inFlow indent (c.rest.length + 1) [] {} c
  return { s.push (.scalar p.text true) c.mark with cursor := p.rest, keyAllowed := p.endsLine }

def startsPlain (s : Scanner) : Bool :=
  let ch := s.cursor.peek
  let after := s.cursor.peekAt 1
  !(isGap ch || "-?:,[]\x7b\x7d#&*!|>'\"%@\x60".toList.contains ch) ||
    (ch == '-' && !isBlank after) ||
    (!s.inFlow && (ch == '?' || ch == ':') && !isGap after)

def readContent (s : Scanner) : Option Scanner :=
  let ch := s.cursor.peek
  let after := s.cursor.peekAt 1
  if ch == '[' then s.readFlowStart .flowSequenceStart
  else if ch == '\x7b' then s.readFlowStart .flowMappingStart
  else if ch == ']' then s.readFlowEnd .flowSequenceEnd
  else if ch == '\x7d' then s.readFlowEnd .flowMappingEnd
  else if ch == ',' then s.readFlowEntry
  else if ch == '-' && isGap after then s.readBlockEntry
  else if ch == '?' && (s.inFlow || isGap after) then s.readKey
  else if ch == ':' && (s.inFlow || isGap after) then s.readValue
  else if ch == '*' then s.readAnchor .alias
  else if ch == '&' then s.readAnchor .anchor
  else if ch == '!' then s.readTagToken
  else if ch == '|' && !s.inFlow then s.readBlockScalar false
  else if ch == '>' && !s.inFlow then s.readBlockScalar true
  else if ch == '\'' then s.readQuotedScalar true
  else if ch == '"' then s.readQuotedScalar false
  else if s.startsPlain then s.readPlainScalar
  else none

/-- Reads at least one token. -/
def fetch (s : Scanner) : Option Scanner := do
  let c := s.cursor
  let (allowed, c) := skipToToken s.inFlow s.marked (c.rest.length + 1) s.keyAllowed c
  let s := { s with cursor := c, keyAllowed := allowed }.unroll (some c.mark.column)
  if c.atEnd then s.readEnd
  else if c.mark.column == 0 && c.peek == '%' then s.readDirectiveToken
  else if c.atIndicator '-' then s.readDocumentMark .documentStart
  else if c.atIndicator '.' then s.readDocumentMark .documentEnd
  else
    let s ← s.readContent
    if (s.queue.getLast?).any (·.kind == .blockEntry) then return s
    else return { s with cursor := skipLineComment s.cursor }

/-- The pending key, of any level, that the first token of the queue may start. -/
def headKey? (s : Scanner) : Option PendingKey :=
  (s.pending :: s.outer.map Prod.fst).findSome? fun key? =>
    key?.filter fun key => key.awaited && key.token == s.taken

/-- Reads until the first token cannot change and two more are there. -/
def fill : Nat → Scanner → Option Scanner
  | 0, _ => none
  | fuel + 1, s =>
    if s.queue.length ≤ 2 then s.fetch.bind (fill fuel)
    else match s.headKey? with
      | none => some s
      | some key =>
        if s.isFresh key then s.fetch.bind (fill fuel)
        else if key.required then none
        else some s

/-- The next token, which stays in the queue. -/
def peek (s : Scanner) : Option (Token × Scanner) := do
  let s ← s.fill (s.cursor.rest.length + 8)
  let t ← s.queue.head?
  return (t, s)

/-- Takes the next token. -/
def drop (s : Scanner) : Scanner := { s with queue := s.queue.tail, taken := s.taken + 1 }

/-- The number of characters of a text that lie within its first `size` bytes. -/
def countWithin : Nat → List Char → Nat
  | _, [] => 0
  | size, c :: cs => if c.utf8Size ≤ size then countWithin (size - c.utf8Size) cs + 1 else 0

/-- The scanner at the start of a text; a byte order mark there is skipped. A text with characters
that documents may not hold has no scanner. -/
def ofText? (text : List Char) : Option Scanner :=
  let (text, marked) := match text with
    -- text is read in pieces of 512 bytes, of which the first mark takes three
    | '\uFEFF' :: '\uFEFF' :: rest =>
      ('\uFEFF' :: rest, countWithin (512 - 3) ('\uFEFF' :: rest))
    | '\uFEFF' :: rest => (rest, 0)
    | text => (text, 0)
  if text.all isAllowed then some { cursor := { rest := text }, marked := marked } else none

end Scanner

end FilterQuery.Yaml
