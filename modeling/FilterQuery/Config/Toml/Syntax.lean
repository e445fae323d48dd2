import FilterQuery.Config.Toml.Moment
import FilterQuery.Config.Toml.Number
import FilterQuery.Config.Toml.Text

/-!
# The syntax of TOML

A document is a list of statements, one a line: a key with a value, the header of a table, or the
header of a further table in a list of tables. Values are read without a look at what numbers and
times denote.
-/

namespace FilterQuery.Config.Toml

inductive SyntaxFault where
  | expectedNewline (found : Char)
  /-- A carriage return at the end of the document. -/
  | returnAtEnd
  /-- A carriage return without a line feed. -/
  | loneReturn
  | comment
  | noKey
  | keyStart (found : Char)
  | noEquals
  | expected (c : Char)
  | expectedAtEnd (c : Char)
  | noValue
  | expectedWord (word : String)
  | incompleteArray
  /-- An array that starts with a comma. -/
  | arrayComma
  | arraySeparator
  | incompleteTable
  | incompleteNumber
  | strayLetter (c : Char)
  | text (fault : TextFault)
deriving DecidableEq, Repr

def SyntaxFault.message : SyntaxFault → String
  | .expectedNewline found => "expected newline but got " ++ codePointText found
  | .returnAtEnd => "windows new line expected"
  | .loneReturn => "windows new line should be \\r\\n"
  | .comment => "invalid character in comment"
  | .noKey => "expected key but found none"
  | .keyStart found => "invalid character at start of key: " ++ found.toString
  | .noEquals => "expected = after a key, but the document ends there"
  | .expected c => "expected character " ++ c.toString
  | .expectedAtEnd c => "expected character " ++ c.toString ++ " but the document ended here"
  | .noValue => "expected value, not eof"
  | .expectedWord word => "expected '" ++ word ++ "'"
  | .incompleteArray => "array is incomplete"
  | .arrayComma => "array cannot start with comma"
  | .arraySeparator => "array elements must be separated by commas"
  | .incompleteTable => "inline table is incomplete"
  | .incompleteNumber => "incomplete number"
  | .strayLetter c => "unexpected character '" ++ c.toString ++ "' while scanning for a number"
  | .text fault => fault.message

inductive Raw where
  | text (s : String)
  | bool (b : Bool)
  | integer (literal : List Char)
  | float (literal : List Char)
  | moment (kind : MomentKind) (literal : List Char)
  | array (items : List Raw)
  /-- A table with its keys, each with its parts. -/
  | table (entries : List (List String × Raw))

/-- A statement of a document. The parts of a key stand between points. -/
inductive Statement where
  | entry (key : List String) (value : Raw)
  | table (key : List String)
  | listed (key : List String)

abbrev Step := Except SyntaxFault

/-! ## Blanks and line breaks -/

def skipBlanks (cs : List Char) : List Char := cs.dropWhile fun c => c == ' ' || c == '\t'

def expect (c : Char) : List Char → Step (List Char)
  | [] => .error (.expectedAtEnd c)
  | x :: cs => if x = c then .ok cs else .error (.expected c)

def skipComment : List Char → Step (List Char)
  | [] => .ok []
  | '\n' :: cs | '\r' :: '\n' :: cs => .ok ('\n' :: cs)
  | c :: cs => if c == '\r' || !isTextChar c then .error .comment else skipComment cs

def skipRemark : List Char → Step (List Char)
  | '#' :: cs => skipComment cs
  | cs => .ok cs

def readNewline : List Char → Step (List Char)
  | [] => .ok []
  | '\n' :: cs | '\r' :: '\n' :: cs => .ok cs
  | ['\r'] => .error .returnAtEnd
  | c :: _ => .error (if c = '\r' then .loneReturn else .expectedNewline (leadByte c))

/-- Skips blanks, comments and at most so many line breaks. -/
def skipLinesWithin : Nat → List Char → Step (List Char)
  | 0, cs => .ok cs
  | fuel + 1, cs => do
    let rest ← skipRemark (skipBlanks cs)
    match rest.head? with
    | some '\n' | some '\r' => skipLinesWithin fuel (← readNewline rest)
    | _ => return rest

def skipLines (cs : List Char) : Step (List Char) := skipLinesWithin (cs.length + 1) cs

/-! ## Keys -/

def isKeyChar (c : Char) : Bool := c.isAlphanum || c == '-' || c == '_'

def readKeyPart : List Char → Step (String × List Char)
  | [] => .error .noKey
  | c :: cs =>
    if c == '"' || c == '\'' then (readLine (c :: cs)).mapError .text
    else if isKeyChar c then
      .ok (String.ofList ((c :: cs).takeWhile isKeyChar), (c :: cs).dropWhile isKeyChar)
    else .error (.keyStart (leadByte c))

/-- Reads a key with at most so many parts, and the blanks behind it. -/
def readKeyWithin : Nat → List Char → Step (List String × List Char)
  | 0, _ => .error .noKey
  | fuel + 1, cs => do
    let (part, rest) ← readKeyPart cs
    match skipBlanks rest with
    | '.' :: rest =>
      let (parts, rest) ← readKeyWithin fuel (skipBlanks rest)
      return (part :: parts, rest)
    | rest => return ([part], rest)

def readKey (cs : List Char) : Step (List String × List Char) := readKeyWithin (cs.length + 1) cs

def readAssigned (cs : List Char) : Step (List String × List Char) := do
  let (key, rest) ← readKey cs
  if rest.isEmpty then throw .noEquals
  return (key, skipBlanks (← expect '=' rest))

/-! ## Numbers and times -/

/-- Reads the characters of a decimal number behind those taken before, which are kept backwards. -/
def scanDecimal (taken : List Char) (isFloat : Bool) : List Char → Step (Raw × List Char)
  | 'i' :: 'n' :: 'f' :: cs => .ok (.float (taken.reverse ++ ['i', 'n', 'f']), cs)
  | 'n' :: 'a' :: 'n' :: cs => .ok (.float (taken.reverse ++ ['n', 'a', 'n']), cs)
  | c :: cs =>
    if c.isDigit || isSign c || c == '_' then scanDecimal (c :: taken) isFloat cs
    else if c == '.' || c == 'e' || c == 'E' then scanDecimal (c :: taken) true cs
    else if c == 'i' || c == 'n' then .error (.strayLetter c)
    else finish (c :: cs)
  | [] => finish []
where
  /-- The number that ends here. -/
  finish (rest : List Char) : Step (Raw × List Char) :=
    if taken.isEmpty then .error .incompleteNumber
    else .ok (if isFloat then .float taken.reverse else .integer taken.reverse, rest)

def scanNumber (cs : List Char) : Step (Raw × List Char) :=
  match cs with
  | '0' :: mark :: d :: rest =>
    if mark == '.' || mark == 'e' || mark == 'E' then scanDecimal [] false cs
    else match Base.ofMark? mark with
      | some base =>
        .ok (.integer ('0' :: mark :: (d :: rest).takeWhile base.admits),
          (d :: rest).dropWhile base.admits)
      -- a zero that is followed by anything else is the whole number
      | none => .ok (.integer ['0'], cs.tail)
  | _ => scanDecimal [] false cs

/-- What the characters of a date or a time show about its kind. -/
structure Marks where
  date : Bool := false
  time : Bool := false
  offset : Bool := false
  /-- Whether a blank stood between date and time. -/
  spaced : Bool := false

def Marks.kind (m : Marks) : MomentKind :=
  if !m.time then .date
  else if !m.date then .time
  else if m.offset then .instant
  else .dateTime

/-- Reads the characters of a date or a time from a position on. -/
def scanMoment (i : Nat) (m : Marks) : List Char → List Char × Marks × List Char
  | [] => ([], m, [])
  | c :: cs =>
    if c.isDigit then keep c (scanMoment (i + 1) m cs)
    else if c == '-' then
      keep c (scanMoment (i + 1) { m with date := true, offset := m.offset || 8 ≤ i } cs)
    else if ['T', 't', ':', '.'].contains c then
      keep c (scanMoment (i + 1) { m with time := true } cs)
    else if ['+', 'Z', 'z'].contains c then
      keep c (scanMoment (i + 1) { m with offset := true } cs)
    -- one blank before a digit; the two characters behind it are taken along
    else if c == ' ' && !m.spaced && cs.head?.any Char.isDigit then
      let m := { m with spaced := true, time := true }
      match cs with
      | d :: x :: cs => keep c (keep d (keep x (scanMoment (i + 3) m cs)))
      | cs => (c :: cs, m, [])
    else ([], m, c :: cs)
where
  /-- Puts a character before those taken later. -/
  keep (c : Char) (r : List Char × Marks × List Char) : List Char × Marks × List Char :=
    (c :: r.1, r.2)

def startsMoment (cs : List Char) : Bool :=
  let digits := (cs.takeWhile Char.isDigit).length
  let next := (cs.drop digits).head?
  (digits == 2 && next == some ':') || (digits == 4 && next == some '-')

def readPlain (cs : List Char) : Step (Raw × List Char) :=
  match cs.head? with
  | some 'i' =>
    if cs.take 3 = ['i', 'n', 'f'] then .ok (.float (cs.take 3), cs.drop 3)
    else .error (.expectedWord "inf")
  | some 'n' =>
    if cs.take 3 = ['n', 'a', 'n'] then .ok (.float (cs.take 3), cs.drop 3)
    else .error (.expectedWord "nan")
  | _ =>
    if startsMoment cs then
      let (taken, marks, rest) := scanMoment 0 {} cs
      .ok (.moment marks.kind taken, rest)
    else scanNumber cs

/-! ## Values -/

def readWord (word : String) (b : Bool) (cs : List Char) : Step (Raw × List Char) :=
  if cs.take word.length = word.toList then .ok (.bool b, cs.drop word.length)
  else .error (.expectedWord word)

mutual

/-- Reads a value. The fuel bounds the number of values, items and entries. -/
def readValue : Nat → List Char → Step (Raw × List Char)
  | 0, _ => .error .noValue
  | _, [] => .error .noValue
  | fuel + 1, c :: cs =>
    match c with
    | '"' | '\'' => do
      let (s, rest) ← (readText (c :: cs)).mapError .text
      return (.text s, rest)
    | 't' => readWord "true" true (c :: cs)
    | 'f' => readWord "false" false (c :: cs)
    | '[' => do
      let (items, rest) ← readItems fuel true cs
      return (.array items, rest)
    | '\x7b' => do
      let (entries, rest) ← readEntries fuel true cs
      return (.table entries, rest)
    | _ => readPlain (c :: cs)

def readItems : Nat → (first : Bool) → List Char → Step (List Raw × List Char)
  | 0, _, _ => .error .noValue
  | _, _, [] => .error (.expectedAtEnd ']')
  | fuel + 1, first, c :: cs => do
    let here ← skipLines (c :: cs)
    let start ← match here with
      | [] => throw .incompleteArray
      | ']' :: _ => pure here
      | ',' :: rest => if first then throw .arrayComma else skipLines rest
      | _ => if first then pure here else throw .arraySeparator
    match start with
    | ']' :: rest => return ([], rest)
    | start =>
      let (item, rest) ← readValue fuel start
      let (items, rest) ← readItems fuel false (← skipLines rest)
      return (item :: items, rest)

def readEntries : Nat → (first : Bool) → List Char → Step (List (List String × Raw) × List Char)
  | 0, _, _ => .error .noValue
  | _, _, [] => .error (.expectedAtEnd '\x7d')
  | fuel + 1, first, c :: cs =>
    match skipBlanks (c :: cs) with
    | [] => .error .incompleteTable
    | '\x7d' :: rest => .ok ([], rest)
    | here => do
      let here ← if first then pure here else skipBlanks <$> expect ',' here
      let (key, rest) ← readAssigned here
      let (value, rest) ← readValue fuel rest
      let (entries, rest) ← readEntries fuel false rest
      return ((key, value) :: entries, rest)

end

/-! ## Statements -/

/-- Reads the content of a line, without the blanks around it and without a comment. -/
def readContent (cs : List Char) : Step (Option Statement × List Char) := do
  match cs with
  | [] | '\n' :: _ | '\r' :: _ | '#' :: _ => return (none, cs)
  | '[' :: '[' :: rest =>
    let (key, rest) ← readKey (skipBlanks rest)
    return (some (.listed key), ← expect ']' (← expect ']' rest))
  | '[' :: rest =>
    let (key, rest) ← readKey (skipBlanks rest)
    return (some (.table key), ← expect ']' rest)
  | cs =>
    let (key, rest) ← readAssigned cs
    let (value, rest) ← readValue (2 * rest.length + 2) rest
    return (some (.entry key value), rest)

/-- Reads a line up to its line break. -/
def readStatement (cs : List Char) : Step (Option Statement × List Char) := do
  let (statement, rest) ← readContent (skipBlanks cs)
  return (statement, ← skipRemark (skipBlanks rest))

end FilterQuery.Config.Toml
