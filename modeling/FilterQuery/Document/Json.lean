import FilterQuery.Document.Embedded

/-!
# JSON documents

Reads a document from JSON text. Keys keep the order of their first occurrence and the value of
their last one, every number is a double, and bytes that are not UTF-8 are replaced.

The reader works on the list of bytes that is left. A value, the members of an object and the items
of an array are steps of it. Between two steps a byte is consumed, except that the items of an array
start with a value right away, so two steps for each byte and one more are fuel enough.
-/

namespace FilterQuery

namespace Json

def isBlank (b : UInt8) : Bool := b == 0x20 || b == 0x09 || b == 0x0A || b == 0x0D

/-- Drops leading blanks. -/
def skip (s : List UInt8) : List UInt8 := s.dropWhile isBlank

def quote : UInt8 := 0x22

def backslash : UInt8 := 0x5C

/-! ## Strings -/

/-- The body of a string up to its closing quote, and what follows. -/
def splitString : List UInt8 → Option (List UInt8 × List UInt8)
  | [] => none
  | b :: rest =>
    if b = quote then some ([], rest)
    -- the byte after a backslash does not close the string
    else if b = backslash then
      match rest with
      | [] => none
      | c :: rest => (splitString rest).map fun (body, tail) => (b :: c :: body, tail)
    else (splitString rest).map fun (body, tail) => (b :: body, tail)

def hexValue? (b : UInt8) : Option Nat :=
  if 0x30 ≤ b ∧ b ≤ 0x39 then some (b.toNat - 0x30)
  else if 0x61 ≤ b ∧ b ≤ 0x66 then some (b.toNat - 0x61 + 10)
  else if 0x41 ≤ b ∧ b ≤ 0x46 then some (b.toNat - 0x41 + 10)
  else none

def hexNumber? (bs : List UInt8) : Option Nat :=
  bs.foldlM (fun n b => (hexValue? b).map (n * 16 + ·)) 0

/-- The code unit of four characters after `\u`: hexadecimal digits, the first of which may be a
sign. A negative number other than zero is refused. -/
def codeUnit? (a b c d : UInt8) : Option Nat :=
  if a = 0x2B then hexNumber? [b, c, d]
  else if a = 0x2D then (hexNumber? [b, c, d]).filter (· == 0)
  else hexNumber? [a, b, c, d]

/-- Whether a code unit is half of a pair. -/
def isSurrogate (u : Nat) : Bool := 0xD800 ≤ u && u < 0xE000

/-- The character that two code units encode together. -/
def pair? (hi lo : Nat) : Option Char :=
  if 0xD800 ≤ hi ∧ hi < 0xDC00 ∧ 0xDC00 ≤ lo ∧ lo < 0xE000 then
    some (Char.ofNat ((hi - 0xD800) * 0x400 + (lo - 0xDC00) + 0x10000))
  else none

/-- The code unit of an escape that follows directly. -/
def nextUnit? : List UInt8 → Option Nat
  | s :: u :: a :: b :: c :: d :: _ =>
    if s = backslash ∧ u = 0x75 then codeUnit? a b c d else none
  | _ => none

def simpleEscape? (b : UInt8) : Option Char :=
  match b with
  | 0x22 => some '"'
  | 0x5C => some '\\'
  | 0x2F => some '/'
  | 0x27 => some '\''
  | 0x62 => some '\x08'
  | 0x66 => some '\x0c'
  | 0x6E => some '\n'
  | 0x72 => some '\r'
  | 0x74 => some '\t'
  | _ => none

/-- What an escape stands for and how many bytes after its backslash and letter it takes. -/
def decodeEscape (letter : UInt8) (rest : List UInt8) : Except ReadError (Char × Nat) :=
  match simpleEscape? letter with
  | some c => .ok (c, 0)
  | none =>
    if letter = 0x75 then
      match rest with
      | a :: b :: c :: d :: tail =>
        match codeUnit? a b c d with
        | none => .error .badCodePoint
        | some u =>
          if isSurrogate u then
            match (nextUnit? tail).bind (pair? u) with
            | some ch => .ok (ch, 10)
            | none => .ok ('\uFFFD', 4)
          else .ok (Char.ofNat u, 4)
      | _ => .error .badCodePoint
    else .error (.unknownEscape letter)

def decodeBody : List UInt8 → Except ReadError (List Char)
  | [] => .ok []
  | b :: rest =>
    if b = backslash then
      match rest with
      | [] => .error .badCodePoint
      | letter :: rest => do
        let (c, n) ← decodeEscape letter rest
        return c :: (← decodeBody (rest.drop n))
    else if b < 0x20 then .error (.controlChar b)
    else do
      have := Utf8.length_firstPiece_le b rest
      return (Utf8.firstPiece b rest).1.shown :: (← decodeBody (Utf8.firstPiece b rest).2)
termination_by s => s.length
decreasing_by all_goals (simp only [List.length_cons, List.length_drop]; omega)

def string (s : List UInt8) : Except ReadError (String × List UInt8) :=
  match s with
  | b :: rest =>
    if b = quote then
      match splitString rest with
      | none => .error .unterminatedString
      | some (body, tail) => do
        let cs ← decodeBody body
        return (String.ofList cs, tail)
    else .error .expectedString
  | [] => .error .expectedString

/-! ## Numbers and literals -/

def isNumberByte (b : UInt8) : Bool :=
  (0x30 ≤ b && b ≤ 0x39) || b == 0x2E || b == 0x2D || b == 0x2B || b == 0x65 || b == 0x45

def number (s : List UInt8) : Except ReadError (Node × List UInt8) :=
  let digits := (s.takeWhile isNumberByte).map fun b => Char.ofNat b.toNat
  match Literal.read .double digits with
  | .ok x => .ok (.scalar (.double x), s.dropWhile isNumberByte)
  | .error e => .error (.badNumber (String.ofList digits) e)

def literal (word : String) (v : Value) (s : List UInt8) : Except ReadError (Node × List UInt8) :=
  let bytes := Utf8.encode word
  if s.take bytes.length = bytes then .ok (.scalar v, s.drop bytes.length)
  else .error (.badLiteral (s.take bytes.length))

/-! ## Values -/

mutual

def value : Nat → List UInt8 → Except ReadError (Node × List UInt8)
  | 0, _ => .error .unexpectedEnd
  | fuel + 1, s =>
    match s with
    | [] => .error .unexpectedEnd
    | b :: rest =>
      match b with
      | 0x7B =>
        match skip rest with
        | 0x7D :: tail => .ok (.mapping [], tail)
        | body => do
          let (es, tail) ← members fuel [] body
          return (← Node.ofMapping es, tail)
      | 0x5B =>
        match skip rest with
        | 0x5D :: tail => .ok (.sequence [], tail)
        | body => do
          let (items, tail) ← elements fuel body
          return (.sequence items, tail)
      | 0x22 => do
        let (text, tail) ← string s
        return (.scalar (.text text), tail)
      | 0x74 => literal "true" (.bool true) s
      | 0x66 => literal "false" (.bool false) s
      | 0x6E => literal "null" .null s
      | _ => number s

/-- Reads the members of an object and its closing brace; `es` are the members before. -/
def members : Nat → List (String × Node) → List UInt8 →
    Except ReadError (List (String × Node) × List UInt8)
  | 0, _, _ => .error .unexpectedEnd
  | fuel + 1, es, s =>
    match skip s with
    | [] => .error .unexpectedEnd
    | b :: rest => do
      let (key, s) ← string (b :: rest)
      match skip s with
      | 0x3A :: s => do
        let (v, s) ← value fuel (skip s)
        let es := setEntry key v es
        match skip s with
        | [] => .error .unexpectedEnd
        | 0x7D :: s => .ok (es, s)
        | 0x2C :: s => members fuel es s
        | _ => .error .noComma
      | _ => .error .noColon

def elements : Nat → List UInt8 → Except ReadError (List Node × List UInt8)
  | 0, _ => .error .unexpectedEnd
  | fuel + 1, s => do
    let (v, s) ← value fuel s
    match skip s with
    | [] => .error .unexpectedEnd
    | 0x5D :: s => return ([v], s)
    | 0x2C :: s => do
      let (vs, s) ← elements fuel (skip s)
      return (v :: vs, s)
    | _ => .error .noComma

end

end Json

def Node.ofJson (bytes : List UInt8) : Except ReadError Node := do
  let (n, rest) ← Json.value (2 * bytes.length + 1) (Json.skip bytes)
  if (Json.skip rest).isEmpty then return n else throw .trailingData

end FilterQuery
