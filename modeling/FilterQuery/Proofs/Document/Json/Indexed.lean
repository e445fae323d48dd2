import FilterQuery.Document.Json

/-!
# Reading JSON by index

The reader of JSON documents once more, now over the bytes as a whole and a position in them. It never
takes bytes apart: it looks at single bytes by their index and cuts slices by their bounds, and each
such access stops the reader if it is out of range. Strings are decoded into a buffer, which is written
by index and grows; the entries of an object are kept with the index of each key.

That no document makes the reader stop at an access is the subject of the modules on this one.
-/

namespace FilterQuery.Json

/-- Why reading by index stops. -/
inductive Stop where
  /-- An index or a bound of a slice is out of range. -/
  | outOfRange
  /-- More steps are needed than are granted. -/
  | outOfSteps
  /-- The bytes of a string are not UTF-8. -/
  | notText
  /-- The document is refused. -/
  | refused (e : ReadError)

namespace Indexed

/-! ## Checked accesses -/

section Access

variable {α : Type}

def element (xs : List α) (i : Nat) : Except Stop α :=
  match xs[i]? with
  | some x => .ok x
  | none => .error .outOfRange

/-- The elements from one bound up to another. -/
def slice (xs : List α) (lo hi : Nat) : Except Stop (List α) :=
  if lo ≤ hi ∧ hi ≤ xs.length then .ok ((xs.take hi).drop lo) else .error .outOfRange

def store (xs : List α) (i : Nat) (x : α) : Except Stop (List α) :=
  if i < xs.length then .ok (xs.set i x) else .error .outOfRange

/-- Overwrites the elements from an index on, one after the other. -/
def storeAll : List α → Nat → List α → Except Stop (List α)
  | xs, _, [] => .ok xs
  | xs, i, y :: ys => do storeAll (← store xs i y) (i + 1) ys

end Access

def refuse {α : Type} (e : ReadError) : Except Stop α := .error (.refused e)

def textOf (bytes : List UInt8) : Except Stop String :=
  match Utf8.decode? bytes with
  | some cs => .ok (String.ofList cs)
  | none => .error .notText

/-! ## Strings -/

/-- The code unit of an escape at the start, if one is there. -/
def unitAt (s : List UInt8) : Except Stop (Option Nat) := do
  if s.length < 6 then return none
  else if (← element s 0) ≠ backslash then return none
  else if (← element s 1) ≠ 0x75 then return none
  else
    match ← slice s 2 6 with
    | [a, b, c, d] => return codeUnit? a b c d
    | _ => return none

/-- The character that an escape of a code unit stands for, perhaps together with a second one, and
the number of bytes it takes. -/
def unitEscape (s : List UInt8) : Except Stop (Char × Nat) := do
  match ← unitAt s with
  | none => refuse .badCodePoint
  | some u =>
    if isSurrogate u then
      match (← unitAt (← slice s 6 s.length)).bind (pair? u) with
      | some c => return (c, 12)
      | none => return ('\uFFFD', 6)
    else return (Char.ofNat u, 6)

/-- The character at the start and the number of bytes it takes; a byte that starts none is replaced. -/
def firstChar : List UInt8 → Char × Nat
  | [] => ('\uFFFD', 0)
  | b :: rest =>
    let (piece, tail) := Utf8.firstPiece b rest
    (piece.shown, rest.length + 1 - tail.length)

/-- The longest encoding of a character. -/
def maxWidth : Nat := 4

/-- How far a body is decoded: the number of bytes read and written, and the buffer that is written. -/
structure Decoding where
  read : Nat
  written : Nat
  buffer : List UInt8

namespace Decoding

/-- The start: a buffer for a body without escapes and two characters more. -/
def start (body : List UInt8) : Decoding :=
  ⟨0, 0, List.replicate (body.length + 2 * maxWidth) 0⟩

/-- Moves what is written to a larger buffer unless there is room for two characters. -/
def reserve (st : Decoding) : Except Stop Decoding := do
  if st.buffer.length ≤ st.written + 2 * maxWidth then
    let kept ← slice st.buffer 0 st.written
    let size := (st.buffer.length + maxWidth) * 2
    return { st with buffer := kept ++ List.replicate (size - kept.length) 0 }
  else return st

def putByte (st : Decoding) (taken : Nat) (b : UInt8) : Except Stop Decoding := do
  return ⟨st.read + taken, st.written + 1, ← store st.buffer st.written b⟩

/-- Writes a character into the room left in the buffer, for which some bytes are read. -/
def putChar (st : Decoding) (room : List UInt8) (c : Char) (taken : Nat) : Except Stop Decoding := do
  let bytes := String.utf8EncodeChar c
  let room ← storeAll room 0 bytes
  return ⟨st.read + taken, st.written + bytes.length, st.buffer.take st.written ++ room⟩

def step (body : List UInt8) (st : Decoding) : Except Stop Decoding := do
  let st ← st.reserve
  let b ← element body st.read
  if b = backslash then
    let letter ← element body (st.read + 1)
    match simpleEscape? letter with
    | some c => st.putByte 2 (UInt8.ofNat c.toNat)
    | none =>
      if letter = 0x75 then
        let s ← slice body st.read body.length
        let room ← slice st.buffer st.written st.buffer.length
        let (c, taken) ← unitEscape s
        st.putChar room c taken
      else refuse (.unknownEscape letter)
  else if b < 0x20 then refuse (.controlChar b)
  else if b < 0x80 then st.putByte 1 b
  else
    let (c, taken) := firstChar (← slice body st.read body.length)
    st.putChar (← slice st.buffer st.written st.buffer.length) c taken

/-- Decodes up to the end of the body, in as many steps as are granted. -/
def run (body : List UInt8) : Nat → Decoding → Except Stop Decoding
  | 0, st => if st.read < body.length then .error .outOfSteps else .ok st
  | steps + 1, st =>
    if st.read < body.length then do run body steps (← st.step body) else .ok st

end Decoding

/-- The bytes that the body of a string stands for. -/
def decode (body : List UInt8) : Except Stop (List UInt8) := do
  let st ← Decoding.run body body.length (.start body)
  slice st.buffer 0 st.written

/-! ## Tokens -/

section Tokens

variable (data : List UInt8)

/-- The first position from which on the bytes do not all satisfy a test. -/
def passOver (test : UInt8 → Bool) (i : Nat) : Except Stop Nat := do
  if i < data.length then
    if test (← element data i) then passOver test (i + 1) else return i
  else return i
termination_by data.length - i

def skipBlanks (i : Nat) : Except Stop Nat := passOver data isBlank i

def isAt (i : Nat) (b : UInt8) : Except Stop Bool := do
  if i < data.length then return (← element data i) == b else return false

/-- The position of the quote that closes a string, from a position in its body. -/
def closingQuote (i : Nat) : Except Stop (Option Nat) := do
  if i < data.length then
    let b ← element data i
    if b = backslash then closingQuote (i + 2)
    else if b = quote then return some i
    else closingQuote (i + 1)
  else return none
termination_by data.length - i

def stringAt (i : Nat) : Except Stop (String × Nat) := do
  if (← element data i) ≠ quote then refuse .expectedString
  else
    match ← closingQuote data (i + 1) with
    | none => refuse .unterminatedString
    | some j =>
      let body ← slice data (i + 1) j
      return (← textOf (← decode body), j + 1)

def numberAt (i : Nat) : Except Stop (Node × Nat) := do
  let j ← passOver data isNumberByte i
  let digits := (← slice data i j).map fun b => Char.ofNat b.toNat
  match Literal.read .double digits with
  | .ok x => return (.scalar (.double x), j)
  | .error e => refuse (.badNumber (String.ofList digits) e)

def literalAt (word : String) (v : Value) (i : Nat) : Except Stop (Node × Nat) := do
  let bytes := Utf8.encode word
  let j := i + bytes.length
  if data.length < j then refuse (.badLiteral (← slice data i (min data.length j)))
  else if (← slice data i j) ≠ bytes then
    refuse (.badLiteral (← slice data i (min data.length j)))
  else return (.scalar v, j)

/-- Reads the key of a member and the colon behind it. -/
def nameAt (i : Nat) : Except Stop (String × Nat) := do
  let i ← skipBlanks data i
  if data.length ≤ i then refuse .unexpectedEnd
  else
    let (key, i) ← stringAt data i
    let i ← skipBlanks data i
    if ← isAt data i 0x3A then return (key, i + 1) else refuse .noColon

/-- Reads what stands behind a member or an item, and tells whether it is the closing byte. -/
def separatorAt (close : UInt8) (i : Nat) : Except Stop (Bool × Nat) := do
  let i ← skipBlanks data i
  if data.length ≤ i then refuse .unexpectedEnd
  else if (← element data i) = close then return (true, i + 1)
  else if (← element data i) ≠ 0x2C then refuse .noComma
  else return (false, i + 1)

end Tokens

/-! ## Objects -/

/-- The entries of an object in the order of their keys, and the index of the entry of each key. -/
structure Entries where
  items : List (String × Node) := []
  places : List (String × Nat) := []

/-- Sets the value of a key: in its place if it is there already, and else at the end. -/
def Entries.set (es : Entries) (key : String) (n : Node) : Except Stop Entries := do
  match es.places.lookup key with
  | some i =>
    let (k, _) ← element es.items i
    return { es with items := ← store es.items i (k, n) }
  | none => return ⟨es.items ++ [(key, n)], (key, es.items.length) :: es.places⟩

/-- The scalar that entries stand for, or the mapping. -/
def nodeOf (es : List (String × Node)) : Except Stop Node := do
  if es.length = 1 then
    let (key, n) ← element es 0
    if key = Embedded.dateKey then
      match Embedded.date? n with
      | some t => return .scalar (.time t)
      | none => return .mapping es
    else if key = Embedded.regexKey then (Embedded.regexNode es n none).mapError .refused
    else return .mapping es
  else if es.length = 2 then
    match es.lookup Embedded.regexKey, es.lookup Embedded.flagsKey with
    | some source, some flags => (Embedded.regexNode es source (some flags)).mapError .refused
    | _, _ => return .mapping es
  else return .mapping es

/-! ## Values -/

section Values

variable (data : List UInt8)

mutual

/-- Reads the value at a position, in as many steps as are granted. -/
def valueAt : Nat → Nat → Except Stop (Node × Nat)
  | 0, _ => .error .outOfSteps
  | steps + 1, i => do
    if data.length ≤ i then refuse .unexpectedEnd
    else
      match ← element data i with
      | 0x7B =>
        let i ← skipBlanks data (i + 1)
        if ← isAt data i 0x7D then return (.mapping [], i + 1)
        else
          let (es, i) ← membersAt steps {} i
          return (← nodeOf es.items, i)
      | 0x5B =>
        let i ← skipBlanks data (i + 1)
        if ← isAt data i 0x5D then return (.sequence [], i + 1)
        else
          let (items, i) ← elementsAt steps i
          return (.sequence items, i)
      | 0x22 =>
        let (text, i) ← stringAt data i
        return (.scalar (.text text), i)
      | 0x74 => literalAt data "true" (.bool true) i
      | 0x66 => literalAt data "false" (.bool false) i
      | 0x6E => literalAt data "null" .null i
      | _ => numberAt data i

def membersAt : Nat → Entries → Nat → Except Stop (Entries × Nat)
  | 0, _, _ => .error .outOfSteps
  | steps + 1, es, i => do
    let (key, i) ← nameAt data i
    let (n, i) ← valueAt steps (← skipBlanks data i)
    let es ← es.set key n
    let (closed, i) ← separatorAt data 0x7D i
    if closed then return (es, i) else membersAt steps es i

def elementsAt : Nat → Nat → Except Stop (List Node × Nat)
  | 0, _ => .error .outOfSteps
  | steps + 1, i => do
    let (n, i) ← valueAt steps i
    let (closed, i) ← separatorAt data 0x5D i
    if closed then return ([n], i)
    else
      let (ns, i) ← elementsAt steps (← skipBlanks data i)
      return (n :: ns, i)

end

def document : Except Stop Node := do
  let (n, i) ← valueAt data (2 * data.length + 1) (← skipBlanks data 0)
  if (← skipBlanks data i) ≠ data.length then refuse .trailingData else return n

end Values

end Indexed

end FilterQuery.Json
