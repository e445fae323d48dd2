import FilterQuery.Document.Json

/-!
# Settings in JSON

Reads a JSON object strictly. Texts are looked at byte by byte, so that the first character that
cannot stand where it stands is reported together with what was expected there. Numbers stay texts
until the whole text is known to be well formed; only then one may turn out to be too large.
-/

namespace FilterQuery.Config

inductive JsonError where
  | unexpectedEnd
  /-- Something that cannot stand where it stands. -/
  | unexpected (piece : Utf8.Piece) (context : String)
  /-- The bytes from a backslash on that are no escape. -/
  | badEscape (bytes : List UInt8)
  | tooDeep
  /-- The text holds a value of another kind. -/
  | notObject (kind : String)
  /-- A number that is too large, with the keys and indices that lead to it. -/
  | numberRange (path : List String) (literal : String)
deriving DecidableEq, Repr

namespace JsonError

def quotePiece : Utf8.Piece → String
  | .char c => Quoted.quoteChar c
  | .stray b => "'\\x" ++ String.ofList (Quoted.hex 2 b.toNat) ++ "'"

/-- Whether a piece can stand between backquotes as it is. -/
def isClear : Utf8.Piece → Bool
  | .char c => c != '\x60' && c != '\uFFFD' && c != ' ' && Unicode.isPrintable c
  | .stray _ => false

/-- The bytes of a faulty escape between backquotes, or quoted if that does not show them. -/
def showEscape (bytes : List UInt8) : String :=
  if (Utf8.pieces bytes).all isClear then
    "\x60" ++ String.ofList (Utf8.decodeLossy bytes) ++ "\x60"
  else Quoted.quoteBytes bytes

def showKey (key : String) : String :=
  String.ofList (key.toList.flatMap fun
    | '~' => ['~', '0']
    | '/' => ['~', '1']
    | c => [c])

def message : JsonError → String
  | .unexpectedEnd => "unexpected end of JSON input"
  | .unexpected piece context => "invalid character " ++ quotePiece piece ++ " " ++ context
  | .badEscape bytes => "invalid escape sequence " ++ showEscape bytes ++ " in string"
  | .tooDeep => "exceeded max depth"
  | .notObject kind =>
    "json: cannot unmarshal " ++ kind ++ " into Go value of type map[string]interface \x7b\x7d"
  | .numberRange path literal =>
    "json: cannot unmarshal number " ++ literal ++ " into Go struct field ." ++
      String.intercalate "." (path.map showKey) ++ " of type float64"

end JsonError

/-- What a JSON text says; numbers are kept as they are written. -/
inductive JsonTree where
  | null
  | bool (b : Bool)
  | number (literal : String)
  | text (s : String)
  | list (items : List JsonTree)
  | object (members : List (String × JsonTree))

namespace JsonTree

open Json (skip hexNumber? hexValue? isSurrogate pair?)

/-- A step of reading; what is left of the text comes with the result. -/
abbrev Step := Except JsonError

/-- The error at the start of a text: what stands there is not what is looked for. -/
def refuse {α : Type} (context : String) : List UInt8 → Step α
  | [] => .error .unexpectedEnd
  | b :: bs => .error (.unexpected (Utf8.firstPiece b bs).1 context)

def byte (c : Char) : UInt8 := c.toNat.toUInt8

def isDigit (b : UInt8) : Bool := byte '0' ≤ b && b ≤ byte '9'

/-- Reads the rest of a word, which stands for a tree. -/
def readWord (word : String) (t : JsonTree) : List Char → List UInt8 → Step (JsonTree × List UInt8)
  | [], bs => .ok (t, bs)
  | c :: cs, bs =>
    if bs.head? == some (byte c) then readWord word t cs bs.tail
    else refuse ("in literal " ++ word ++ " (expecting " ++ Quoted.quoteChar c ++ ")") bs

/-! ## Numbers -/

/-- Reads digits, of which there has to be one. -/
def readDigits (bs : List UInt8) : Step (List UInt8 × List UInt8) :=
  if bs.head?.any isDigit then .ok (bs.takeWhile isDigit, bs.dropWhile isDigit)
  else refuse "in numeric literal" bs

/-- Reads the digits before the point: a zero alone, or digits that do not start with one. -/
def readWhole (bs : List UInt8) : Step (List UInt8 × List UInt8) :=
  if bs.head? == some (byte '0') then .ok (bs.take 1, bs.tail) else readDigits bs

def readFraction (bs : List UInt8) : Step (List UInt8 × List UInt8) :=
  if bs.head? == some (byte '.') then do
    let (ds, rest) ← readDigits bs.tail
    return (bs.take 1 ++ ds, rest)
  else .ok ([], bs)

def takeOneOf (cs : List Char) (bs : List UInt8) : List UInt8 × List UInt8 :=
  if bs.head?.any (fun b => cs.any (byte · == b)) then (bs.take 1, bs.tail) else ([], bs)

def readExponent (bs : List UInt8) : Step (List UInt8 × List UInt8) :=
  match takeOneOf ['e', 'E'] bs with
  | ([], _) => .ok ([], bs)
  | (mark, rest) => do
    let (sign, rest) := takeOneOf ['+', '-'] rest
    let (ds, rest) ← readDigits rest
    return (mark ++ sign ++ ds, rest)

def readNumber (bs : List UInt8) : Step (JsonTree × List UInt8) := do
  let (sign, bs) := takeOneOf ['-'] bs
  let (whole, bs) ← readWhole bs
  let (fraction, bs) ← readFraction bs
  let (exponent, bs) ← readExponent bs
  let literal := Utf8.decodeLossy (sign ++ whole ++ fraction ++ exponent)
  return (.number (String.ofList literal), bs)

/-! ## Strings -/

/-- A piece of a string: a byte as it is, or a code unit given by an escape. -/
inductive Piece where
  | byte (b : UInt8)
  | unit (n : Nat)

def joinPieces : List Piece → List UInt8
  | [] => []
  | .byte b :: ps => b :: joinPieces ps
  | .unit hi :: .unit lo :: ps =>
    match pair? hi lo with
    -- two code units form one character
    | some c => Utf8.encode c.toString ++ joinPieces ps
    | none => unitBytes hi ++ joinPieces (.unit lo :: ps)
  | .unit n :: ps => unitBytes n ++ joinPieces ps
where
  /-- The bytes of a single code unit; half of a pair alone is replaced. -/
  unitBytes (n : Nat) : List UInt8 :=
    Utf8.encode (if isSurrogate n then '\uFFFD' else Char.ofNat n).toString

def shortEscape? (b : UInt8) : Option UInt8 :=
  match Char.ofNat b.toNat with
  | 'b' => some 0x08
  | 'f' => some 0x0C
  | 'n' => some 0x0A
  | 'r' => some 0x0D
  | 't' => some 0x09
  | '"' => some b
  | '\\' => some b
  | '/' => some b
  | _ => none

def readPieces : List UInt8 → Step (List Piece × List UInt8)
  | [] => .error .unexpectedEnd
  | b :: bs =>
    if b == byte '"' then .ok ([], bs)
    else if b == byte '\\' then
      match bs with
      | [] => .error .unexpectedEnd
      | e :: bs =>
        if e == byte 'u' then
          match bs with
          | d₁ :: d₂ :: d₃ :: d₄ :: bs =>
            match hexNumber? [d₁, d₂, d₃, d₄] with
            | some n => do
              let (ps, rest) ← readPieces bs
              return (.unit n :: ps, rest)
            | none => .error (.badEscape [b, e, d₁, d₂, d₃, d₄])
          | few =>
            .error (if few.all fun d => (hexValue? d).isSome then .unexpectedEnd
              else .badEscape (b :: e :: few))
        else match shortEscape? e with
          | some c => do
            let (ps, rest) ← readPieces bs
            return (.byte c :: ps, rest)
          | none => .error (.badEscape [b, e])
    else if b < 0x20 then refuse "in string" (b :: bs)
    else do
      let (ps, rest) ← readPieces bs
      return (.byte b :: ps, rest)

def readString (bs : List UInt8) : Step (String × List UInt8) := do
  let (ps, rest) ← readPieces bs
  return (String.ofList (Utf8.decodeLossy (joinPieces ps)), rest)

/-! ## Trees -/

/-- How deep lists and objects may be nested. -/
def maxDepth : Nat := 10000

mutual

/-- Reads a value that stands in `depth` lists and objects. The fuel bounds the number of values,
members and items. -/
def readTree : Nat → (depth : Nat) → List UInt8 → Step (JsonTree × List UInt8)
  | 0, _, _ => .error .unexpectedEnd
  | fuel + 1, depth, bs =>
    match skip bs with
    | [] => .error .unexpectedEnd
    | b :: rest =>
      match Char.ofNat b.toNat with
      | '\x7b' =>
        if maxDepth ≤ depth then .error .tooDeep
        else match skip rest with
          | 0x7D :: rest => .ok (.object [], rest)
          | rest => do
            let (members, rest) ← readMembers fuel (depth + 1) rest
            return (.object members, rest)
      | '[' =>
        if maxDepth ≤ depth then .error .tooDeep
        else match skip rest with
          | 0x5D :: rest => .ok (.list [], rest)
          | rest => do
            let (items, rest) ← readItems fuel (depth + 1) rest
            return (.list items, rest)
      | '"' => do
        let (s, rest) ← readString rest
        return (.text s, rest)
      | 't' => readWord "true" (.bool true) ['r', 'u', 'e'] rest
      | 'f' => readWord "false" (.bool false) ['a', 'l', 's', 'e'] rest
      | 'n' => readWord "null" .null ['u', 'l', 'l'] rest
      | c =>
        if isDigit b || c == '-' then readNumber (b :: rest)
        else refuse "looking for beginning of value" (b :: rest)

def readMembers : Nat → (depth : Nat) → List UInt8 → Step (List (String × JsonTree) × List UInt8)
  | 0, _, _ => .error .unexpectedEnd
  | fuel + 1, depth, bs =>
    match skip bs with
    | 0x22 :: rest => do
      let (key, rest) ← readString rest
      match skip rest with
      | 0x3A :: rest =>
        let (t, rest) ← readTree fuel depth rest
        match skip rest with
        | 0x2C :: rest =>
          let (members, rest) ← readMembers fuel depth rest
          return ((key, t) :: members, rest)
        | 0x7D :: rest => return ([(key, t)], rest)
        | rest => refuse "after object key:value pair" rest
      | rest => refuse "after object key" rest
    | rest => refuse "looking for beginning of object key string" rest

def readItems : Nat → (depth : Nat) → List UInt8 → Step (List JsonTree × List UInt8)
  | 0, _, _ => .error .unexpectedEnd
  | fuel + 1, depth, bs => do
    let (t, rest) ← readTree fuel depth bs
    match skip rest with
    | 0x2C :: rest =>
      let (items, rest) ← readItems fuel depth rest
      return (t :: items, rest)
    | 0x5D :: rest => return ([t], rest)
    | rest => refuse "after array element" rest

end

/-- Reads a text that holds one value. -/
def ofText (bs : List UInt8) : Except JsonError JsonTree := do
  -- a step consumes a byte, except that the items of a list start with a value right away
  let (t, rest) ← readTree (2 * bs.length + 2) 0 bs
  match skip rest with
  | [] => return t
  | rest => refuse "after top-level value" rest

/-! ## Values -/

mutual

/-- The value of a tree that stands at a path; the first number that is too large is reported. -/
def value (path : List String) : JsonTree → Except JsonError Value
  | .null => .ok .null
  | .bool b => .ok (.bool b)
  | .number literal =>
    match Literal.read .double literal.toList with
    | .ok x => .ok (.double x)
    | .error _ => .error (.numberRange path literal)
  | .text s => .ok (.text s)
  | .list items => return .anyList (← itemValues path 0 items)
  | .object members => return .anyObject (← memberValues path members)

def itemValues (path : List String) (index : Nat) : List JsonTree → Except JsonError (List Value)
  | [] => .ok []
  | t :: ts => do
    let v ← value (path ++ [toString index]) t
    return v :: (← itemValues path (index + 1) ts)

def memberValues (path : List String) :
    List (String × JsonTree) → Except JsonError (List (String × Value))
  | [] => .ok []
  | (key, t) :: ts => do
    let v ← value (path ++ [key]) t
    return (key, v) :: (← memberValues path ts)

end

end JsonTree

/-- The entries of an object in JSON; there are none in `null`. -/
def ofJson (bs : List UInt8) : Except JsonError (List (String × Value)) := do
  match ← JsonTree.ofText bs with
  | .object members => return Value.sortEntries (← JsonTree.memberValues [] members)
  | .null => return []
  | .list _ => throw (.notObject "array")
  | .text _ => throw (.notObject "string")
  | .bool _ => throw (.notObject "bool")
  | .number _ => throw (.notObject "number")

end FilterQuery.Config
