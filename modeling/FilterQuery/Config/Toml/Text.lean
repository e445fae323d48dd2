import FilterQuery.Numeric.Literal
import FilterQuery.Text.Quoted

/-!
# Strings in TOML

A string is basic, with escapes, or literal, without them, and each of these stands on one line or
is a block between three quotes. A string is first read up to its closing quotes; only then its
escapes are looked at.
-/

namespace FilterQuery.Config.Toml

inductive TextForm where
  | basic
  | literal
  | basicBlock
  | literalBlock
deriving DecidableEq, Repr

inductive TextFault where
  | lineBreak (form : TextForm)
  | unterminated (form : TextForm)
  /-- A backslash at the end. -/
  | openEscape
  /-- A carriage return without a line feed. -/
  | loneReturn
  /-- Six quotes at the end of a block. -/
  | tooManyQuotes (form : TextForm)
  | badCharacter
  /-- A character that cannot stand in a string without escapes. -/
  | notText
  /-- A character that cannot stand in a string with escapes. -/
  | badCodePoint (c : Char)
  | badEscape (c : Char)
  | shortEscape (needed given : Nat)
  | notHexadecimal
  | noCharacter
deriving DecidableEq, Repr

/-- A character by its code point, and itself if it can be shown. -/
def codePointText (c : Char) : String :=
  let digits := String.ofList ((Quoted.hex 4 c.toNat).map Char.toUpper)
  "U+" ++ digits ++ if Unicode.isPrintable c then " '" ++ c.toString ++ "'" else ""

def TextForm.quotes : TextForm → String
  | .basic => "\""
  | .literal => "'"
  | .basicBlock => "\"\"\""
  | .literalBlock => "'''"

def TextFault.message : TextFault → String
  | .lineBreak .literal | .lineBreak .literalBlock => "literal strings cannot have new lines"
  | .lineBreak _ => "basic strings cannot have new lines"
  | .unterminated .basic => "basic string not terminated by \""
  | .unterminated .literal => "unterminated literal string"
  | .unterminated .basicBlock => "multiline basic string not terminated by \"\"\""
  | .unterminated .literalBlock => "multiline literal string not terminated by '''"
  | .openEscape => "need a character after \\"
  | .loneReturn => "need a \\n after \\r"
  | .tooManyQuotes .literalBlock => "''' not allowed in multiline literal string"
  | .tooManyQuotes _ => "\"\"\" not allowed in multiline basic string"
  | .badCharacter => "invalid character"
  | .notText => "invalid UTF-8"
  | .badCodePoint c => "invalid character " ++ codePointText c
  | .badEscape c => "invalid escaped character " ++ codePointText c
  | .shortEscape needed given =>
    "unicode point needs " ++ toString needed ++ " character, not " ++ toString given
  | .notHexadecimal => "non-hex character"
  | .noCharacter => "escape sequence is invalid Unicode code point"

/-- The character whose code is the first byte of a character. -/
def leadByte (c : Char) : Char := Char.ofNat ((Utf8.encode c.toString).headD 0).toNat

/-- Whether a character may stand in a text: no control character but the tab and line breaks. -/
def isTextChar (c : Char) : Bool :=
  (0x20 ≤ c.toNat && c.toNat != 0x7F) || c == '\t' || c == '\n' || c == '\r'

/-! ## Reading up to the closing quotes -/

/-- Puts characters before the text of a result. -/
def prepend {ε : Type} (cs : List Char) :
    Except ε (List Char × List Char) → Except ε (List Char × List Char)
  | .ok (body, rest) => .ok (cs ++ body, rest)
  | .error e => .error e

/-- Reads a basic string behind its opening quote, escapes as they are. -/
def scanBasic : List Char → Except TextFault (List Char × List Char)
  | [] => .error (.unterminated .basic)
  | '"' :: cs => .ok ([], cs)
  | ['\\'] => .error .openEscape
  | '\\' :: c :: cs => prepend ['\\', c] (scanBasic cs)
  | c :: cs =>
    if c = '\n' ∨ c = '\r' then .error (.lineBreak .basic) else prepend [c] (scanBasic cs)

def scanLiteral : List Char → Except TextFault (List Char × List Char)
  | [] => .error (.unterminated .literal)
  | '\'' :: cs => .ok ([], cs)
  | c :: cs =>
    if c = '\n' ∨ c = '\r' then .error (.lineBreak .literal)
    else if !isTextChar c then .error .badCharacter
    else prepend [c] (scanLiteral cs)

/-- What stands behind three closing quotes: up to two more quotes belong to the text. -/
def closeBlock (form : TextForm) (quote : Char) (cs : List Char) :
    Except TextFault (List Char × List Char) :=
  let more := cs.takeWhile (· == quote)
  if 2 < more.length then .error (.tooManyQuotes form) else .ok (more, cs.drop more.length)

/-- Reads a basic block behind its opening quotes, escapes as they are. -/
def scanBasicBlock : List Char → Except TextFault (List Char × List Char)
  | [] => .error (.unterminated .basicBlock)
  | '"' :: '"' :: '"' :: cs => closeBlock .basicBlock '"' cs
  | ['\\'] => .error .openEscape
  | '\\' :: c :: cs => prepend ['\\', c] (scanBasicBlock cs)
  | '\r' :: '\n' :: cs => prepend ['\r', '\n'] (scanBasicBlock cs)
  | c :: cs => if c = '\r' then .error .loneReturn else prepend [c] (scanBasicBlock cs)

def scanLiteralBlock : List Char → Except TextFault (List Char × List Char)
  | [] => .error (.unterminated .literalBlock)
  | '\'' :: '\'' :: '\'' :: cs => closeBlock .literalBlock '\'' cs
  | '\r' :: '\n' :: cs => prepend ['\r', '\n'] (scanLiteralBlock cs)
  | c :: cs =>
    if c = '\r' then .error .loneReturn
    else if !isTextChar c then .error .badCharacter
    else prepend [c] (scanLiteralBlock cs)

/-! ## Escapes -/

def simpleEscape? (c : Char) : Option Char :=
  match c with
  | '"' => some c
  | '\\' => some c
  | 'b' => some '\x08'
  | 'f' => some '\x0c'
  | 'n' => some '\n'
  | 'r' => some '\r'
  | 't' => some '\t'
  | 'e' => some '\x1b'
  | _ => none

/-- The number of hexadecimal digits behind the letter of an escape. -/
def escapeWidth? (c : Char) : Option Nat :=
  match c with
  | 'u' => some 4
  | 'U' => some 8
  | _ => none

/-- The character that hexadecimal digits at the start of a text denote. -/
def codePoint (width : Nat) (quotes : String) (cs : List Char) : Except TextFault Char :=
  -- the quotes of a block count as given, although they are no digits
  let given := (String.ofList cs ++ quotes).utf8ByteSize
  if given < width then .error (.shortEscape width given)
  else
    match (cs.take width).mapM (Literal.digitValue? 16) with
    | none => .error .notHexadecimal
    | some ds =>
      if ds.length < width then .error .notHexadecimal
      else
        let n := ds.foldl (fun n d => n * 16 + d) 0
        if n.isValidChar then .ok (Char.ofNat n) else .error .noCharacter

/-- Whether only blanks stand before the next line break. -/
def endsLine (cs : List Char) : Bool :=
  match cs.dropWhile fun c => c == ' ' || c == '\t' with
  | '\n' :: _ | '\r' :: '\n' :: _ => true
  | _ => false

/-- Whether a character is left out behind a backslash at the end of a line. -/
def isFill (c : Char) : Bool := c == ' ' || c == '\t' || c == '\n' || c == '\r'

/-- The text of a string with escapes. -/
def unescape (block : Bool) : List Char → Except TextFault (List Char)
  | [] => .ok []
  | c :: cs =>
    have : (cs.dropWhile isFill).length ≤ cs.length := (List.dropWhile_sublist _).length_le
    if c = '\\' then
      -- at the end of a line in a block, a backslash joins the line to the next one
      if block && endsLine cs then unescape block (cs.dropWhile isFill)
      else
        match cs with
        | [] => .error .openEscape
        | letter :: rest =>
          match simpleEscape? letter, escapeWidth? letter with
          | some e, _ => return e :: (← unescape block rest)
          | none, some width => do
            let e ← codePoint width (if block then TextForm.basicBlock.quotes else "") rest
            return e :: (← unescape block (rest.drop width))
          | none, none => .error (.badEscape (leadByte letter))
    else if isTextChar c then return c :: (← unescape block cs)
    else .error (.badCodePoint c)
termination_by cs => cs.length
decreasing_by all_goals (simp only [List.length_cons, List.length_drop]; omega)

def basicText (block : Bool) (body : List Char) : Except TextFault (List Char) :=
  if body.contains '\\' then unescape block body
  else if body.all isTextChar then .ok body
  else .error .notText

/-! ## Strings -/

/-- A block without the line break that it starts with. -/
def dropFirstBreak : List Char → List Char
  | '\n' :: cs => cs
  | '\r' :: '\n' :: cs => cs
  | cs => cs

/-- Reads a string on one line; it starts with a quote. -/
def readLine : List Char → Except TextFault (String × List Char)
  | '\'' :: cs => do
    let (body, rest) ← scanLiteral cs
    return (String.ofList body, rest)
  | cs => do
    let (body, rest) ← scanBasic cs.tail
    return (String.ofList (← basicText false body), rest)

/-- Reads a string or a block; it starts with a quote. -/
def readText : List Char → Except TextFault (String × List Char)
  | '"' :: '"' :: '"' :: cs => do
    let (body, rest) ← scanBasicBlock cs
    return (String.ofList (← basicText true (dropFirstBreak body)), rest)
  | '\'' :: '\'' :: '\'' :: cs => do
    let (body, rest) ← scanLiteralBlock cs
    return (String.ofList (dropFirstBreak body), rest)
  | cs => readLine cs

end FilterQuery.Config.Toml
