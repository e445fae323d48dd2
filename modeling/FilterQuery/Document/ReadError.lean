import FilterQuery.Numeric.Literal
import FilterQuery.Regex.Reader
import FilterQuery.Text.Quoted

/-!
# Errors of reading

Why a text is not a document.
-/

namespace FilterQuery

/-- Why an object that stands for a regular expression is refused. -/
inductive RegexCause where
  | unknownFlag (c : Char)
  | pattern (e : Regex.PatternError)
deriving DecidableEq, Repr

def RegexCause.message : RegexCause → String
  | .unknownFlag c => "unknown flag " ++ Quoted.quoteChar c
  | .pattern e => e.message

inductive ReadError where
  | trailingData
  | badCodePoint
  | expectedString
  | unterminatedString
  | noComma
  | noColon
  | unexpectedEnd
  | badNumber (text : String) (e : LiteralError)
  | badLiteral (bytes : List UInt8)
  | unknownEscape (b : UInt8)
  | controlChar (b : UInt8)
  | badRegex (source flags : String) (cause : RegexCause)
  /-- There is no document in the text. -/
  | emptyDocument
  /-- A node of a block document cannot be used. -/
  | badNode (line column : Nat) (reason : String)
  /-- The text is no block document, or a tagged scalar does not read as its tag says. -/
  | malformedBlock
  /-- A scalar does not fit its type. -/
  | scalarType
  /-- Reading was called off. -/
  | canceled
deriving DecidableEq, Repr

def ReadError.message : ReadError → String
  | .trailingData => "trailing data after JSON"
  | .badCodePoint => "invalid utf8 char"
  | .expectedString => "expected string"
  | .unterminatedString => "unterminated string"
  | .noComma => "expected comma"
  | .noColon => "expected colon"
  | .unexpectedEnd => "unexpected EOF"
  | .badNumber text e =>
    "invalid JSON number: strconv.ParseFloat: parsing " ++ Quoted.quote text ++ ": " ++ e.message
  | .badLiteral bytes => "invalid literal " ++ Quoted.quoteBytes bytes
  | .unknownEscape b => "unknown escape char, " ++ Quoted.quoteChar (Char.ofNat b.toNat)
  | .controlChar b => "invalid control char, " ++ Quoted.quoteChar (Char.ofNat b.toNat)
  | .badRegex source flags cause =>
    "invalid regex /" ++ source ++ "/" ++ flags ++ ": " ++ cause.message
  | .emptyDocument => "empty document"
  | .badNode line column reason =>
    "yaml " ++ toString line ++ ":" ++ toString column ++ ": " ++ reason
  | .malformedBlock => "malformed document"
  | .scalarType => "scalar does not fit its type"
  | .canceled => "context canceled"

end FilterQuery
