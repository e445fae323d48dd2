import FilterQuery.Document.ReadError
import FilterQuery.Numeric.Integer
import FilterQuery.Value.Basic

/-!
# Scalars of block documents

A schema says what the scalars of block documents are: it gives each a tag, and decodes its text as
a value of the type that the tag stands for. Documents are read with any schema.

In the standard schema a scalar has the tag that is written, and else one by its text if it is plain.
Plain texts are null, booleans, integers in four bases, floating point numbers and timestamps; all
other texts are strings.
-/

namespace FilterQuery.Yaml

/-- A scalar with its tag, if one is written, and whether it is plain. -/
structure Scalar where
  tag : Option String
  plain : Bool
  text : String

/-- How scalars are tagged and decoded. Decoding fails where a text is none of the type. -/
structure Schema where
  /-- The tag of a scalar, with two exclamation marks for the address of the standard types. -/
  shortTag : Scalar → String
  bool : Scalar → Except ReadError Bool
  /-- An integer of 64 bits with a sign. -/
  int : Scalar → Except ReadError SizedInt
  float : Scalar → Except ReadError Binary
  timestamp : Scalar → Except ReadError Instant

/-- The value of a scalar. A type that is not known holds texts. -/
def Schema.value (schema : Schema) (s : Scalar) : Except ReadError Value :=
  match schema.shortTag s with
  | "!!null" => .ok .null
  | "!!bool" => (schema.bool s).map .bool
  | "!!int" => (schema.int s).map .int
  | "!!float" => (schema.float s).map .double
  | "!!timestamp" => (schema.timestamp s).map .time
  | _ => .ok (.text s.text)

/-! ## The standard schema -/

/-- What a plain text denotes. -/
inductive Resolved where
  | null
  | bool (b : Bool)
  | int (n : Int)
  | float (x : Binary)
  | timestamp (t : Instant)
  | text

/-! ### Integers -/

/-- A number that fits into 64 bits. -/
def sized? (read : List Char → Except LiteralError Nat) (cs : List Char) : Option Int :=
  match cs with
  | '-' :: body =>
    (read body).toOption.bind fun n => if n ≤ signedLimit then some (-(n : Int)) else none
  | '+' :: body =>
    (read body).toOption.bind fun n => if n < signedLimit then some (n : Int) else none
  -- a number without a sign may use all bits
  | body => (read body).toOption.bind fun n => if n < unsignedLimit then some (n : Int) else none

/-- An integer behind the mark of its base, where the sign may stand before or behind the mark. -/
def markedInteger? (base : Nat) (mark : Char) : List Char → Option Int
  | '0' :: m :: body => if m = mark then sized? (Integer.ofDigits base) body else none
  | '-' :: '0' :: m :: body =>
    if m = mark then sized? (Integer.ofDigits base) ('-' :: body) else none
  | _ => none

/-! ### Floating point numbers -/

/-- Whether a text has the form of a decimal number: digits with at most one point, and an optional
exponent. -/
def isDecimalForm (cs : List Char) : Bool :=
  let body := (Literal.readSign cs).2
  let whole := body.takeWhile Char.isDigit
  let rest := body.dropWhile Char.isDigit
  let (fraction, rest) : List Char × List Char := match rest with
    | '.' :: r => (r.takeWhile Char.isDigit, r.dropWhile Char.isDigit)
    | r => ([], r)
  let exponentOk := match rest with
    | [] => true
    | e :: r =>
      let ds := (Literal.readSign r).2
      (e == 'e' || e == 'E') && !ds.isEmpty && ds.all Char.isDigit
  !(whole.isEmpty && fraction.isEmpty) && exponentOk

/-! ### Timestamps -/

/-- The instant that a text denotes: a date with four digits of the year, alone or with a time. -/
def timestamp? (cs : List Char) : Option Instant :=
  if (cs.takeWhile Char.isDigit).length = 4 ∧ (cs.drop 4).head? = some '-' then
    [⟨true, 'T', true⟩, ⟨true, 't', true⟩, ⟨true, ' ', false⟩].findSome?
      (fun form => Timestamp.read? form cs) <|> Timestamp.readDate? cs
  else none

/-! ### Texts -/

/-- The words with a meaning of their own. -/
def word? (s : String) : Option Resolved :=
  if ["", "~", "null", "Null", "NULL"].contains s then some .null
  else if ["true", "True", "TRUE"].contains s then some (.bool true)
  else if ["false", "False", "FALSE"].contains s then some (.bool false)
  else if [".nan", ".NaN", ".NAN"].contains s then some (.float .nan)
  else if [".inf", ".Inf", ".INF", "+.inf", "+.Inf", "+.INF"].contains s then
    some (.float (.infinite false))
  else if ["-.inf", "-.Inf", "-.INF"].contains s then some (.float (.infinite true))
  else none

def number? (cs : List Char) : Option Resolved :=
  -- underscores may stand anywhere
  let cs := cs.filter (· != '_')
  match sized? Integer.ofBased cs with
  | some n => some (.int n)
  | none =>
    let float? :=
      if isDecimalForm cs then (Literal.read .double cs).toOption.map Resolved.float else none
    float? <|> (markedInteger? 2 'b' cs).map .int <|> (markedInteger? 8 'o' cs).map .int

/-- What a text denotes; timestamps are looked for only if `timed` says so. -/
def resolve (timed : Bool) (s : String) : Resolved :=
  match word? s with
  | some r => r
  | none =>
    match s.toList with
    | [] => .null
    | c :: cs =>
      if c = '.' then
        match Literal.read .double (c :: cs) with
        | .ok x => .float x
        | .error _ => .text
      else if c.isDigit || c == '+' || c == '-' then
        let time? := if timed then (timestamp? (c :: cs)).map Resolved.timestamp else none
        (time? <|> number? (c :: cs)).getD .text
      else .text

/-- The address that the tags of the standard types start with. -/
def tagAddress : String := "tag:yaml.org,2002:"

/-- A tag in its short form: two exclamation marks stand for the address of the standard types. -/
def shortTag (tag : String) : String :=
  if tag.startsWith tagAddress then
    "!!" ++ String.ofList (tag.toList.drop tagAddress.length)
  else tag

/-- The tag of what a plain text denotes. -/
def Resolved.tag : Resolved → String
  | .null => "!!null"
  | .bool _ => "!!bool"
  | .int _ => "!!int"
  | .float _ => "!!float"
  | .timestamp _ => "!!timestamp"
  | .text => "!!str"

def Schema.standard : Schema where
  shortTag s :=
    -- the tag of one exclamation mark is as good as none
    match s.tag.filter (· != "!") with
    | some tag => Yaml.shortTag tag
    | none => if s.plain then (resolve true s.text).tag else "!!str"
  bool s :=
    match resolve false s.text with
    | .bool b => .ok b
    | _ => .error .malformedBlock
  int s :=
    match resolve false s.text with
    | .int n =>
      match SizedInt.ofInt? .int64 n with
      | some i => .ok i
      | none => .error .scalarType
    | _ => .error .malformedBlock
  float s :=
    match resolve false s.text with
    | .float x => .ok x
    | .int n => if n < signedLimit then .ok (.ofInt .double n) else .error .malformedBlock
    | _ => .error .malformedBlock
  timestamp s :=
    match resolve true s.text with
    | .timestamp t => .ok t
    | _ => .error .malformedBlock

end FilterQuery.Yaml
