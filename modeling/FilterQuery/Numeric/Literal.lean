import FilterQuery.Numeric.Binary

/-!
# Number literals

Reads the decimal and hexadecimal number literals that stand for floating point numbers: an
optional sign, digits with at most one point, an optional exponent (mandatory, and a power of two,
in hexadecimal), underscores between digits, and the words `inf`, `infinity` and `nan`.
-/

namespace FilterQuery

inductive LiteralError where
  /-- The text is not a number literal. -/
  | malformed
  /-- The literal is larger than every finite number of the format. -/
  | outOfRange
deriving DecidableEq, Repr

def LiteralError.message : LiteralError → String
  | .malformed => "invalid syntax"
  | .outOfRange => "value out of range"

namespace Literal

def digitValue? (base : Nat) (c : Char) : Option Nat :=
  let v? :=
    if '0' ≤ c ∧ c ≤ '9' then some (c.toNat - '0'.toNat)
    else if 'a' ≤ c ∧ c ≤ 'f' then some (c.toNat - 'a'.toNat + 10)
    else if 'A' ≤ c ∧ c ≤ 'F' then some (c.toNat - 'A'.toNat + 10)
    else none
  v?.filter (· < base)

/-- The digits of a literal read so far: their value, how many there are, and how many stand after
the point. -/
structure Mantissa where
  value : Nat := 0
  count : Nat := 0
  fraction : Nat := 0
  point : Bool := false
deriving DecidableEq, Repr

/-- Reads digits, underscores and at most one point, and returns what is left. -/
def readMantissa (base : Nat) : Mantissa → List Char → Mantissa × List Char
  | m, [] => (m, [])
  | m, c :: cs =>
    if c = '_' then readMantissa base m cs
    else if c = '.' then
      if m.point then (m, c :: cs) else readMantissa base { m with point := true } cs
    else
      match digitValue? base c with
      | some d =>
        readMantissa base
          { m with
            value := m.value * base + d
            count := m.count + 1
            fraction := if m.point then m.fraction + 1 else m.fraction }
          cs
      | none => (m, c :: cs)

/-- Reads the digits of an exponent, underscores allowed. -/
def readExponentDigits : Nat → List Char → Nat × List Char
  | n, [] => (n, [])
  | n, c :: cs =>
    if c = '_' then readExponentDigits n cs
    else if c.isDigit then
      -- what is far outside of every format is not followed further
      readExponentDigits (if n < 10000 then n * 10 + (c.toNat - '0'.toNat) else n) cs
    else (n, c :: cs)

/-- Reads an exponent introduced by `mark`: `none` when it is malformed, and the exponent zero
when there is no mark. -/
def readExponent? (mark : Char) (required : Bool) : List Char → Option (Int × List Char)
  | [] => if required then none else some (0, [])
  | c :: cs =>
    if c.toLower = mark then
      let (neg, cs) := match cs with
        | '-' :: r => (true, r)
        | '+' :: r => (false, r)
        | r => (false, r)
      match cs with
      | d :: _ =>
        if d.isDigit then
          let (n, r) := readExponentDigits 0 cs
          some (if neg then -(n : Int) else n, r)
        else none
      | [] => none
    else if required then none
    else some (0, c :: cs)

/-- What stood before a character, as far as the rule on underscores sees it. -/
inductive Before where
  | start
  | digit
  | underscore
  | other
deriving DecidableEq, Repr

/-- Whether every underscore stands between two digits. -/
def underscoresOk (hex : Bool) : Before → List Char → Bool
  | b, [] => b ≠ .underscore
  | b, c :: cs =>
    if c.isDigit || (hex && (digitValue? 16 c).isSome) then underscoresOk hex .digit cs
    else if c = '_' then b = .digit && underscoresOk hex .underscore cs
    else b ≠ .underscore && underscoresOk hex .other cs

def decimalLength (n : Nat) : Nat := if n = 0 then 0 else (Nat.toDigits 10 n).length

/-- The number nearest to `± value · 10 ^ exp`. -/
def roundDecimal (fmt : BinaryFormat) (neg : Bool) (value : Nat) (exp : Int) : Binary :=
  let point := (decimalLength value : Int) + exp
  if value = 0 then .zero neg
  -- beyond every format, so that the power need not be computed
  else if point > 310 then .infinite neg
  else if point < -330 then .zero neg
  else match exp with
    | .ofNat k => .round fmt neg (value * Nat.pow 10 k) 1
    | .negSucc k => .round fmt neg value (Nat.pow 10 (k + 1))

def isInfinityWord (s : List Char) : Bool :=
  let w := s.map Char.toLower
  w == "inf".toList || w == "infinity".toList

/-- Reads an optional sign: whether it is a minus, and the rest. -/
def readSign : List Char → Bool × List Char
  | '-' :: cs => (true, cs)
  | '+' :: cs => (false, cs)
  | cs => (false, cs)

def readUnsigned (fmt : BinaryFormat) (neg : Bool) (cs : List Char) :
    Except LiteralError Binary := do
  let (hex, body) := match cs with
    | '0' :: x :: d :: r => if x.toLower = 'x' then (true, d :: r) else (false, cs)
    | _ => (false, cs)
  let (m, rest) := readMantissa (if hex then 16 else 10) {} body
  if m.count = 0 then throw .malformed
  let some (e, rest) := readExponent? (if hex then 'p' else 'e') hex rest
    | throw .malformed
  unless rest.isEmpty do throw .malformed
  if cs.contains '_' then
    let lead : Before := if hex then .digit else .start
    unless underscoresOk hex lead body do throw .malformed
  let x := if hex then
      let e := e - 4 * (m.fraction : Int)
      let (n, d) := shiftRatio m.value 1 (-e)
      Binary.round fmt neg n d
    else roundDecimal fmt neg m.value (e - (m.fraction : Int))
  match x with
  | .infinite _ => throw .outOfRange
  | x => pure x

def read (fmt : BinaryFormat) (s : List Char) : Except LiteralError Binary :=
  let (neg, body) := readSign s
  if isInfinityWord body then .ok (.infinite neg)
  else if s.map Char.toLower = "nan".toList then .ok .nan
  else readUnsigned fmt neg body

end Literal

end FilterQuery
