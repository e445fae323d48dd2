import FilterQuery.Numeric.Literal
import FilterQuery.Numeric.Word

/-!
# Numbers for comparison

Numbers of every kind are compared after rounding to 53 significant bits, with an exponent that is
free of the limits of a machine format. An `Extended` number is kept in one form only (53 bits
exactly), so the order of magnitudes is the order of exponent and significand.
-/

namespace FilterQuery

/-- A number rounded to 53 bits; `finite neg m e` is `± m · 2 ^ e` with `2 ^ 52 ≤ m < 2 ^ 53`. -/
inductive Extended where
  | infinite (neg : Bool)
  | zero
  | finite (neg : Bool) (mant : Nat) (exp : Int)
deriving DecidableEq, Repr

namespace Extended

/-- A key whose lexicographic order is the numerical order. -/
def rank : Extended → Int × Int × Int
  | .infinite true => (-2, 0, 0)
  | .finite true m e => (-1, -e, -m)
  | .zero => (0, 0, 0)
  | .finite false m e => (1, e, m)
  | .infinite false => (2, 0, 0)

def compare (a b : Extended) : Ordering :=
  (Ord.compare a.rank.1 b.rank.1).then
    ((Ord.compare a.rank.2.1 b.rank.2.1).then (Ord.compare a.rank.2.2 b.rank.2.2))

/-- The number nearest to `± num / den · 2 ^ e`. -/
def ofScaledRatio (neg : Bool) (num den : Nat) (e : Int) : Extended :=
  if num = 0 then .zero
  else
    let (m, k) := roundSignificand 53 none num den
    .finite neg m (k + e)

def ofInt (n : Int) : Extended := ofScaledRatio (n < 0) n.natAbs 1 0

/-- The number of a floating point value that is a number. -/
def ofBinary? : Binary → Option Extended
  | .nan => none
  | .infinite neg => some (.infinite neg)
  | .finite neg m e => some (ofScaledRatio neg m 1 e)

/-! ## Reading numerals

A numeral has digits in base 2, 8, 10 or 16, with a prefix for the bases other than ten, at most
one point, underscores between digits, and an exponent of ten (`e`) or of two (`p`). -/

/-- The digits read so far. -/
structure Digits where
  value : Nat := 0
  count : Nat := 0
  /-- How many digits stood before the point. -/
  point : Option Nat := none
  before : Literal.Before := .start
  misplaced : Bool := false

/-- Reads digits, underscores and at most one point. -/
def readDigits (base : Nat) : Digits → List Char → Digits × List Char
  | d, [] => (d, [])
  | d, c :: cs =>
    if c = '.' ∧ d.point = none then
      readDigits base
        { d with
          point := some d.count
          before := .other
          misplaced := d.misplaced || d.before == .underscore }
        cs
    else if c = '_' then
      readDigits base
        { d with before := .underscore, misplaced := d.misplaced || d.before != .digit } cs
    else match Literal.digitValue? base c with
      | some v =>
        readDigits base
          { d with value := d.value * base + v, count := d.count + 1, before := .digit } cs
      | none => (d, c :: cs)

/-- An exponent and whether it counts powers of two. -/
structure Exponent where
  value : Int := 0
  binary : Bool := false

def readExponent? (cs : List Char) : Option Exponent :=
  match cs with
  | [] => some {}
  | c :: cs =>
    let binary := c == 'p' || c == 'P'
    if binary || c == 'e' || c == 'E' then
      let (neg, cs) := Literal.readSign cs
      let digits := cs.filter (· ≠ '_')
      let n : Nat := digits.foldl (fun n d => n * 10 + (d.toNat - '0'.toNat)) 0
      if !digits.isEmpty && digits.all Char.isDigit &&
          Literal.underscoresOk false .start cs && n < signedLimit then
        some { value := if neg then -(n : Int) else n, binary := binary }
      else none
    else none

/-- Rounds `m · 2 ^ e` to the given number of bits. -/
def roundBits (bits m : Nat) (e : Int) : Nat × Int :=
  if m.log2 < bits then (m, e)
  else
    let (q, k) := roundSignificand bits none m 1
    (q, k + e)

/-- Multiplies by the squares of `f` that the bits of `n` select, rounding at each step. -/
def powerLoop : Nat → Nat → Nat × Int → Nat × Int → Nat × Int
  | 0, _, z, _ => z
  | fuel + 1, n, z, f =>
    if n = 0 then z
    else
      let z := if n % 2 = 1 then roundBits 117 (z.1 * f.1) (z.2 + f.2) else z
      powerLoop fuel (n / 2) z (roundBits 181 (f.1 * f.1) (f.2 + f.2))

/-- The power `5 ^ n` to 117 bits. -/
def power5 (n : Nat) : Nat × Int :=
  if n ≤ 27 then (Nat.pow 5 n, 0) else powerLoop 64 (n - 27) (Nat.pow 5 27, 0) (5, 0)

/-- Applies the limits of the exponent: beyond them a number is infinite or zero. -/
def limit : Extended → Extended
  | .finite neg m e =>
    if e + 53 > 2147483647 then .infinite neg
    else if e + 53 < -2147483648 then .zero
    else .finite neg m e
  | x => x

def readUnsigned? (neg : Bool) (cs : List Char) : Option Extended := do
  let (base, lead, body) : Nat × Literal.Before × List Char := match cs with
    | '0' :: p :: rest =>
      match p.toLower with
      | 'b' => (2, .digit, rest)
      | 'o' => (8, .digit, rest)
      | 'x' => (16, .digit, rest)
      | _ => (10, .start, cs)
    | _ => (10, .start, cs)
  let (d, rest) := readDigits base { before := lead } body
  if d.count = 0 ∨ d.misplaced ∨ d.before = .underscore then none
  let e ← readExponent? rest
  let places : Int := match d.point with
    | some p => (d.count - p : Nat)
    | none => 0
  let exp5 : Int := (if base = 10 then -places else 0) + (if e.binary then 0 else e.value)
  let bitsPerDigit : Int := match base with
    | 8 => 3
    | 16 => 4
    | _ => 1
  let exp2 := e.value - places * bitsPerDigit
  if d.value = 0 then some .zero
  else
    let top := exp2 + d.value.log2 + 1
    if top > 2147483647 ∨ top < -2147483648 then none
    else
      let (m, k) := power5 exp5.natAbs
      some <| limit <|
        if exp5 < 0 then ofScaledRatio neg d.value m (exp2 - k)
        else ofScaledRatio neg (d.value * m) 1 (exp2 + k)

/-- The number that a numeral denotes, if it is one. -/
def ofNumeral? (s : String) : Option Extended :=
  let (neg, body) := Literal.readSign s.toList
  if body = "Inf".toList ∨ body = "inf".toList then some (.infinite neg)
  else readUnsigned? neg body

end Extended

end FilterQuery
