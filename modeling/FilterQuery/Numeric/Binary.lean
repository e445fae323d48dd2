/-!
# Binary floating point numbers

`Binary` is a number of a binary floating point format, kept exactly as sign, significand and
exponent. Every operation of this library on such numbers (reading, comparing, printing,
truncating) is exact arithmetic on these three parts; the only rounding is `Binary.round`, to
nearest with ties to the even significand.
-/

namespace FilterQuery

/-- A binary format: the width of the significand and the exponents of its smallest and largest
unit in the last place. -/
structure BinaryFormat where
  precision : Nat
  minExp : Int
  maxExp : Int
deriving DecidableEq, Repr

def BinaryFormat.double : BinaryFormat := ⟨53, -1074, 971⟩

def BinaryFormat.single : BinaryFormat := ⟨24, -149, 104⟩

/-- A floating point number; `finite neg m e` is `± m · 2 ^ e`. -/
inductive Binary where
  | nan
  | infinite (neg : Bool)
  | finite (neg : Bool) (mant : Nat) (exp : Int)
deriving DecidableEq, Repr, Inhabited

/-- The quotient rounded to the nearest integer, a half going to the even neighbour. -/
def divRoundHalfEven (num den : Nat) : Nat :=
  let q := num / den
  let r := num % den
  if 2 * r > den ∨ (2 * r = den ∧ q % 2 = 1) then q + 1 else q

/-- A fraction that equals `num / den / 2 ^ e`. -/
def shiftRatio (num den : Nat) (e : Int) : Nat × Nat :=
  match e with
  | .ofNat k => (num, den <<< k)
  | .negSucc k => (num <<< (k + 1), den)

/-- The largest `t` with `2 ^ t ≤ num / den`, for positive `num` and `den`. -/
def floorLog2Ratio (num den : Nat) : Int :=
  let t : Int := (num.log2 : Int) - den.log2
  let (n, d) := shiftRatio num den t
  if d ≤ n then t else t - 1

/-- The significand and exponent of `num / den` rounded to `precision` bits, where no exponent is
below `minExp`. -/
def roundSignificand (precision : Nat) (minExp : Option Int) (num den : Nat) : Nat × Int :=
  let e := floorLog2Ratio num den - (precision - 1 : Nat)
  let e := match minExp with
    | some lo => max e lo
    | none => e
  let (n, d) := shiftRatio num den e
  let q := divRoundHalfEven n d
  if q = Nat.pow 2 precision then (Nat.pow 2 (precision - 1), e + 1) else (q, e)

namespace Binary

def zero (neg : Bool) : Binary := .finite neg 0 0

/-- The number of the format nearest to `± num / den`. -/
def round (fmt : BinaryFormat) (neg : Bool) (num den : Nat) : Binary :=
  if num = 0 then zero neg
  else
    let (q, e) := roundSignificand fmt.precision (some fmt.minExp) num den
    if e > fmt.maxExp then .infinite neg
    else if q = 0 then zero neg
    else .finite neg q e

def ofInt (fmt : BinaryFormat) (n : Int) : Binary := round fmt (n < 0) n.natAbs 1

/-- The same number in another format, rounded if it has to be. -/
def convert (fmt : BinaryFormat) : Binary → Binary
  | .finite neg m e =>
    let (n, d) := shiftRatio m 1 (-e)
    round fmt neg n d
  | x => x

def isFinite : Binary → Bool
  | .finite .. => true
  | _ => false

def isNaN : Binary → Bool
  | .nan => true
  | _ => false

def isZero : Binary → Bool
  | .finite _ m _ => m == 0
  | _ => false

def isNegative : Binary → Bool
  | .nan => false
  | .infinite neg => neg
  | .finite neg m _ => neg && m != 0

/-- The integer part, or `none` for a number that is not finite. -/
def truncate? : Binary → Option Int
  | .finite neg m e =>
    let n : Nat := match e with
      | .ofNat k => m <<< k
      | .negSucc k => m >>> (k + 1)
    some (if neg then -(n : Int) else n)
  | _ => none

/-- Whether the number is finite and has no fractional part. -/
def isIntegral : Binary → Bool
  | .finite _ m e =>
    match e with
    | .ofNat _ => true
    | .negSucc k => m % Nat.pow 2 (k + 1) == 0
  | _ => false

end Binary

end FilterQuery
