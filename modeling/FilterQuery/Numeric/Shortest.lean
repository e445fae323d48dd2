import FilterQuery.Numeric.Binary

/-!
# The shortest decimal of a binary number

`Binary.shortest` finds the decimal with the fewest digits that rounds to a given number, and
among those the one nearest to it. The search tries one digit, two digits and so on: on each
decimal grid only the two neighbours of the number can lie in its rounding interval if any point
does.
-/

namespace FilterQuery

/-- The decimal `± coeff · 10 ^ exp`. -/
structure Decimal where
  neg : Bool
  coeff : Nat
  exp : Int
deriving DecidableEq, Repr

/-- Moves the trailing zeros of a coefficient into the exponent. -/
def stripZeros (fuel : Nat) (coeff : Nat) (exp : Int) : Nat × Int :=
  match fuel with
  | 0 => (coeff, exp)
  | fuel + 1 =>
    if coeff ≠ 0 ∧ coeff % 10 = 0 then stripZeros fuel (coeff / 10) (exp + 1) else (coeff, exp)

/-- A fraction that equals `num / den / 10 ^ k`. -/
def scaleRatio10 (num den : Nat) (k : Int) : Nat × Nat :=
  match k with
  | .ofNat k => (num, den * Nat.pow 10 k)
  | .negSucc k => (num * Nat.pow 10 (k + 1), den)

/-- The largest `t` with `10 ^ t ≤ num / den`, for positive `num` and `den`. -/
def floorLog10Ratio (num den : Nat) : Int :=
  let t := Int.fdiv (floorLog2Ratio num den * 30103) 100000
  let reaches (k : Int) : Bool :=
    let (n, d) := scaleRatio10 num den k
    d ≤ n
  if reaches (t + 1) then t + 1 else if reaches t then t else t - 1

/-- The reals that round to a number: the open interval between `lo / den` and `hi / den`, with
its ends when `closed`. -/
structure RoundingInterval where
  value : Nat
  lo : Nat
  hi : Nat
  den : Nat
  closed : Bool

/-- The interval of the positive number `m · 2 ^ e`. -/
def RoundingInterval.of (fmt : BinaryFormat) (m : Nat) (e : Int) : RoundingInterval :=
  -- in quarters of the unit; below a power of two the gap is half as wide
  let lo := if m = Nat.pow 2 (fmt.precision - 1) ∧ e > fmt.minExp then 4 * m - 1 else 4 * m - 2
  let (v, den) := shiftRatio (4 * m) 1 (2 - e)
  let unit := v / (4 * m)
  { value := v, lo := lo * unit, hi := (4 * m + 2) * unit, den := den, closed := m % 2 = 0 }

def RoundingInterval.contains (i : RoundingInterval) (num den : Nat) : Bool :=
  let above := if i.closed then i.lo * den ≤ num * i.den else i.lo * den < num * i.den
  let below := if i.closed then num * i.den ≤ i.hi * den else num * i.den < i.hi * den
  above && below

/-- The decimal with `digits` digits in the interval, nearest to its value, if there is one. -/
def RoundingInterval.onGrid (i : RoundingInterval) (top : Int) (digits : Nat) :
    Option (Nat × Int) :=
  let k := top - (digits : Int) + 1
  let (n, d) := scaleRatio10 i.value i.den k
  let down := n / d
  -- The candidates as fractions: `c · 10 ^ k`.
  let inside (c : Nat) : Bool :=
    let (cn, cd) := scaleRatio10 c 1 (-k)
    i.contains cn cd
  let r := n % d
  match inside down, inside (down + 1) with
  | true, true => some (if 2 * r > d ∨ (2 * r = d ∧ down % 2 = 1) then down + 1 else down, k)
  | true, false => some (down, k)
  | false, true => some (down + 1, k)
  | false, false => none

/-- Tries grids with `digits`, `digits + 1`, … digits. -/
def RoundingInterval.search (i : RoundingInterval) (top : Int) : Nat → Nat → Nat × Int
  | 0, _ => (0, 0)
  | fuel + 1, digits =>
    match i.onGrid top digits with
    | some hit => hit
    | none => search i top fuel (digits + 1)

/-- The decimal with the fewest digits that rounds to a finite number of the format. -/
def Binary.shortest (fmt : BinaryFormat) (neg : Bool) (m : Nat) (e : Int) : Decimal :=
  if m = 0 then ⟨neg, 0, 0⟩
  else
    let i := RoundingInterval.of fmt m e
    let top := floorLog10Ratio i.value i.den
    let (c, k) := i.search top 18 1
    let (c, k) := stripZeros 20 c k
    ⟨neg, c, k⟩

end FilterQuery
