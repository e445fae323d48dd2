import FilterQuery.Numeric.Shortest

/-!
# Decimal notations

Writes a decimal positionally or with an exponent. `Binary.general` chooses between the two by
size and `Binary.positional` never uses an exponent; both write the shortest decimal that reads
back as the number.
-/

namespace FilterQuery

/-- The decimal digits of a number, most significant first. -/
def decimalDigits (n : Nat) : List Char := Nat.toDigits 10 n

namespace Decimal

/-- The exponent of the leading digit. -/
def leading (d : Decimal) : Int :=
  if d.coeff = 0 then 0 else (decimalDigits d.coeff).length + d.exp - 1

def signText (d : Decimal) : String := if d.neg then "-" else ""

/-- Writes the decimal without an exponent. -/
def positional (d : Decimal) : String :=
  let ds := decimalDigits d.coeff
  let body := match d.exp with
    | .ofNat k => if d.coeff = 0 then ds else ds ++ List.replicate k '0'
    | .negSucc k =>
      let places := k + 1
      if ds.length ≤ places then
        '0' :: '.' :: (List.replicate (places - ds.length) '0' ++ ds)
      else
        ds.take (ds.length - places) ++ '.' :: ds.drop (ds.length - places)
  d.signText ++ String.ofList body

/-- Writes the decimal with one digit before the point and an exponent of at least `width`
digits. -/
def scientific (width : Nat) (d : Decimal) : String :=
  let ds := decimalDigits d.coeff
  let mantissa := match ds with
    | [] => ['0']
    | c :: [] => [c]
    | c :: cs => c :: '.' :: cs
  let e := d.leading
  let es := decimalDigits e.natAbs
  let es := List.replicate (width - es.length) '0' ++ es
  d.signText ++ String.ofList (mantissa ++ 'e' :: (if e < 0 then '-' else '+') :: es)

end Decimal

/-- When a number is written with an exponent: if its leading digit stands below `10 ^ low` or at
`10 ^ high` and above; and the least number of digits of that exponent. -/
structure ExponentRule where
  low : Int
  high : Int
  width : Nat

/-- The notation of numbers in messages and typed answers. -/
def ExponentRule.message : ExponentRule := ⟨-4, 6, 2⟩

/-- The notation of numbers in records printed as one line of text each. -/
def ExponentRule.record : ExponentRule := ⟨-6, 21, 1⟩

namespace Binary

/-- Writes the words for the numbers that are not finite, and others by `finiteText`. -/
def textWith (fmt : BinaryFormat) (finiteText : Decimal → String) : Binary → String
  | .nan => "NaN"
  | .infinite neg => if neg then "-Inf" else "+Inf"
  | .finite neg m e => finiteText (shortest fmt neg m e)

/-- The shortest text of a number, positional or with an exponent as the rule says. -/
def general (rule : ExponentRule) (fmt : BinaryFormat) (x : Binary) : String :=
  x.textWith fmt fun d =>
    if d.coeff ≠ 0 ∧ (d.leading < rule.low ∨ rule.high ≤ d.leading) then d.scientific rule.width
    else d.positional

/-- A number rounded to that many digits after the point, a half going to the even neighbour. -/
def fixed (places : Nat) : Binary → String
  | .finite neg m e =>
    let (n, d) := shiftRatio (m * Nat.pow 10 places) 1 (-e)
    let decimal : Decimal := ⟨neg, divRoundHalfEven n d, -(places : Int)⟩
    decimal.positional
  | x => x.textWith .double Decimal.positional

/-- The shortest text of a number without an exponent. -/
def positional (fmt : BinaryFormat) (x : Binary) : String :=
  x.textWith fmt Decimal.positional

end Binary

end FilterQuery
