import FilterQuery.Numeric.Literal
import FilterQuery.Proofs.Numeric.Rounding
import Mathlib.Tactic.IntervalCases

/-!
# Decimal numerals of integers

`IsNumeral` says which decimal numerals, with fractions and exponents, have the value of an integer. An
integer of at most 53 bits is read from each of them exactly (`read_numeral`).
-/

namespace FilterQuery.Literal

/-! ### Numerals -/

/-- The number that is extended by decimal digits. -/
def extendNumber (n : Nat) (ds : List Char) : Nat :=
  ds.foldl (fun n c => n * 10 + (c.toNat - '0'.toNat)) n

def digitsNumber (ds : List Char) : Nat := extendNumber 0 ds

/-- One or more decimal digits. -/
structure AreDigits (ds : List Char) : Prop where
  nonempty : ds ≠ []
  each : ∀ c ∈ ds, c.isDigit = true

/-- A fraction, which may be left out, and its digits. -/
inductive IsFraction : List Char → List Char → Prop
  | none : IsFraction [] []
  | point {ds : List Char} (digits : AreDigits ds) : IsFraction ('.' :: ds) ds

inductive IsExponentSign : List Char → Bool → Prop
  | none : IsExponentSign [] false
  | plus : IsExponentSign ['+'] false
  | minus : IsExponentSign ['-'] true

/-- An exponent, which may be left out. Exponents are read as far as five digits. -/
inductive IsExponent : List Char → Int → Prop
  | none : IsExponent [] 0
  | digits {mark : Char} {sign ds : List Char} {neg : Bool} (isMark : mark = 'e' ∨ mark = 'E')
    (isSign : IsExponentSign sign neg) (digits : AreDigits ds) (short : digitsNumber ds < 100000) :
    IsExponent (mark :: (sign ++ ds)) (if neg then -(digitsNumber ds : Int) else digitsNumber ds)

/-- A decimal numeral whose exact value is the integer. -/
inductive IsNumeral : List Char → Int → Prop
  | decimal {neg : Bool} {whole fraction behind exponent : List Char} {e n : Int}
    (isWhole : AreDigits whole) (isFraction : IsFraction fraction behind)
    (isExponent : IsExponent exponent e)
    (value : (n : ℚ) = (if neg then -1 else 1) * (digitsNumber (whole ++ behind) *
      10 ^ (e - behind.length))) :
    IsNumeral ((if neg then ['-'] else []) ++ (whole ++ (fraction ++ exponent))) n

/-! ### Characters -/

def digitChars : List Char := ['0', '1', '2', '3', '4', '5', '6', '7', '8', '9']

def numeralChars : List Char := digitChars ++ ['.', 'e', 'E', '+', '-']

theorem digit_bounds {c : Char} (digit : c.isDigit = true) : '0' ≤ c ∧ c ≤ '9' := by
  simp only [Char.isDigit, Bool.and_eq_true, decide_eq_true_eq] at digit
  exact digit

theorem digit_mem {c : Char} (digit : c.isDigit = true) : c ∈ digitChars := by
  obtain ⟨low, high⟩ := digit_bounds digit
  have low : 48 ≤ c.toNat := low
  have high : c.toNat ≤ 57 := high
  rw [← Char.ofNat_toNat c]
  interval_cases c.toNat <;> decide

theorem digitValue?_digit {c : Char} (digit : c.isDigit = true) :
    digitValue? 10 c = some (c.toNat - '0'.toNat) := by
  have bounds := digit_bounds digit
  have small : c.toNat - '0'.toNat < 10 := by
    have high : c.toNat ≤ '9'.toNat := bounds.2
    have nine : '9'.toNat = 57 := rfl
    have zero : '0'.toNat = 48 := rfl
    omega
  rw [digitValue?, if_pos bounds, Option.filter_some, if_pos (decide_eq_true small)]

theorem digit_ne {c d : Char} (digit : c.isDigit = true) (other : d.isDigit = false) : c ≠ d := by
  rintro rfl
  rw [digit] at other
  cases other

/-! ### Reading the parts -/

theorem le_extendNumber (n : Nat) (ds : List Char) : n ≤ extendNumber n ds := by
  induction ds generalizing n with
  | nil => exact Nat.le_refl n
  | cons c ds ih =>
    have rest := ih (n * 10 + (c.toNat - '0'.toNat))
    rw [extendNumber, List.foldl_cons]
    rw [extendNumber] at rest
    omega

theorem readMantissa_digits {ds : List Char} (digits : ∀ c ∈ ds, c.isDigit = true) (m : Mantissa)
    (rest : List Char) :
    readMantissa 10 m (ds ++ rest) = readMantissa 10
      { m with
        value := extendNumber m.value ds
        count := m.count + ds.length
        fraction := if m.point then m.fraction + ds.length else m.fraction } rest := by
  induction ds generalizing m with
  | nil => cases m; simp [extendNumber]
  | cons c ds ih =>
    have digit := digits c List.mem_cons_self
    rw [List.cons_append, readMantissa, if_neg (digit_ne digit rfl), if_neg (digit_ne digit rfl),
      digitValue?_digit digit]
    dsimp only
    rw [ih fun c member => digits c (List.mem_cons_of_mem _ member)]
    cases m.point <;> simp [extendNumber, Nat.add_comm, Nat.add_left_comm]

theorem readExponentDigits_digits {ds : List Char} (digits : ∀ c ∈ ds, c.isDigit = true) {n : Nat}
    (short : extendNumber n ds < 100000) : readExponentDigits n ds = (extendNumber n ds, []) := by
  induction ds generalizing n with
  | nil => rfl
  | cons c ds ih =>
    have digit := digits c List.mem_cons_self
    have grows := le_extendNumber (n * 10 + (c.toNat - '0'.toNat)) ds
    rw [extendNumber, List.foldl_cons] at short
    rw [extendNumber] at grows
    rw [readExponentDigits, if_neg (digit_ne digit rfl), if_pos digit, if_pos (by omega)]
    exact ih (fun c member => digits c (List.mem_cons_of_mem _ member)) short

theorem readMantissa_exponent {exponent : List Char} {e : Int} (isExponent : IsExponent exponent e)
    (m : Mantissa) : readMantissa 10 m exponent = (m, exponent) := by
  cases isExponent with
  | none => rfl
  | digits isMark _ _ _ => rcases isMark with rfl | rfl <;> rfl

theorem readExponent?_exponent {exponent : List Char} {e : Int} (isExponent : IsExponent exponent e) :
    readExponent? 'e' false exponent = some (e, []) := by
  cases isExponent with
  | none => rfl
  | @digits mark sign ds neg isMark isSign digits short =>
    have lower : mark.toLower = 'e' := by rcases isMark with rfl | rfl <;> rfl
    have read : readExponentDigits 0 ds = (digitsNumber ds, []) :=
      readExponentDigits_digits digits.each short
    obtain ⟨c, cs, rfl⟩ := List.exists_cons_of_ne_nil digits.nonempty
    have digit := digits.each c List.mem_cons_self
    rw [readExponent?.eq_def]
    dsimp only
    rw [if_pos lower]
    cases isSign with
    | none =>
      have noMinus : c ≠ '-' := digit_ne digit rfl
      have noPlus : c ≠ '+' := digit_ne digit rfl
      simp [noMinus, noPlus, digit, read]
    | plus => simp [digit, read]
    | minus => simp [digit, read]

/-! ### Rounding -/

theorem lt_pow_decimalLength {n : Nat} (nonzero : n ≠ 0) : n < 10 ^ decimalLength n := by
  rw [decimalLength, if_neg nonzero]
  exact (Nat.length_toDigits_le_iff (by decide) Nat.length_toDigits_pos).mp (Nat.le_refl _)

theorem pow_decimalLength_le {n : Nat} (nonzero : n ≠ 0) : 10 ^ (decimalLength n - 1) ≤ n := by
  rw [decimalLength, if_neg nonzero]
  by_cases single : (Nat.toDigits 10 n).length - 1 = 0
  · rw [single]
    exact Nat.pos_of_ne_zero nonzero
  · by_contra less
    have shorter := (Nat.length_toDigits_le_iff (b := 10) (n := n) (by decide)
      (Nat.pos_of_ne_zero single)).mpr (Nat.not_le.mp less)
    omega

/-- The largest whole number up to which doubles hold all of them. -/
def lastExact : Nat := 2 ^ 53

theorem lastExact_lt : lastExact < 10 ^ 16 := by decide

theorem roundDecimal_multiple (fmt : BinaryFormat) (neg : Bool) {value : Nat} (positive : value ≠ 0)
    (k : Nat) (small : value * 10 ^ k ≤ lastExact) :
    roundDecimal fmt neg value (.ofNat k) = .round fmt neg (value * 10 ^ k) 1 := by
  have short : decimalLength value - 1 + k < 16 := by
    rw [← Nat.pow_lt_pow_iff_right (a := 10) (by decide), Nat.pow_add]
    calc 10 ^ (decimalLength value - 1) * 10 ^ k ≤ value * 10 ^ k :=
          Nat.mul_le_mul_right _ (pow_decimalLength_le positive)
      _ < 10 ^ 16 := small.trans_lt lastExact_lt
  rw [roundDecimal, if_neg positive, if_neg (by rw [Int.ofNat_eq_natCast]; omega),
    if_neg (by rw [Int.ofNat_eq_natCast]; omega)]
  rfl

theorem roundDecimal_quotient (fmt : BinaryFormat) (neg : Bool) {a : Nat} (positive : a ≠ 0) (k : Nat)
    (small : a ≤ lastExact) :
    roundDecimal fmt neg (a * 10 ^ (k + 1)) (.negSucc k) = .round fmt neg a 1 := by
  have power : 0 < 10 ^ (k + 1) := Nat.pow_pos (by decide)
  have nonzero : a * 10 ^ (k + 1) ≠ 0 := Nat.mul_ne_zero positive (Nat.ne_of_gt power)
  have short : decimalLength (a * 10 ^ (k + 1)) - 1 < 16 + (k + 1) := by
    rw [← Nat.pow_lt_pow_iff_right (a := 10) (by decide), Nat.pow_add 10 16]
    calc 10 ^ (decimalLength (a * 10 ^ (k + 1)) - 1) ≤ a * 10 ^ (k + 1) :=
          pow_decimalLength_le nonzero
      _ < 10 ^ 16 * 10 ^ (k + 1) :=
          Nat.mul_lt_mul_of_pos_right (small.trans_lt lastExact_lt) power
  have long : k + 1 < decimalLength (a * 10 ^ (k + 1)) := by
    rw [← Nat.pow_lt_pow_iff_right (a := 10) (by decide)]
    calc 10 ^ (k + 1) ≤ a * 10 ^ (k + 1) :=
          Nat.le_mul_of_pos_left _ (Nat.pos_of_ne_zero positive)
      _ < 10 ^ decimalLength (a * 10 ^ (k + 1)) := lt_pow_decimalLength nonzero
  rw [roundDecimal, if_neg nonzero, if_neg (by omega), if_neg (by omega)]
  exact Binary.round_fraction fmt neg a (Nat.ne_of_gt power)

/-- A decimal that is a whole number is rounded as that number. -/
theorem roundDecimal_whole (fmt : BinaryFormat) (neg : Bool) {a value : Nat} {exp : Int}
    (small : a ≤ lastExact) (equal : (a : ℚ) = value * 10 ^ exp) :
    roundDecimal fmt neg value exp = .round fmt neg a 1 := by
  by_cases nothing : value = 0
  · have zero : a = 0 := by
      rw [nothing, Nat.cast_zero, zero_mul] at equal
      exact_mod_cast equal
    simp [roundDecimal, Binary.round, nothing, zero]
  cases exp with
  | ofNat k =>
    have whole : a = value * 10 ^ k := by
      rw [Int.ofNat_eq_natCast, zpow_natCast] at equal
      exact_mod_cast equal
    subst whole
    exact roundDecimal_multiple fmt neg nothing k small
  | negSucc k =>
    have whole : value = a * 10 ^ (k + 1) := by
      rw [zpow_negSucc, ← div_eq_mul_inv, eq_div_iff (pow_ne_zero _ (by norm_num))] at equal
      exact_mod_cast equal.symm
    subst whole
    exact roundDecimal_quotient fmt neg (fun zero => nothing (by rw [zero, Nat.zero_mul])) k small

theorem round_finite (neg : Bool) {a : Nat} (small : a ≤ lastExact) :
    ∃ m e, Binary.round .double neg a 1 = .finite neg m e := by
  by_cases zero : a = 0
  · exact ⟨0, 0, by simp [Binary.round, Binary.zero, zero]⟩
  have log : a.log2 ≤ 53 := by
    have below : a.log2 < 54 := (Nat.log2_lt zero).mpr (small.trans_lt (by decide))
    omega
  have exponent : (roundSignificand 53 (some (-1074)) a 1).2 ≤ 2 := by
    simp only [roundSignificand, Extended.floorLog2Ratio_one zero]
    split <;> dsimp only <;> omega
  unfold Binary.round
  rw [if_neg zero]
  change ∃ m e, (if 971 < (roundSignificand 53 (some (-1074)) a 1).2 then Binary.infinite neg
    else if (roundSignificand 53 (some (-1074)) a 1).1 = 0 then Binary.zero neg
    else .finite neg _ _) = .finite neg m e
  rw [if_neg (by omega)]
  split
  · exact ⟨0, 0, rfl⟩
  · exact ⟨_, _, rfl⟩

/-! ### Whole numerals -/

theorem AreDigits.subset {ds : List Char} (digits : AreDigits ds) : ds ⊆ numeralChars :=
  fun c member => List.mem_append_left _ (digit_mem (digits.each c member))

theorem IsFraction.subset {fraction behind : List Char} (h : IsFraction fraction behind) :
    fraction ⊆ numeralChars := by
  cases h with
  | none => exact List.nil_subset _
  | point digits => exact List.cons_subset.mpr ⟨by decide, digits.subset⟩

theorem IsExponent.subset {exponent : List Char} {e : Int} (h : IsExponent exponent e) :
    exponent ⊆ numeralChars := by
  cases h with
  | none => exact List.nil_subset _
  | digits isMark isSign digits _ =>
    refine List.cons_subset.mpr ⟨by rcases isMark with rfl | rfl <;> decide, ?_⟩
    refine List.append_subset.mpr ⟨?_, digits.subset⟩
    cases isSign <;> decide

/-- The digits of a hexadecimal number, if a text has its mark, or else the text. -/
def hexadecimal (cs : List Char) : Bool × List Char :=
  match cs with
  | '0' :: x :: d :: r => if x.toLower = 'x' then (true, d :: r) else (false, cs)
  | _ => (false, cs)

theorem hexadecimal_numeral {cs : List Char} (chars : cs ⊆ numeralChars) :
    hexadecimal cs = (false, cs) := by
  have other : ∀ x ∈ numeralChars, (x.toLower != 'x') = true := List.all_eq_true.mp (by decide)
  unfold hexadecimal
  split
  · rename_i x d r
    exact if_neg (bne_iff_ne.mp (other x (chars (by simp))))
  · rfl

theorem readUnsigned_decimal (fmt : BinaryFormat) (neg : Bool)
    {whole fraction behind exponent : List Char} {e : Int} (isWhole : AreDigits whole)
    (isFraction : IsFraction fraction behind) (isExponent : IsExponent exponent e) :
    readUnsigned fmt neg (whole ++ (fraction ++ exponent)) =
      match roundDecimal fmt neg (digitsNumber (whole ++ behind)) (e - behind.length) with
      | .infinite _ => throw .outOfRange
      | x => pure x := by
  have chars : whole ++ (fraction ++ exponent) ⊆ numeralChars :=
    List.append_subset.mpr ⟨isWhole.subset, List.append_subset.mpr
      ⟨isFraction.subset, isExponent.subset⟩⟩
  have noUnderscore : (whole ++ (fraction ++ exponent)).contains '_' = false := by
    rw [← Bool.not_eq_true, List.contains_iff_mem]
    exact fun member => absurd (chars member) (by decide)
  have some : 0 < whole.length := List.length_pos_iff.mpr isWhole.nonempty
  have mantissa : ∃ point, readMantissa 10 {} (whole ++ (fraction ++ exponent)) =
      (⟨digitsNumber (whole ++ behind), whole.length + behind.length, behind.length, point⟩,
        exponent) := by
    rw [readMantissa_digits isWhole.each]
    cases isFraction with
    | none =>
      refine ⟨false, ?_⟩
      rw [List.nil_append, readMantissa_exponent isExponent]
      simp [digitsNumber]
    | point digits =>
      refine ⟨true, ?_⟩
      rw [List.cons_append, readMantissa, if_neg (by decide), if_pos rfl, if_neg Bool.false_ne_true,
        readMantissa_digits digits.each, readMantissa_exponent isExponent]
      simp [digitsNumber, extendNumber]
  obtain ⟨point, mantissa⟩ := mantissa
  unfold readUnsigned
  split
  rename_i hex body start
  obtain ⟨rfl, rfl⟩ := Prod.mk.inj (start.symm.trans (hexadecimal_numeral chars))
  rw [if_neg Bool.false_ne_true, if_neg Bool.false_ne_true, mantissa]
  dsimp only
  rw [if_neg (by omega), readExponent?_exponent isExponent, noUnderscore]
  rfl

theorem read_of_digit (fmt : BinaryFormat) (neg : Bool) {c : Char} (digit : c.isDigit = true)
    (cs : List Char) :
    Literal.read fmt ((if neg then ['-'] else []) ++ c :: cs) = readUnsigned fmt neg (c :: cs) := by
  have noMinus : c ≠ '-' := digit_ne digit rfl
  have noPlus : c ≠ '+' := digit_ne digit rfl
  have lower : c.toLower ∈ digitChars := by
    have each : ∀ d ∈ digitChars, digitChars.contains d.toLower = true :=
      List.all_eq_true.mp (by decide)
    exact List.contains_iff_mem.mp (each c (digit_mem digit))
  have noWord {d : Char} (other : d ∉ digitChars) : c.toLower ≠ d := by
    rintro rfl
    exact other lower
  have sign : readSign ((if neg then ['-'] else []) ++ c :: cs) = (neg, c :: cs) := by
    cases neg with
    | true => rfl
    | false => simp [readSign, noMinus, noPlus]
  have noInfinity : isInfinityWord (c :: cs) = false := by
    simp [isInfinityWord, noWord (d := 'i') (by decide)]
  have noNaN : ((if neg then ['-'] else []) ++ c :: cs).map Char.toLower ≠ "nan".toList := by
    cases neg with
    | true => simp
    | false => simp [noWord (d := 'n') (by decide)]
  rw [Literal.read, sign]
  dsimp only
  rw [noInfinity, if_neg Bool.false_ne_true, if_neg noNaN]

/-- A numeral of an integer that doubles hold exactly is read as the integer; the sign of a zero may be
negative. -/
theorem read_numeral {cs : List Char} {n : Int} (numeral : IsNumeral cs n)
    (small : n.natAbs ≤ lastExact) :
    ∃ x, Literal.read .double cs = .ok x ∧ (x = .ofInt .double n ∨ n = 0 ∧ x = .zero true) := by
  cases numeral with
  | @decimal neg whole fraction behind exponent e n isWhole isFraction isExponent value =>
    have nonneg : (0 : ℚ) ≤ digitsNumber (whole ++ behind) * 10 ^ (e - behind.length) := by positivity
    have magnitude : (n.natAbs : ℚ) = digitsNumber (whole ++ behind) * 10 ^ (e - behind.length) := by
      rw [Nat.cast_natAbs, Int.cast_abs, value, abs_mul, abs_of_nonneg nonneg]
      cases neg <;> simp
    obtain ⟨m, x, finite⟩ := round_finite neg small
    have read := readUnsigned_decimal .double neg isWhole isFraction isExponent
    rw [roundDecimal_whole .double neg small magnitude, finite] at read
    refine ⟨.finite neg m x, ?_, ?_⟩
    · obtain ⟨c, cs, rfl⟩ := List.exists_cons_of_ne_nil isWhole.nonempty
      exact (read_of_digit .double neg (isWhole.each c List.mem_cons_self) _).trans read
    · rw [← finite]
      by_cases zero : n = 0
      · subst zero
        cases neg with
        | true => exact .inr ⟨rfl, rfl⟩
        | false => exact .inl rfl
      · have sign : neg = decide (n < 0) := by
          cases neg with
          | true =>
            rw [if_pos rfl, neg_one_mul] at value
            have below : (n : ℚ) ≤ 0 := value ▸ neg_nonpos.mpr nonneg
            have below : n ≤ 0 := by exact_mod_cast below
            exact (decide_eq_true (by omega)).symm
          | false =>
            rw [if_neg Bool.false_ne_true, one_mul] at value
            have above : (0 : ℚ) ≤ n := value ▸ nonneg
            have above : 0 ≤ n := by exact_mod_cast above
            exact (decide_eq_false (by omega)).symm
        exact .inl (congrArg (Binary.round .double · n.natAbs 1) sign)

end FilterQuery.Literal
