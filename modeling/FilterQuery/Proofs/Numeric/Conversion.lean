import FilterQuery.Proofs.Numeric.Nearest

/-!
# Numbers of double precision

A number of a narrow format keeps its value in double precision (`value_convert`), and an integer
becomes the nearest one of 53 significant bits (`value_ofInt`). An integer is read back from a number
exactly if the number has no fraction (`truncate_of_value`).
-/

namespace FilterQuery

/-! ### Fractions of powers of two -/

theorem shiftRatio_den_ne_zero {num den : Nat} (nonzero : den ≠ 0) (e : Int) :
    (shiftRatio num den e).2 ≠ 0 := by
  cases e with
  | ofNat k =>
    rw [shiftRatio, Nat.shiftLeft_eq]
    exact Nat.mul_ne_zero nonzero (Nat.two_pow_pos k).ne'
  | negSucc k => exact nonzero

theorem shiftRatio_value (num den : Nat) (e : Int) :
    ((shiftRatio num den e).1 : ℚ) / (shiftRatio num den e).2 = num / den / 2 ^ e := by
  cases e with
  | ofNat k => simp [shiftRatio, Nat.shiftLeft_eq, div_div]
  | negSucc k =>
    rw [zpow_negSucc, div_inv_eq_mul]
    simp [shiftRatio, Nat.shiftLeft_eq, mul_div_right_comm]

theorem shiftRatio_le_iff {num den : Nat} (nonzero : den ≠ 0) (s : Int) :
    (shiftRatio num den s).2 ≤ (shiftRatio num den s).1 ↔ (2 : ℚ) ^ s ≤ num / den := by
  have den_pos : (0 : ℚ) < (shiftRatio num den s).2 :=
    Nat.cast_pos.mpr (Nat.pos_of_ne_zero (shiftRatio_den_ne_zero nonzero s))
  rw [← Nat.cast_le (α := ℚ), ← one_le_div₀ den_pos, shiftRatio_value,
    one_le_div₀ (zpow_pos two_pos s)]

theorem zpow_log2_bounds {n : Nat} (positive : n ≠ 0) :
    (2 : ℚ) ^ (n.log2 : Int) ≤ n ∧ (n : ℚ) < 2 ^ ((n.log2 : Int) + 1) := by
  constructor
  · exact_mod_cast Nat.log2_self_le positive
  · exact_mod_cast Nat.lt_log2_self (n := n)

/-- The difference of the logarithms is that of the fraction, or one more. -/
theorem log2_sub_bounds {num den : Nat} (positive : num ≠ 0) (nonzero : den ≠ 0) {t : Int}
    (low : (2 : ℚ) ^ t ≤ num / den) (high : (num : ℚ) / den < 2 ^ (t + 1)) :
    t ≤ (num.log2 : Int) - den.log2 ∧ (num.log2 : Int) - den.log2 ≤ t + 1 := by
  have one_lt : (1 : ℚ) < 2 := one_lt_two
  have den_pos : (0 : ℚ) < den := Nat.cast_pos.mpr (Nat.pos_of_ne_zero nonzero)
  obtain ⟨num_low, num_high⟩ := zpow_log2_bounds positive
  obtain ⟨den_low, den_high⟩ := zpow_log2_bounds nonzero
  have below : t < (num.log2 : Int) - den.log2 + 1 := by
    refine (zpow_lt_zpow_iff_right₀ one_lt).mp (low.trans_lt ?_)
    rw [div_lt_iff₀ den_pos]
    calc (num : ℚ) < 2 ^ ((num.log2 : Int) - den.log2 + 1) * 2 ^ (den.log2 : Int) := by
          rw [← zpow_add₀ two_ne_zero]
          convert num_high using 2
          omega
      _ ≤ 2 ^ ((num.log2 : Int) - den.log2 + 1) * den := by gcongr
  have above : (num.log2 : Int) - den.log2 - 1 < t + 1 := by
    refine (zpow_lt_zpow_iff_right₀ one_lt).mp (lt_of_lt_of_le ?_ high.le)
    rw [lt_div_iff₀ den_pos]
    calc (2 : ℚ) ^ ((num.log2 : Int) - den.log2 - 1) * den
        < 2 ^ ((num.log2 : Int) - den.log2 - 1) * 2 ^ ((den.log2 : Int) + 1) := by gcongr
      _ ≤ num := by
          rw [← zpow_add₀ two_ne_zero]
          convert num_low using 2
          omega
  exact ⟨by omega, by omega⟩

theorem floorLog2Ratio_eq {num den : Nat} (positive : num ≠ 0) (nonzero : den ≠ 0) {t : Int}
    (low : (2 : ℚ) ^ t ≤ num / den) (high : (num : ℚ) / den < 2 ^ (t + 1)) :
    floorLog2Ratio num den = t := by
  have one_lt : (1 : ℚ) < 2 := one_lt_two
  obtain ⟨below, above⟩ := log2_sub_bounds positive nonzero low high
  unfold floorLog2Ratio
  dsimp only
  -- the first guess is the logarithm exactly if its power of two is not above the fraction
  by_cases exact : (2 : ℚ) ^ ((num.log2 : Int) - den.log2) ≤ num / den
  · rw [if_pos ((shiftRatio_le_iff nonzero _).mpr exact)]
    have := (zpow_lt_zpow_iff_right₀ one_lt).mp (exact.trans_lt high)
    omega
  · rw [if_neg (mt (shiftRatio_le_iff nonzero _).mp exact)]
    have := (zpow_lt_zpow_iff_right₀ one_lt).mp (low.trans_lt (not_le.mp exact))
    omega

theorem roundSignificand_kept {num den m : Nat} {e lo : Int} (nonzero : den ≠ 0) (positive : m ≠ 0)
    (fits : m < 2 ^ 53) (unit : lo ≤ e) (value : (num : ℚ) / den = m * 2 ^ e) :
    ∃ k : Nat, roundSignificand 53 (some lo) num den = (m * 2 ^ k, e - k) ∧
      m * 2 ^ k < 2 ^ 53 ∧ lo ≤ e - k := by
  have short := Extended.log2_le_of_fits positive fits
  have num_ne : num ≠ 0 := by
    rintro rfl
    have product : (0 : ℚ) < m * 2 ^ e :=
      mul_pos (Nat.cast_pos.mpr (Nat.pos_of_ne_zero positive)) (zpow_pos two_pos e)
    rw [← value, Nat.cast_zero, zero_div] at product
    exact lt_irrefl _ product
  have log : floorLog2Ratio num den = m.log2 + e := by
    have low : (2 : ℚ) ^ (m.log2 : Int) ≤ m := by exact_mod_cast Nat.log2_self_le positive
    have high : (m : ℚ) < 2 ^ ((m.log2 : Int) + 1) := by exact_mod_cast Nat.lt_log2_self (n := m)
    refine floorLog2Ratio_eq num_ne nonzero ?_ ?_
    · rw [value, zpow_add₀ two_ne_zero]
      gcongr
    · rw [value, show (m.log2 : Int) + e + 1 = m.log2 + 1 + e by omega, zpow_add₀ two_ne_zero]
      gcongr
  obtain ⟨k, shift⟩ : ∃ k : Nat, max ((m.log2 : Int) + e - 52) lo = e - k :=
    ⟨(e - max ((m.log2 : Int) + e - 52) lo).toNat, by omega⟩
  have room : m * 2 ^ k < 2 ^ 53 := calc
    m * 2 ^ k ≤ m * 2 ^ (52 - m.log2) := by gcongr <;> omega
    _ < 2 ^ 53 := (Extended.shifted_bounds positive fits).2
  have whole : divRoundHalfEven (shiftRatio num den (e - k)).1 (shiftRatio num den (e - k)).2 =
      m * 2 ^ k := by
    have den_ne : (shiftRatio num den (e - k)).2 ≠ 0 := shiftRatio_den_ne_zero nonzero (e - k)
    have ratio := shiftRatio_value num den (e - k)
    rw [value, zpow_sub₀ two_ne_zero, div_div_eq_mul_div, mul_right_comm, mul_div_assoc,
      div_self (zpow_pos two_pos e).ne', mul_one, zpow_natCast,
      div_eq_iff (Nat.cast_ne_zero.mpr den_ne)] at ratio
    have product : (shiftRatio num den (e - k)).1 = m * 2 ^ k * (shiftRatio num den (e - k)).2 := by
      exact_mod_cast ratio
    rw [product, divRoundHalfEven_mul _ (Nat.pos_of_ne_zero den_ne)]
  refine ⟨k, ?_, room, by omega⟩
  simp only [roundSignificand, log]
  rw [show ((53 - 1 : Nat) : Int) = 52 from rfl, shift, whole]
  exact if_neg room.ne

theorem Extended.Represents.of_finite {neg : Bool} {m : Nat} {e : Int} {q : ℚ}
    (represents : Extended.Represents (.finite neg m e) q) :
    q = scaled neg m e ∧ 2 ^ 52 ≤ m ∧ m < 2 ^ 53 := by
  cases represents with
  | finite _ _ low high => exact ⟨rfl, low, high⟩

theorem roundSignificand_exponent {m : Nat} (positive : m ≠ 0) :
    (m.log2 : Int) - 52 ≤ (roundSignificand 53 none m 1).2 ∧
      (roundSignificand 53 none m 1).2 ≤ (m.log2 : Int) - 51 := by
  simp only [roundSignificand, Extended.floorLog2Ratio_one positive]
  split <;> simp only <;> omega

namespace Binary

theorem isFiniteIn_double_iff {neg : Bool} {m : Nat} {e : Int} :
    (finite neg m e).isFiniteIn .double ↔ m < 2 ^ 53 ∧ -1074 ≤ e ∧ e ≤ 971 := by
  simp only [isFiniteIn, decide_eq_true_eq]
  rfl

theorem isFiniteIn_single_iff {neg : Bool} {m : Nat} {e : Int} :
    (finite neg m e).isFiniteIn .single ↔ m < 2 ^ 24 ∧ -149 ≤ e ∧ e ≤ 104 := by
  simp only [isFiniteIn, decide_eq_true_eq]
  rfl

theorem isFiniteIn_double_of_single {x : Binary} (narrow : x.isFiniteIn .single) :
    x.isFiniteIn .double := by
  cases x with
  | nan => cases narrow
  | infinite neg => cases narrow
  | finite neg m e =>
    rw [isFiniteIn_single_iff] at narrow
    rw [isFiniteIn_double_iff]
    omega

theorem round_kept (neg : Bool) {num den m : Nat} {e : Int} (nonzero : den ≠ 0)
    (wide : (finite neg m e).isFiniteIn .double) (value : (num : ℚ) / den = m * 2 ^ e) :
    (round .double neg num den).isFiniteIn .double ∧
      (round .double neg num den).value? = some (scaled neg m e) := by
  obtain ⟨fits, low, high⟩ := isFiniteIn_double_iff.mp wide
  have zero_iff : num = 0 ↔ m = 0 := by
    have power : (2 : ℚ) ^ e ≠ 0 := (zpow_pos two_pos e).ne'
    rw [div_eq_iff (Nat.cast_ne_zero.mpr nonzero)] at value
    rw [← Nat.cast_eq_zero (R := ℚ), value, mul_eq_zero, mul_eq_zero]
    simp [power, nonzero]
  by_cases zero : m = 0
  · rw [round, if_pos (zero_iff.mpr zero), zero]
    exact ⟨by cases neg <;> decide, by simp [Binary.zero, value?, scaled]⟩
  obtain ⟨k, rounded, room, unit⟩ := roundSignificand_kept nonzero zero fits low value
  have nonzero' : m * 2 ^ k ≠ 0 := Nat.mul_ne_zero zero (Nat.two_pow_pos k).ne'
  have result : round .double neg num den = finite neg (m * 2 ^ k) (e - k) := by
    rw [round, if_neg (mt zero_iff.mp zero)]
    simp only [BinaryFormat.double, rounded]
    rw [if_neg (by omega), if_neg nonzero']
  rw [result]
  refine ⟨isFiniteIn_double_iff.mpr ⟨room, unit, by omega⟩, ?_⟩
  have powers : (2 : ℚ) ^ k * 2 ^ (e - k) = 2 ^ e := by
    rw [← zpow_natCast, ← zpow_add₀ two_ne_zero, add_sub_cancel]
  rw [value?, scaled, scaled, Nat.cast_mul, Nat.cast_pow, Nat.cast_ofNat, mul_assoc (m : ℚ), powers]

/-- A number of double precision, or of a narrower format, is not changed by converting it. -/
theorem value_convert {x : Binary} {q : ℚ} (wide : x.isFiniteIn .double)
    (value : x.value? = some q) :
    (x.convert .double).isFiniteIn .double ∧ (x.convert .double).value? = some q := by
  cases x with
  | nan => cases value
  | infinite neg => cases value
  | finite neg m e =>
    cases value
    have ratio := shiftRatio_value m 1 (-e)
    rw [Nat.cast_one, div_one, zpow_neg, div_inv_eq_mul] at ratio
    exact round_kept neg (shiftRatio_den_ne_zero one_ne_zero (-e)) wide ratio

/-- An integer is rounded to 53 significant bits. -/
theorem value_ofInt {n : Int} (bounded : n.natAbs < 2 ^ 100) :
    (ofInt .double n).isFiniteIn .double ∧
      (ofInt .double n).value? = some (Extended.nearest n : ℚ) := by
  rw [Extended.cast_nearest, ofInt]
  by_cases zero : n.natAbs = 0
  · obtain rfl := Int.natAbs_eq_zero.mp zero
    refine ⟨by decide, ?_⟩
    simp [round, Binary.zero, value?, scaled, Extended.nearestNat, divRoundHalfEven]
  have length : n.natAbs.log2 < 100 := (Nat.log2_lt zero).mpr bounded
  -- a whole number has no unit that would be too small for the format
  have unlimited : roundSignificand 53 (some (-1074)) n.natAbs 1 =
      roundSignificand 53 none n.natAbs 1 := by
    simp only [roundSignificand, Extended.floorLog2Ratio_one zero]
    rw [max_eq_left (by omega)]
  have exponent := roundSignificand_exponent zero
  have seen := Extended.represents_ofNat (n < 0) n.natAbs
  rw [Extended.ofScaledRatio, if_neg zero] at seen
  simp only [round, if_neg zero, BinaryFormat.double, unlimited]
  generalize roundSignificand 53 none n.natAbs 1 = rounded at exponent seen
  obtain ⟨m, e⟩ := rounded
  simp only [Int.add_zero] at seen exponent ⊢
  obtain ⟨value, low, high⟩ := seen.of_finite
  rw [if_neg (by omega), if_neg (by omega), value]
  exact ⟨isFiniteIn_double_iff.mpr ⟨high, by omega, by omega⟩, rfl⟩

/-! ### Whole numbers -/

theorem truncate_of_value {x : Binary} {q : ℚ} (value : x.value? = some q) (n : Int) :
    x.isIntegral = true ∧ x.truncate? = some n ↔ q = n := by
  cases x with
  | nan => cases value
  | infinite neg => cases value
  | finite neg m e =>
    cases value
    have signed (k : Nat) : (if neg then -(k : Int) else k) = n ↔ scaled neg k 0 = n := by
      cases neg <;> simp [scaled, ← Int.cast_inj (α := ℚ)]
    cases e with
    | ofNat k =>
      rw [isIntegral, truncate?, Nat.shiftLeft_eq, Option.some_inj, signed,
        Extended.scaled_mul_pow]
      simp
    | negSucc k =>
      have power : (2 : ℚ) ^ (k + 1) ≠ 0 := (pow_pos two_pos (k + 1)).ne'
      by_cases whole : m % 2 ^ (k + 1) = 0
      · obtain ⟨c, rfl⟩ := Nat.dvd_of_mod_eq_zero whole
        have same : scaled neg (2 ^ (k + 1) * c) (Int.negSucc k) = scaled neg c 0 := by
          rw [scaled, scaled, zpow_negSucc, zpow_zero, Nat.cast_mul, Nat.cast_pow, Nat.cast_ofNat,
            mul_comm _ (c : ℚ), mul_inv_cancel_right₀ power, mul_one]
        have quotient : (2 ^ (k + 1) * c) >>> (k + 1) = c := by
          rw [Nat.shiftRight_eq_div_pow, Nat.mul_div_cancel_left _ (Nat.two_pow_pos _)]
        rw [isIntegral, truncate?, quotient, Option.some_inj, signed, same]
        simp
      · have fractional : (finite neg m (Int.negSucc k)).isIntegral = false := by
          simpa [isIntegral] using whole
        rw [fractional]
        refine ⟨fun whole' => absurd whole'.1 Bool.false_ne_true, fun equal => absurd ?_ whole⟩
        have magnitude := Extended.abs_scaled neg m (Int.negSucc k)
        rw [equal, zpow_negSucc, ← div_eq_mul_inv, eq_div_iff power, ← Int.cast_abs,
          Int.abs_eq_natAbs, Int.cast_natCast] at magnitude
        have product : n.natAbs * 2 ^ (k + 1) = m := by exact_mod_cast magnitude
        rw [← product, Nat.mul_mod_left]

end Binary

end FilterQuery
