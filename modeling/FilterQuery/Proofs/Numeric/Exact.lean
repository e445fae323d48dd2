import FilterQuery.Numeric.Extended
import Mathlib.Algebra.Order.Field.Power
import Mathlib.Algebra.Order.Field.Rat
import Mathlib.Order.Compare
import Mathlib.Tactic.Ring

/-!
# The exact values of numbers

`Binary.value?` is the rational number that a finite floating point number stands for. A number of
double precision is not changed by rounding to 53 bits, and so the order of exponent and significand
that comparisons use is the order of the exact values (`compare_represents`).
-/

namespace FilterQuery

/-- The rational number `± m · 2 ^ e`. -/
def scaled (neg : Bool) (m : Nat) (e : Int) : ℚ := (if neg then -1 else 1) * (m * 2 ^ e)

namespace Binary

/-- The exact value of a finite number. -/
def value? : Binary → Option ℚ
  | .finite neg m e => some (scaled neg m e)
  | _ => none

def isFiniteIn (fmt : BinaryFormat) : Binary → Bool
  | .finite _ m e => m < 2 ^ fmt.precision ∧ fmt.minExp ≤ e ∧ e ≤ fmt.maxExp
  | _ => false

theorem significand_lt {neg : Bool} {m : Nat} {e : Int}
    (finite : (Binary.finite neg m e).isFiniteIn .double) : m < 2 ^ 53 := by
  simp only [isFiniteIn, decide_eq_true_eq] at finite
  exact finite.1

end Binary

namespace Extended

/-! ### Rounding -/

theorem floorLog2Ratio_one {m : Nat} (positive : m ≠ 0) : floorLog2Ratio m 1 = m.log2 := by
  have whole : Nat.log2 1 = 0 := by decide
  have power : 1 <<< m.log2 ≤ m := by
    rw [Nat.one_shiftLeft]
    exact Nat.log2_self_le positive
  simp only [floorLog2Ratio, whole, shiftRatio, Int.ofNat_zero, Int.sub_zero]
  exact if_pos power

theorem divRoundHalfEven_one (n : Nat) : divRoundHalfEven n 1 = n := by
  simp [divRoundHalfEven, Nat.mod_one]

theorem log2_le_of_fits {m : Nat} (positive : m ≠ 0) (fits : m < 2 ^ 53) : m.log2 ≤ 52 := by
  have below := (Nat.log2_lt positive).mpr fits
  omega

theorem shifted_bounds {m : Nat} (positive : m ≠ 0) (fits : m < 2 ^ 53) :
    2 ^ 52 ≤ m * 2 ^ (52 - m.log2) ∧ m * 2 ^ (52 - m.log2) < 2 ^ 53 := by
  have short := log2_le_of_fits positive fits
  constructor
  · calc 2 ^ 52 = 2 ^ m.log2 * 2 ^ (52 - m.log2) := by rw [← Nat.pow_add]; congr 1; omega
      _ ≤ m * 2 ^ (52 - m.log2) := Nat.mul_le_mul_right _ (Nat.log2_self_le positive)
  · calc m * 2 ^ (52 - m.log2) < 2 ^ (m.log2 + 1) * 2 ^ (52 - m.log2) :=
          Nat.mul_lt_mul_of_pos_right Nat.lt_log2_self (Nat.two_pow_pos _)
      _ = 2 ^ 53 := by rw [← Nat.pow_add]; congr 1; omega

theorem roundSignificand_exact {m : Nat} (positive : m ≠ 0) (fits : m < 2 ^ 53) :
    roundSignificand 53 none m 1 = (m * 2 ^ (52 - m.log2), (m.log2 : Int) - 52) := by
  have short := log2_le_of_fits positive fits
  have shifted : shiftRatio m 1 ((m.log2 : Int) - 52) = (m * 2 ^ (52 - m.log2), 1) := by
    obtain ⟨k, gap⟩ := Nat.exists_eq_add_of_le short
    have width : 52 - m.log2 = k := by omega
    rw [width]
    cases k with
    | zero =>
      have exponent : (m.log2 : Int) - 52 = Int.ofNat 0 := by rw [Int.ofNat_eq_natCast]; omega
      rw [exponent]
      simp [shiftRatio]
    | succ k =>
      have exponent : (m.log2 : Int) - 52 = Int.negSucc k := by omega
      rw [exponent, shiftRatio, Nat.shiftLeft_eq]
  have unequal : m * 2 ^ (52 - m.log2) ≠ Nat.pow 2 53 :=
    Nat.ne_of_lt (shifted_bounds positive fits).2
  simp only [roundSignificand, floorLog2Ratio_one positive]
  rw [show ((53 - 1 : Nat) : Int) = 52 from rfl, shifted]
  simp only [divRoundHalfEven_one]
  rw [if_neg unequal]

/-- The number stands for a value, with a significand of exactly 53 bits unless the value is zero. -/
inductive Represents : Extended → ℚ → Prop
  | zero : Represents .zero 0
  | finite (neg : Bool) {m : Nat} (e : Int) (low : 2 ^ 52 ≤ m) (high : m < 2 ^ 53) :
    Represents (.finite neg m e) (scaled neg m e)

theorem represents_ofScaledRatio (neg : Bool) {m : Nat} (e : Int) (fits : m < 2 ^ 53) :
    Represents (ofScaledRatio neg m 1 e) (scaled neg m e) := by
  by_cases zero : m = 0
  · subst zero
    have nothing : scaled neg 0 e = 0 := by simp [scaled]
    rw [nothing]
    exact .zero
  · have short := log2_le_of_fits zero fits
    obtain ⟨low, high⟩ := shifted_bounds zero fits
    have result : ofScaledRatio neg m 1 e =
        .finite neg (m * 2 ^ (52 - m.log2)) ((m.log2 : Int) - 52 + e) := by
      rw [ofScaledRatio, if_neg zero, roundSignificand_exact zero fits]
    have powers : (2 : ℚ) ^ (52 - m.log2) * 2 ^ ((m.log2 : Int) - 52 + e) = 2 ^ e := by
      rw [← zpow_natCast, ← zpow_add₀ (by norm_num)]
      congr 1
      omega
    have same : scaled neg (m * 2 ^ (52 - m.log2)) ((m.log2 : Int) - 52 + e) = scaled neg m e := by
      rw [scaled, scaled, Nat.cast_mul, Nat.cast_pow, Nat.cast_ofNat, mul_assoc (m : ℚ), powers]
    rw [result, ← same]
    exact .finite neg _ low high

theorem represents_ofBinary {x : Binary} {q : ℚ} (finite : x.isFiniteIn .double)
    (value : x.value? = some q) : ∃ seen, ofBinary? x = some seen ∧ Represents seen q := by
  cases x with
  | nan => cases value
  | infinite neg => cases value
  | finite neg m e =>
    cases value
    exact ⟨_, rfl, represents_ofScaledRatio neg e (Binary.significand_lt finite)⟩

/-! ### The order -/

theorem magnitude_pos {m : Nat} (e : Int) (low : 2 ^ 52 ≤ m) : (0 : ℚ) < m * 2 ^ e := by
  have positive : 0 < m := Nat.lt_of_lt_of_le (Nat.two_pow_pos 52) low
  exact mul_pos (Nat.cast_pos.mpr positive) (zpow_pos (by norm_num) e)

theorem scaled_pos {m : Nat} (e : Int) (low : 2 ^ 52 ≤ m) : 0 < scaled false m e := by
  simpa [scaled] using magnitude_pos e low

theorem scaled_neg {m : Nat} (e : Int) (low : 2 ^ 52 ≤ m) : scaled true m e < 0 := by
  simpa [scaled] using magnitude_pos e low

theorem magnitude_lt {m m' : Nat} {e e' : Int} (high : m < 2 ^ 53) (low : 2 ^ 52 ≤ m')
    (less : e < e') : (m : ℚ) * 2 ^ e < m' * 2 ^ e' := by
  have upper : (m : ℚ) < 2 ^ 53 := by exact_mod_cast high
  have lower : (2 : ℚ) ^ 52 ≤ m' := by exact_mod_cast low
  have step : (2 : ℚ) ^ (e + 1) ≤ 2 ^ e' := zpow_le_zpow_right₀ (by norm_num) less
  calc (m : ℚ) * 2 ^ e < 2 ^ 53 * 2 ^ e := mul_lt_mul_of_pos_right upper (zpow_pos (by norm_num) e)
    _ = 2 ^ 52 * 2 ^ (e + 1) := by rw [zpow_add_one₀ (by norm_num)]; ring
    _ ≤ m' * 2 ^ e' := mul_le_mul lower step (zpow_pos (by norm_num) _).le (Nat.cast_nonneg m')

theorem compare_magnitude {m m' : Nat} {e e' : Int} (low : 2 ^ 52 ≤ m) (high : m < 2 ^ 53)
    (low' : 2 ^ 52 ≤ m') (high' : m' < 2 ^ 53) :
    (Ord.compare e e').then (Ord.compare (m : Int) m') =
      Ord.compare ((m : ℚ) * 2 ^ e) (m' * 2 ^ e') := by
  rcases lt_trichotomy e e' with less | same | greater
  · rw [compare_lt_iff_lt.mpr less, compare_lt_iff_lt.mpr (magnitude_lt high low' less)]
    rfl
  · subst same
    have scale : (0 : ℚ) < 2 ^ e := zpow_pos (by norm_num) e
    rw [compare_eq_iff_eq.mpr rfl]
    rcases lt_trichotomy m m' with less | same | greater
    · have product : (m : ℚ) * 2 ^ e < m' * 2 ^ e :=
        mul_lt_mul_of_pos_right (Nat.cast_lt.mpr less) scale
      rw [compare_lt_iff_lt.mpr product, compare_lt_iff_lt.mpr (Int.ofNat_lt.mpr less)]
      rfl
    · subst same
      rw [compare_eq_iff_eq.mpr rfl, compare_eq_iff_eq.mpr rfl]
      rfl
    · have product : (m' : ℚ) * 2 ^ e < m * 2 ^ e :=
        mul_lt_mul_of_pos_right (Nat.cast_lt.mpr greater) scale
      rw [compare_gt_iff_gt.mpr product, compare_gt_iff_gt.mpr (Int.ofNat_lt.mpr greater)]
      rfl
  · rw [compare_gt_iff_gt.mpr greater, compare_gt_iff_gt.mpr (magnitude_lt high' low greater)]
    rfl

theorem compare_neg_neg {K : Type} [AddCommGroup K] [LinearOrder K] [IsOrderedAddMonoid K] (a b : K) :
    Ord.compare (-a) (-b) = Ord.compare b a := by
  rcases lt_trichotomy a b with less | same | greater
  · rw [compare_gt_iff_gt.mpr (neg_lt_neg less), compare_gt_iff_gt.mpr less]
  · subst same
    rw [compare_eq_iff_eq.mpr rfl, compare_eq_iff_eq.mpr rfl]
  · rw [compare_lt_iff_lt.mpr (neg_lt_neg greater), compare_lt_iff_lt.mpr greater]

theorem compare_represents {a b : Extended} {x y : ℚ} (left : Represents a x)
    (right : Represents b y) : a.compare b = Ord.compare x y := by
  cases left with
  | zero =>
    cases right with
    | zero =>
      rw [compare_eq_iff_eq.mpr rfl]
      rfl
    | finite neg e low high =>
      cases neg with
      | false =>
        rw [compare_lt_iff_lt.mpr (scaled_pos e low)]
        rfl
      | true =>
        rw [compare_gt_iff_gt.mpr (scaled_neg e low)]
        rfl
  | @finite neg m e low high =>
    cases right with
    | zero =>
      cases neg with
      | false =>
        rw [compare_gt_iff_gt.mpr (scaled_pos e low)]
        rfl
      | true =>
        rw [compare_lt_iff_lt.mpr (scaled_neg e low)]
        rfl
    | @finite neg' m' e' low' high' =>
      cases neg with
      | false =>
        cases neg' with
        | false => simpa [Extended.compare, rank, scaled] using compare_magnitude low high low' high'
        | true =>
          rw [compare_gt_iff_gt.mpr ((scaled_neg e' low').trans (scaled_pos e low))]
          rfl
      | true =>
        cases neg' with
        | false =>
          rw [compare_lt_iff_lt.mpr ((scaled_neg e low).trans (scaled_pos e' low'))]
          rfl
        -- the signs turn the order of the magnitudes around
        | true =>
          have turned := @compare_magnitude m' m e' e low' high' low high
          simpa [Extended.compare, rank, scaled, compare_neg_neg] using turned

end Extended

end FilterQuery
