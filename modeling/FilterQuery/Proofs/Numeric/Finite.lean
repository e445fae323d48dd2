import FilterQuery.Proofs.Numeric.Conversion
import FilterQuery.Proofs.Numeric.Numeral
import Mathlib.Algebra.Order.Archimedean.Basic

/-!
# Finite numbers

Rounding leaves the range of a format only by becoming infinite (`round_isFiniteIn`), which the reader
of literals refuses. So it reads numerals as finite numbers only (`read_isFiniteIn`).
-/

namespace FilterQuery

/-! ### Rounded significands -/

theorem floorLog2Ratio_bounds {num den : Nat} (positive : num ≠ 0) (nonzero : den ≠ 0) :
    (2 : ℚ) ^ floorLog2Ratio num den ≤ num / den ∧
      (num : ℚ) / den < 2 ^ (floorLog2Ratio num den + 1) := by
  have above : (0 : ℚ) < num / den :=
    div_pos (Nat.cast_pos.mpr (Nat.pos_of_ne_zero positive))
      (Nat.cast_pos.mpr (Nat.pos_of_ne_zero nonzero))
  obtain ⟨t, low, high⟩ := exists_mem_Ico_zpow above one_lt_two
  rw [floorLog2Ratio_eq positive nonzero low high]
  exact ⟨low, high⟩

theorem divRoundHalfEven_le {num den c : Nat} (positive : 0 < den) (bound : num ≤ c * den) :
    divRoundHalfEven num den ≤ c := by
  calc divRoundHalfEven num den ≤ divRoundHalfEven (c * den) den := divRoundHalfEven_mono bound den
    _ = c := divRoundHalfEven_mul c positive

theorem shiftRatio_lt {num den precision : Nat} {e : Int} (positive : num ≠ 0) (nonzero : den ≠ 0)
    (unit : floorLog2Ratio num den - (precision - 1 : Nat) ≤ e) (some : 1 ≤ precision) :
    (shiftRatio num den e).1 < 2 ^ precision * (shiftRatio num den e).2 := by
  have den_pos : (0 : ℚ) < (shiftRatio num den e).2 :=
    Nat.cast_pos.mpr (Nat.pos_of_ne_zero (shiftRatio_den_ne_zero nonzero e))
  have high := (floorLog2Ratio_bounds positive nonzero).2
  have bound : ((shiftRatio num den e).1 : ℚ) / (shiftRatio num den e).2 < 2 ^ precision := by
    rw [shiftRatio_value, div_lt_iff₀ (zpow_pos two_pos e)]
    refine high.trans_le ?_
    rw [← zpow_natCast, ← zpow_add₀ two_ne_zero]
    exact zpow_le_zpow_right₀ one_le_two (by omega)
  rw [div_lt_iff₀ den_pos] at bound
  exact_mod_cast bound

theorem roundSignificand_bounds {num den precision : Nat} {lo : Int} (positive : num ≠ 0)
    (nonzero : den ≠ 0) (wide : 1 ≤ precision) :
    (roundSignificand precision (some lo) num den).1 < 2 ^ precision ∧
      lo ≤ (roundSignificand precision (some lo) num den).2 := by
  obtain ⟨e, unit⟩ : ∃ e, e = max (floorLog2Ratio num den - (precision - 1 : Nat)) lo := ⟨_, rfl⟩
  have room := shiftRatio_lt (e := e) positive nonzero (by omega) wide
  have den_pos : 0 < (shiftRatio num den e).2 :=
    Nat.pos_of_ne_zero (shiftRatio_den_ne_zero nonzero e)
  have rounded := divRoundHalfEven_le den_pos room.le
  simp only [roundSignificand, ← unit, Nat.pow_eq]
  split
  · exact ⟨Nat.pow_lt_pow_right one_lt_two (by omega), by omega⟩
  · rename_i other
    exact ⟨lt_of_le_of_ne rounded other, by omega⟩

namespace Binary

theorem isFiniteIn_iff {fmt : BinaryFormat} {neg : Bool} {m : Nat} {e : Int} :
    (finite neg m e).isFiniteIn fmt ↔ m < 2 ^ fmt.precision ∧ fmt.minExp ≤ e ∧ e ≤ fmt.maxExp := by
  rw [isFiniteIn, decide_eq_true_eq]

/-- What is rounded to a format is infinite or within the format. -/
theorem round_isFiniteIn {fmt : BinaryFormat} (wide : 1 ≤ fmt.precision) (low : fmt.minExp ≤ 0)
    (high : 0 ≤ fmt.maxExp) (neg : Bool) {num den : Nat} (nonzero : den ≠ 0) :
    round fmt neg num den = .infinite neg ∨ (round fmt neg num den).isFiniteIn fmt := by
  have zero : (Binary.zero neg).isFiniteIn fmt :=
    isFiniteIn_iff.mpr ⟨Nat.two_pow_pos _, low, high⟩
  by_cases positive : num = 0
  · right
    rw [round, if_pos positive]
    exact zero
  obtain ⟨fits, unit⟩ : (roundSignificand fmt.precision (some fmt.minExp) num den).1 < _ ∧ _ ≤ _ :=
    roundSignificand_bounds positive nonzero wide
  rw [round, if_neg positive]
  dsimp only
  split
  · exact .inl rfl
  · right
    rename_i inRange
    split
    · exact zero
    · exact isFiniteIn_iff.mpr ⟨fits, unit, Int.not_lt.mp inRange⟩

end Binary

namespace Literal

theorem double_isFiniteIn (neg : Bool) {num den : Nat} (nonzero : den ≠ 0) :
    Binary.round .double neg num den = .infinite neg ∨
      (Binary.round .double neg num den).isFiniteIn .double :=
  Binary.round_isFiniteIn (by decide) (by decide) (by decide) neg nonzero

theorem roundDecimal_isFiniteIn (neg : Bool) (value : Nat) (exp : Int) :
    roundDecimal .double neg value exp = .infinite neg ∨
      (roundDecimal .double neg value exp).isFiniteIn .double := by
  have zero : (Binary.zero neg).isFiniteIn .double := by cases neg <;> decide
  unfold roundDecimal
  dsimp only
  split
  · exact .inr zero
  split
  · exact .inl rfl
  split
  · exact .inr zero
  cases exp with
  | ofNat k => exact double_isFiniteIn neg one_ne_zero
  | negSucc k =>
    have power : Nat.pow 10 (k + 1) ≠ 0 := by
      rw [Nat.pow_eq]
      exact pow_ne_zero _ (by decide)
    exact double_isFiniteIn neg power

/-- A number that the reader returns is finite. -/
def FiniteResult (r : Except LiteralError Binary) : Prop := ∀ x, r = .ok x → x.isFiniteIn .double

theorem finiteResult_throw (e : LiteralError) : FiniteResult (throw e) := fun _ read => by cases read

theorem finiteResult_throw_bind (e : LiteralError) (f : PUnit → Except LiteralError Binary) :
    FiniteResult (throw e >>= f) := fun _ read => by cases read

theorem finiteResult_ite {p : Prop} [Decidable p] {a b : Except LiteralError Binary}
    (left : FiniteResult a) (right : FiniteResult b) : FiniteResult (if p then a else b) := by
  split
  · exact left
  · exact right

theorem finiteResult_refuse {neg : Bool} {y : Binary} :
    (y = .infinite neg ∨ y.isFiniteIn .double) → FiniteResult (match y with
      | .infinite _ => throw .outOfRange
      | x => pure x) := by
  rintro (rfl | finite)
  · exact finiteResult_throw _
  · intro x read
    cases y with
    | infinite => cases finite
    | nan => cases finite
    | finite =>
      cases read
      exact finite

theorem readUnsigned_isFiniteIn (neg : Bool) (cs : List Char) :
    FiniteResult (readUnsigned .double neg cs) := by
  unfold readUnsigned
  split
  rename_i hex body _
  dsimp only
  -- hexadecimal numbers are rounded at once, and decimal ones after a look at the exponent
  have rounded (m : Mantissa) (e : Int) :
      (if hex then Binary.round .double neg (shiftRatio m.value 1 (-(e - 4 * (m.fraction : Int)))).1
            (shiftRatio m.value 1 (-(e - 4 * (m.fraction : Int)))).2
        else roundDecimal .double neg m.value (e - (m.fraction : Int))) = .infinite neg ∨
      (if hex then Binary.round .double neg (shiftRatio m.value 1 (-(e - 4 * (m.fraction : Int)))).1
            (shiftRatio m.value 1 (-(e - 4 * (m.fraction : Int)))).2
        else roundDecimal .double neg m.value (e - (m.fraction : Int))).isFiniteIn .double := by
    split
    · exact double_isFiniteIn neg (shiftRatio_den_ne_zero one_ne_zero _)
    · exact roundDecimal_isFiniteIn neg _ _
  refine finiteResult_ite (finiteResult_throw_bind _ _) ?_
  generalize readExponent? _ hex _ = exponent
  cases exponent with
  | none => exact finiteResult_throw _
  | some exponent =>
    obtain ⟨e, rest⟩ := exponent
    dsimp only
    refine finiteResult_ite ?_ (finiteResult_throw_bind _ _)
    refine finiteResult_ite ?_ (finiteResult_refuse (rounded _ _))
    exact finiteResult_ite (finiteResult_refuse (rounded _ _)) (finiteResult_throw_bind _ _)

theorem not_word {cs : List Char} (chars : cs ⊆ numeralChars) : 'n' ∉ cs.map Char.toLower := by
  intro member
  obtain ⟨c, member, lower⟩ := List.mem_map.mp member
  have other : ∀ d ∈ numeralChars, (d.toLower != 'n') = true := List.all_eq_true.mp (by decide)
  exact bne_iff_ne.mp (other c (chars member)) lower

theorem readSign_subset (cs : List Char) : (readSign cs).2 ⊆ cs := by
  unfold readSign
  split
  · exact List.subset_cons_self _ _
  · exact List.subset_cons_self _ _
  · exact List.Subset.refl _

theorem read_isFiniteIn {cs : List Char} (chars : cs ⊆ numeralChars) :
    FiniteResult (Literal.read .double cs) := by
  have noInfinity : isInfinityWord (readSign cs).2 = false := by
    rw [isInfinityWord, Bool.or_eq_false_iff, beq_eq_false_iff_ne, beq_eq_false_iff_ne]
    have noWord := not_word (List.Subset.trans (readSign_subset cs) chars)
    constructor
    · intro word
      rw [word] at noWord
      exact noWord (by decide)
    · intro word
      rw [word] at noWord
      exact noWord (by decide)
  have noNaN : cs.map Char.toLower ≠ "nan".toList := by
    intro word
    have noWord := not_word chars
    rw [word] at noWord
    exact noWord (by decide)
  rw [Literal.read]
  dsimp only
  rw [noInfinity, if_neg Bool.false_ne_true, if_neg noNaN]
  exact readUnsigned_isFiniteIn _ _

end Literal

end FilterQuery
