import FilterQuery.Proofs.Numeric.Exact

/-!
# Rounding whole numbers

A whole number is rounded to the same floating point number whichever fraction it is given as
(`round_fraction`).
-/

namespace FilterQuery

theorem divRoundHalfEven_fraction (num den : Nat) {d : Nat} (positive : 0 < d) :
    divRoundHalfEven (num * d) (den * d) = divRoundHalfEven num den := by
  have more : 2 * (num % den * d) > den * d ↔ 2 * (num % den) > den := by
    rw [gt_iff_lt, ← Nat.mul_assoc]
    exact Nat.mul_lt_mul_right positive
  have half : 2 * (num % den * d) = den * d ↔ 2 * (num % den) = den := by
    rw [← Nat.mul_assoc]
    exact Nat.mul_left_inj (Nat.ne_of_gt positive)
  simp only [divRoundHalfEven, Nat.mul_div_mul_right _ _ positive, Nat.mul_mod_mul_right, more, half]

theorem shiftRatio_fraction (num den d : Nat) (e : Int) :
    shiftRatio (num * d) (den * d) e =
      ((shiftRatio num den e).1 * d, (shiftRatio num den e).2 * d) := by
  cases e with
  | ofNat k => simp [shiftRatio, Nat.shiftLeft_eq, Nat.mul_right_comm]
  | negSucc k => simp [shiftRatio, Nat.shiftLeft_eq, Nat.mul_right_comm]

theorem log2_mul_cases {a d : Nat} (nonzero : a ≠ 0) (nonzero' : d ≠ 0) :
    (a * d).log2 = a.log2 + d.log2 ∨ (a * d).log2 = a.log2 + 1 + d.log2 := by
  have product : a * d ≠ 0 := Nat.mul_ne_zero nonzero nonzero'
  have low : a.log2 + d.log2 ≤ (a * d).log2 := by
    rw [Nat.le_log2 product, Nat.pow_add]
    exact Nat.mul_le_mul (Nat.log2_self_le nonzero) (Nat.log2_self_le nonzero')
  have high : (a * d).log2 < a.log2 + 1 + (d.log2 + 1) := by
    rw [Nat.log2_lt product, Nat.pow_add]
    exact Nat.mul_lt_mul'' Nat.lt_log2_self Nat.lt_log2_self
  omega

theorem floorLog2Ratio_fraction {a d : Nat} (nonzero : a ≠ 0) (nonzero' : d ≠ 0) :
    floorLog2Ratio (a * d) d = a.log2 := by
  have positive : 0 < d := Nat.pos_of_ne_zero nonzero'
  have fits (t : Nat) : (shiftRatio (a * d) d (t : Int)).2 ≤ (shiftRatio (a * d) d (t : Int)).1 ↔
      2 ^ t ≤ a := by
    change d <<< t ≤ a * d ↔ _
    rw [Nat.shiftLeft_eq, Nat.mul_comm d, Nat.mul_le_mul_right_iff positive]
  unfold floorLog2Ratio
  dsimp only
  rcases log2_mul_cases nonzero nonzero' with exact | more
  · have first : ((a * d).log2 : Int) - d.log2 = a.log2 := by omega
    rw [first, if_pos ((fits _).mpr (Nat.log2_self_le nonzero))]
  · have first : ((a * d).log2 : Int) - d.log2 = (a.log2 + 1 : Nat) := by omega
    rw [first, if_neg fun there => absurd ((fits _).mp there) (Nat.not_le.mpr Nat.lt_log2_self)]
    omega

theorem roundSignificand_fraction {a d : Nat} (nonzero : a ≠ 0) (nonzero' : d ≠ 0) (precision : Nat)
    (minExp : Option Int) :
    roundSignificand precision minExp (a * d) d = roundSignificand precision minExp a 1 := by
  have ratio (e : Int) : divRoundHalfEven (shiftRatio (a * d) d e).1 (shiftRatio (a * d) d e).2 =
      divRoundHalfEven (shiftRatio a 1 e).1 (shiftRatio a 1 e).2 := by
    have scaled := shiftRatio_fraction a 1 d e
    rw [Nat.one_mul] at scaled
    rw [scaled]
    exact divRoundHalfEven_fraction _ _ (Nat.pos_of_ne_zero nonzero')
  unfold roundSignificand
  dsimp only
  rw [floorLog2Ratio_fraction nonzero nonzero', Extended.floorLog2Ratio_one nonzero]
  simp only [ratio]

namespace Binary

theorem round_fraction (fmt : BinaryFormat) (neg : Bool) (a : Nat) {d : Nat} (nonzero : d ≠ 0) :
    round fmt neg (a * d) d = round fmt neg a 1 := by
  by_cases zero : a = 0
  · subst zero
    simp [round]
  · simp only [round, if_neg zero, if_neg (Nat.mul_ne_zero zero nonzero),
      roundSignificand_fraction zero nonzero]

end Binary

end FilterQuery
