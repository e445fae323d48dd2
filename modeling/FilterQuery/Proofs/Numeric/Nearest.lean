import FilterQuery.Proofs.Numeric.Rounding

/-!
# Integers of 53 bits

`nearest` is an integer rounded to 53 significant bits, a half going to the even neighbour: no integer
of 53 bits is nearer (`nearest_closest`). That is the number that comparisons see of an integer
(`represents_ofInt`). Rounding keeps the order (`nearest_mono`) and carries no integer across a
number of double precision (`nearest_le_of_le`, `le_nearest_of_le`), so two numbers may be taken
for equal but never for being the other way around.
-/

namespace FilterQuery

/-! ### Rounded quotients -/

theorem divRoundHalfEven_mono {a b : Nat} (le : a ≤ b) (d : Nat) :
    divRoundHalfEven a d ≤ divRoundHalfEven b d := by
  rcases Nat.eq_zero_or_pos d with rfl | positive
  · simp only [divRoundHalfEven, Nat.div_zero, Nat.mod_zero]
    split <;> split <;> omega
  have quotients : a / d ≤ b / d := Nat.div_le_div_right le
  have partsA := Nat.div_add_mod a d
  have partsB := Nat.div_add_mod b d
  simp only [divRoundHalfEven]
  rcases Nat.lt_or_eq_of_le quotients with less | same
  · split <;> split <;> omega
  -- with the same quotient the greater number has the greater remainder
  · have remainders : a % d ≤ b % d := by
      rw [same] at partsA
      omega
    rw [same]
    split <;> split <;> omega

theorem divRoundHalfEven_mul (c : Nat) {d : Nat} (positive : 0 < d) :
    divRoundHalfEven (c * d) d = c := by
  have scaled := divRoundHalfEven_fraction c 1 positive
  rwa [Nat.one_mul, Extended.divRoundHalfEven_one] at scaled

/-- No multiple of the divisor is nearer to a number than its rounded quotient times the divisor. -/
theorem divRoundHalfEven_closest (a c : Nat) {d : Nat} (positive : 0 < d) :
    ((divRoundHalfEven a d * d : Nat) - a : Int).natAbs ≤ ((c * d : Nat) - a : Int).natAbs := by
  have parts := Nat.div_add_mod a d
  have small := Nat.mod_lt a positive
  have side : c * d ≤ d * (a / d) ∨ d * (a / d) + d ≤ c * d := by
    rcases Nat.lt_or_ge (a / d) c with above | below
    · right
      rw [← Nat.mul_succ, Nat.mul_comm c]
      exact Nat.mul_le_mul_left d above
    · left
      rw [Nat.mul_comm c]
      exact Nat.mul_le_mul_left d below
  have quotient : divRoundHalfEven a d * d = d * (a / d) ∧ 2 * (a % d) ≤ d ∨
      divRoundHalfEven a d * d = d * (a / d) + d ∧ d ≤ 2 * (a % d) := by
    have next : (a / d + 1) * d = d * (a / d) + d := by rw [Nat.mul_comm, Nat.mul_succ]
    simp only [divRoundHalfEven]
    split
    · exact .inr ⟨next, by omega⟩
    · exact .inl ⟨Nat.mul_comm _ _, by omega⟩
  omega

namespace Extended

/-! ### Natural numbers -/

/-- The number of bits behind the first 53. -/
def excess (m : Nat) : Nat := m.log2 - 52

/-- A natural number rounded to 53 significant bits. -/
def nearestNat (m : Nat) : Nat := divRoundHalfEven m (2 ^ excess m) * 2 ^ excess m

theorem log2_mul_pow {c : Nat} (nonzero : c ≠ 0) (k : Nat) : (c * 2 ^ k).log2 = c.log2 + k := by
  obtain ⟨low, high⟩ := (Nat.log2_eq_iff nonzero).mp rfl
  refine (Nat.log2_eq_iff (Nat.mul_ne_zero nonzero (Nat.two_pow_pos k).ne')).mpr ⟨?_, ?_⟩
  · rw [Nat.pow_add]
    exact Nat.mul_le_mul_right _ low
  · rw [Nat.add_right_comm, Nat.pow_add]
    exact Nat.mul_lt_mul_of_pos_right high (Nat.two_pow_pos k)

theorem nearestNat_scaled {c k : Nat} (fits : c < 2 ^ 53) :
    nearestNat (c * 2 ^ k) = c * 2 ^ k := by
  by_cases zero : c = 0
  · subst zero
    simp [nearestNat, divRoundHalfEven]
  have short := log2_le_of_fits zero fits
  have log : (c * 2 ^ k).log2 = c.log2 + k := log2_mul_pow zero k
  obtain ⟨j, width⟩ : ∃ j, k = j + excess (c * 2 ^ k) := ⟨k - excess (c * 2 ^ k), by
    simp only [excess, log]
    omega⟩
  have split : c * 2 ^ k = c * 2 ^ j * 2 ^ excess (c * 2 ^ k) := by
    rw [Nat.mul_assoc, ← Nat.pow_add, ← width]
  unfold nearestNat
  generalize excess (c * 2 ^ k) = x at split
  rw [split, divRoundHalfEven_mul _ (Nat.two_pow_pos x)]

theorem nearestNat_small {m : Nat} (small : m ≤ 2 ^ 53) : nearestNat m = m := by
  rcases Nat.lt_or_eq_of_le small with fits | rfl
  · simpa using nearestNat_scaled (k := 0) fits
  · decide

theorem log2_large {m : Nat} (large : 2 ^ 53 ≤ m) : m.log2 = 52 + excess m := by
  have long : 53 ≤ m.log2 := (Nat.le_log2 (by omega)).mpr large
  unfold excess
  omega

theorem power_le_of_large {m : Nat} (large : 2 ^ 53 ≤ m) : 2 ^ 52 * 2 ^ excess m ≤ m := by
  rw [← Nat.pow_add, ← log2_large large]
  exact Nat.log2_self_le (by omega)

theorem quotient_bounds {m : Nat} (large : 2 ^ 53 ≤ m) :
    2 ^ 52 ≤ divRoundHalfEven m (2 ^ excess m) ∧ divRoundHalfEven m (2 ^ excess m) ≤ 2 ^ 53 := by
  have length := log2_large large
  have positive := Nat.two_pow_pos (excess m)
  have above : m ≤ 2 ^ 53 * 2 ^ excess m := by
    rw [← Nat.pow_add, show 53 + excess m = m.log2 + 1 by omega]
    exact Nat.lt_log2_self.le
  have lower := divRoundHalfEven_mono (power_le_of_large large) (2 ^ excess m)
  have upper := divRoundHalfEven_mono above (2 ^ excess m)
  rw [divRoundHalfEven_mul _ positive] at lower upper
  exact ⟨lower, upper⟩

theorem nearestNat_bounds {m : Nat} (large : 2 ^ 53 ≤ m) :
    2 ^ m.log2 ≤ nearestNat m ∧ nearestNat m ≤ 2 ^ (m.log2 + 1) := by
  obtain ⟨lower, upper⟩ := quotient_bounds large
  have length := log2_large large
  constructor
  · rw [length, Nat.pow_add]
    exact Nat.mul_le_mul_right _ lower
  · rw [show m.log2 + 1 = 53 + excess m by omega, Nat.pow_add]
    exact Nat.mul_le_mul_right _ upper

theorem le_nearestNat_of_large {m : Nat} (large : 2 ^ 53 ≤ m) : 2 ^ 53 ≤ nearestNat m :=
  (Nat.pow_le_pow_right (by decide) ((Nat.le_log2 (by omega)).mpr large)).trans
    (nearestNat_bounds large).1

theorem nearestNat_mono {m m' : Nat} (le : m ≤ m') : nearestNat m ≤ nearestNat m' := by
  rcases Nat.lt_or_ge (2 ^ 53) m with large | small
  · rcases Nat.lt_or_ge m.log2 m'.log2 with shorter | longer
    · exact (nearestNat_bounds large.le).2.trans
        ((Nat.pow_le_pow_right (by decide) shorter).trans (nearestNat_bounds (by omega)).1)
    -- numbers of one length are rounded to multiples of the same power of two
    · have length : m.log2 ≤ m'.log2 :=
        (Nat.le_log2 (by omega)).mpr ((Nat.log2_self_le (by omega)).trans le)
      have same : excess m = excess m' := by
        unfold excess
        omega
      rw [nearestNat, nearestNat, same]
      exact Nat.mul_le_mul_right _ (divRoundHalfEven_mono le _)
  · rw [nearestNat_small small]
    rcases Nat.lt_or_ge (2 ^ 53) m' with large | small'
    · exact small.trans (le_nearestNat_of_large large.le)
    · rwa [nearestNat_small small']

/-- No number of 53 bits is nearer than the rounded one. -/
theorem nearestNat_closest (m : Nat) {c : Nat} (fits : c < 2 ^ 53) (k : Nat) :
    (nearestNat m - m : Int).natAbs ≤ ((c * 2 ^ k : Nat) - m : Int).natAbs := by
  rcases Nat.lt_or_ge m (2 ^ 53) with small | large
  · rw [nearestNat_small small.le, Int.sub_self]
    exact Nat.zero_le _
  have near (c : Nat) := divRoundHalfEven_closest m c (Nat.two_pow_pos (excess m))
  unfold nearestNat
  rcases Nat.lt_or_ge k (excess m) with short | long
  -- a number with a shorter tail is below the power of two under the given number
  · have below := power_le_of_large large
    have shorter : c * 2 ^ k ≤ 2 ^ 52 * 2 ^ excess m := calc
      c * 2 ^ k ≤ 2 ^ 53 * 2 ^ k := Nat.mul_le_mul_right _ fits.le
      _ = 2 ^ 52 * 2 ^ (k + 1) := by ring
      _ ≤ 2 ^ 52 * 2 ^ excess m := Nat.mul_le_mul_left _ (Nat.pow_le_pow_right two_pos short)
    have power := near (2 ^ 52)
    omega
  · have tail : c * 2 ^ k = c * 2 ^ (k - excess m) * 2 ^ excess m := by
      rw [Nat.mul_assoc, ← Nat.pow_add, Nat.sub_add_cancel long]
    rw [tail]
    exact near _

theorem nearestNat_short (m : Nat) : ∃ c k, c < 2 ^ 53 ∧ nearestNat m = c * 2 ^ k := by
  rcases Nat.lt_or_ge m (2 ^ 53) with small | large
  · exact ⟨m, 0, small, by rw [nearestNat_small small.le, Nat.pow_zero, Nat.mul_one]⟩
  rcases Nat.lt_or_eq_of_le (quotient_bounds large).2 with fits | full
  · exact ⟨_, _, fits, rfl⟩
  -- the rounded first bits may be a power of two of 54 bits
  · refine ⟨2 ^ 52, excess m + 1, by decide, ?_⟩
    rw [nearestNat, full]
    ring

/-! ### Integers -/

/-- An integer of at most 53 significant bits: zeros may follow them. -/
def isShort (n : Int) : Prop := ∃ c k, c < 2 ^ 53 ∧ n.natAbs = c * 2 ^ k

def nearest (n : Int) : Int := if n < 0 then -(nearestNat n.natAbs : Int) else nearestNat n.natAbs

theorem nearest_neg (n : Int) : nearest (-n) = -nearest n := by
  have zero : nearestNat 0 = 0 := by decide
  rcases lt_trichotomy n 0 with below | rfl | above
  · rw [nearest, nearest, if_neg (by omega), if_pos below, Int.natAbs_neg, neg_neg]
  · decide
  · rw [nearest, nearest, if_pos (by omega), if_neg (by omega), Int.natAbs_neg]

theorem nearest_small {n : Int} (small : n.natAbs ≤ 2 ^ 53) : nearest n = n := by
  rw [nearest, nearestNat_small small]
  split <;> omega

theorem nearest_mono {a b : Int} (le : a ≤ b) : nearest a ≤ nearest b := by
  unfold nearest
  split <;> split
  · have turned := nearestNat_mono (show b.natAbs ≤ a.natAbs by omega)
    omega
  · omega
  · omega
  · have same := nearestNat_mono (show a.natAbs ≤ b.natAbs by omega)
    omega

theorem natAbs_nearest (n : Int) : (nearest n).natAbs = nearestNat n.natAbs := by
  unfold nearest
  split <;> omega

theorem nearest_short (n : Int) : isShort (nearest n) := by
  obtain ⟨c, k, fits, value⟩ := nearestNat_short n.natAbs
  exact ⟨c, k, fits, (natAbs_nearest n).trans value⟩

theorem nearest_of_short {n : Int} (short : isShort n) : nearest n = n := by
  obtain ⟨c, k, fits, value⟩ := short
  rw [nearest, value, nearestNat_scaled fits, ← value]
  split <;> omega

theorem nearest_eq_iff {n : Int} : nearest n = n ↔ isShort n :=
  ⟨fun same => same ▸ nearest_short n, nearest_of_short⟩

theorem nearest_closest (n : Int) {z : Int} (short : isShort z) :
    (nearest n - n).natAbs ≤ (z - n).natAbs := by
  obtain ⟨c, k, fits, value⟩ := short
  have natural := nearestNat_closest n.natAbs fits k
  rw [← value] at natural
  unfold nearest
  split <;> omega

/-! ### What comparisons see -/

theorem roundSignificand_large {m : Nat} (large : 2 ^ 53 ≤ m) :
    roundSignificand 53 none m 1 =
      if divRoundHalfEven m (2 ^ excess m) = 2 ^ 53 then (2 ^ 52, (excess m : Int) + 1)
      else (divRoundHalfEven m (2 ^ excess m), (excess m : Int)) := by
  have nonzero : m ≠ 0 := by omega
  have length := log2_large large
  have exponent : (m.log2 : Int) - (53 - 1 : Nat) = (excess m : Nat) := by omega
  have shifted : shiftRatio m 1 (excess m : Nat) = (m, 2 ^ excess m) := by
    change (m, 1 <<< excess m) = _
    rw [Nat.one_shiftLeft]
  simp only [roundSignificand, floorLog2Ratio_one nonzero, exponent, shifted]
  rfl

theorem scaled_mul_pow (neg : Bool) (m k : Nat) : scaled neg (m * 2 ^ k) 0 = scaled neg m k := by
  simp [scaled]

theorem represents_ofNat (neg : Bool) (m : Nat) :
    Represents (ofScaledRatio neg m 1 0) (scaled neg (nearestNat m) 0) := by
  rcases Nat.lt_or_ge m (2 ^ 53) with small | large
  · rw [nearestNat_small small.le]
    exact represents_ofScaledRatio neg 0 small
  · obtain ⟨low, high⟩ := quotient_bounds large
    have nonzero : m ≠ 0 := by omega
    unfold nearestNat ofScaledRatio
    rw [if_neg nonzero, roundSignificand_large large]
    by_cases full : divRoundHalfEven m (2 ^ excess m) = 2 ^ 53
    -- the significand overflows, and gets one bit less
    · rw [if_pos full, full, show 2 ^ 53 * 2 ^ excess m = 2 ^ 52 * 2 ^ (excess m + 1) by ring,
        scaled_mul_pow]
      dsimp only
      rw [Int.add_zero]
      exact .finite neg _ (by decide) (by decide)
    · rw [if_neg full, scaled_mul_pow]
      dsimp only
      rw [Int.add_zero]
      exact .finite neg _ low (by omega)

theorem cast_nearest (n : Int) :
    ((nearest n : Int) : ℚ) = scaled (n < 0) (nearestNat n.natAbs) 0 := by
  unfold nearest
  split
  · rename_i below
    simp [scaled, below]
  · rename_i above
    simp [scaled, above]

theorem represents_ofInt (n : Int) : Represents (ofInt n) (nearest n : Int) := by
  rw [cast_nearest]
  exact represents_ofNat _ _

/-! ### Rounding and floating point numbers -/

/-- A rational that rounding does not carry an integer across: an integer of 53 bits, or any number
below the integers that rounding changes. -/
def Uncrossed (q : ℚ) : Prop := (∃ z : Int, q = z ∧ isShort z) ∨ |q| < 2 ^ 53

theorem Uncrossed.neg {q : ℚ} (uncrossed : Uncrossed q) : Uncrossed (-q) := by
  rcases uncrossed with ⟨z, rfl, c, k, fits, value⟩ | small
  · exact .inl ⟨-z, (Int.cast_neg z).symm, c, k, fits, by rwa [Int.natAbs_neg]⟩
  · exact .inr (by rwa [abs_neg])

theorem abs_scaled (neg : Bool) (m : Nat) (e : Int) : |scaled neg m e| = m * 2 ^ e := by
  have positive : (0 : ℚ) ≤ m * 2 ^ e :=
    mul_nonneg (Nat.cast_nonneg m) (zpow_pos two_pos e).le
  cases neg with
  | false => simp [scaled, abs_of_nonneg positive]
  | true => simp [scaled, abs_of_nonneg positive]

theorem uncrossed_of_double {x : Binary} {q : ℚ} (finite : x.isFiniteIn .double)
    (value : x.value? = some q) : Uncrossed q := by
  cases x with
  | nan => cases value
  | infinite neg => cases value
  | finite neg m e =>
    cases value
    have fits := Binary.significand_lt finite
    cases e with
    | ofNat k =>
      cases neg with
      | false => exact .inl ⟨(m * 2 ^ k : Nat), by simp [scaled], m, k, fits, Int.natAbs_natCast _⟩
      | true =>
        exact .inl ⟨-(m * 2 ^ k : Nat), by simp [scaled], m, k, fits,
          (Int.natAbs_neg _).trans (Int.natAbs_natCast _)⟩
    | negSucc k =>
      have shrunk : (2 : ℚ) ^ Int.negSucc k ≤ 1 :=
        zpow_le_one_of_nonpos₀ one_le_two (Int.negSucc_lt_zero k).le
      refine .inr ?_
      rw [abs_scaled]
      calc (m : ℚ) * 2 ^ Int.negSucc k ≤ m := mul_le_of_le_one_right (Nat.cast_nonneg m) shrunk
        _ < 2 ^ 53 := by exact_mod_cast fits

variable {n : Int} {q : ℚ}

theorem nearest_le_of_le (uncrossed : Uncrossed q) (le : (n : ℚ) ≤ q) : (nearest n : ℚ) ≤ q := by
  rcases uncrossed with ⟨z, rfl, short⟩ | small
  · have rounded := nearest_mono (Int.cast_le.mp le)
    rw [nearest_of_short short] at rounded
    exact Int.cast_le.mpr rounded
  · obtain ⟨low, high⟩ := abs_lt.mp small
    by_cases inside : n.natAbs ≤ 2 ^ 53
    · rwa [nearest_small inside]
    · have below : n < 2 ^ 53 := by exact_mod_cast le.trans_lt high
      have rounded := nearest_mono (show n ≤ -2 ^ 53 by omega)
      rw [nearest_small (show (-2 ^ 53 : Int).natAbs ≤ 2 ^ 53 by decide)] at rounded
      calc (nearest n : ℚ) ≤ ((-2 ^ 53 : Int) : ℚ) := Int.cast_le.mpr rounded
        _ = -2 ^ 53 := by norm_num
        _ ≤ q := low.le

theorem le_nearest_of_le (uncrossed : Uncrossed q) (le : q ≤ n) : q ≤ (nearest n : ℚ) := by
  have turned : ((-n : Int) : ℚ) ≤ -q := by
    rw [Int.cast_neg]
    exact neg_le_neg le
  have rounded := nearest_le_of_le uncrossed.neg turned
  rw [nearest_neg, Int.cast_neg] at rounded
  exact neg_le_neg_iff.mp rounded

end Extended

end FilterQuery
