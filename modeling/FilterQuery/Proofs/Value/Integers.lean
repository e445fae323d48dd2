import FilterQuery.Proofs.Numeric.Nearest
import FilterQuery.Value.Order
import Mathlib.Tactic.NormNum

/-!
# Comparing integers

Comparisons see of an integer the nearest one of 53 significant bits, whatever its type. So integers up
to `2 ^ 53` in magnitude are compared exactly with each other and with numbers of double precision. Of
greater ones, different numbers may count as equal; that is the only mistake, as rounding turns no
order around (`Value.compare_integers`).
-/

namespace FilterQuery

/-- Where two numbers are replaced in a way that keeps their order, the outcome of comparing them
changes only if they were different and became equal. -/
theorem compare_eq_iff_of_mono {α β : Type} [LinearOrder α] [LinearOrder β] {a b : α} {a' b' : β}
    (up : a ≤ b → a' ≤ b') (down : b ≤ a → b' ≤ a') :
    Ord.compare a' b' = Ord.compare a b ↔ a = b ∨ a' ≠ b' := by
  rcases lt_trichotomy a b with less | rfl | greater
  · rw [compare_lt_iff_lt.mpr less, compare_lt_iff_lt, (up less.le).lt_iff_ne]
    exact (or_iff_right less.ne).symm
  · rw [compare_eq_iff_eq.mpr rfl, compare_eq_iff_eq]
    exact iff_of_true (le_antisymm (up le_rfl) (down le_rfl)) (.inl rfl)
  · rw [compare_gt_iff_gt.mpr greater, compare_gt_iff_gt, (down greater.le).lt_iff_ne, ne_comm]
    exact (or_iff_right greater.ne').symm

theorem compare_intCast (a b : Int) : Ord.compare (a : ℚ) b = Ord.compare a b := by
  refine (compare_eq_iff_of_mono Int.cast_le.mpr Int.cast_le.mpr).mpr ?_
  exact (eq_or_ne a b).imp_right fun different => Int.cast_injective.ne different

namespace Value
open Extended (nearest isShort)

variable (a b : SizedInt)

theorem compare_int_int :
    (Value.int a).compare (.int b) = .ok (Ord.compare (nearest a.val) (nearest b.val)) := by
  have seen := Extended.compare_represents (Extended.represents_ofInt a.val)
    (Extended.represents_ofInt b.val)
  rw [compare_intCast] at seen
  simp only [Value.compare, sortKey, keyOf, SortKey.compare, seen]

theorem compare_int_double {x : Binary} {q : ℚ} (finite : x.isFiniteIn .double)
    (value : x.value? = some q) :
    (Value.int a).compare (.double x) = .ok (Ord.compare (nearest a.val : ℚ) q) := by
  obtain ⟨seen, read, represents⟩ := Extended.represents_ofBinary finite value
  have exact := Extended.compare_represents (Extended.represents_ofInt a.val) represents
  simp only [Value.compare, sortKey, keyOf, read, numberKey, SortKey.compare, exact]

/-- An integer is compared as the nearest one of 53 significant bits, and that is the exact outcome
unless different numbers became equal. -/
theorem compare_integers (a : SizedInt) :
    (isShort (nearest a.val) ∧
      ∀ z : Int, isShort z → (nearest a.val - a.val).natAbs ≤ (z - a.val).natAbs) ∧
    (∀ b : SizedInt,
      (Value.int a).compare (.int b) = .ok (Ord.compare (nearest a.val) (nearest b.val)) ∧
      ((Value.int a).compare (.int b) = .ok (Ord.compare a.val b.val) ↔
        a.val = b.val ∨ nearest a.val ≠ nearest b.val)) ∧
    (∀ (x : Binary) (q : ℚ), x.isFiniteIn .double → x.value? = some q →
      (Value.int a).compare (.double x) = .ok (Ord.compare (nearest a.val : ℚ) q) ∧
      ((Value.int a).compare (.double x) = .ok (Ord.compare (a.val : ℚ) q) ↔
        (a.val : ℚ) = q ∨ (nearest a.val : ℚ) ≠ q)) := by
  refine ⟨⟨Extended.nearest_short _, fun z => Extended.nearest_closest _⟩, ?_, ?_⟩
  · intro b
    refine ⟨compare_int_int a b, ?_⟩
    rw [compare_int_int, Except.ok.injEq]
    exact compare_eq_iff_of_mono Extended.nearest_mono Extended.nearest_mono
  · intro x q finite value
    refine ⟨compare_int_double a finite value, ?_⟩
    have uncrossed := Extended.uncrossed_of_double finite value
    rw [compare_int_double a finite value, Except.ok.injEq]
    exact compare_eq_iff_of_mono (Extended.nearest_le_of_le uncrossed)
      (Extended.le_nearest_of_le uncrossed)

/-- The greatest signed number counts as equal to the unsigned one after it, and is greater than one
half. -/
theorem compare_integers_signed_max :
    (Value.int ⟨.int64, 9223372036854775807, by decide, by decide⟩).compare
        (.int ⟨.uint64, 9223372036854775808, by decide, by decide⟩) = .ok .eq ∧
      (Value.int ⟨.int64, 9223372036854775807, by decide, by decide⟩).compare
        (.double (.finite false 1 (-1))) = .ok .gt := by
  obtain ⟨-, integers, doubles⟩ :=
    compare_integers ⟨.int64, 9223372036854775807, by decide, by decide⟩
  constructor
  · exact (integers ⟨.uint64, 9223372036854775808, by decide, by decide⟩).1.trans (by decide)
  · have half : (Binary.finite false 1 (-1)).value? = some (1 / 2) := by
      norm_num [Binary.value?, scaled]
    have rounded : nearest 9223372036854775807 = 9223372036854775808 := by decide
    rw [(doubles _ _ (by decide) half).1, rounded, compare_gt_iff_gt.mpr (by norm_num)]

/-- The number after `2 ^ 53` counts as equal to it. -/
theorem compare_adjacent_integers :
    (Value.int ⟨.int64, 9007199254740993, by decide, by decide⟩).compare
        (.int ⟨.int64, 9007199254740992, by decide, by decide⟩) = .ok .eq ∧
      Ord.compare (9007199254740993 : Int) 9007199254740992 = .gt := by
  constructor
  · rw [compare_int_int]
    decide
  · decide

end Value

end FilterQuery
