import FilterQuery.Proofs.Numeric.Conversion
import FilterQuery.Value.Number
import Mathlib.Tactic.NormNum

/-!
# The exact values of built-in numbers

`Value.rational?` is the number that a built-in numeric value stands for. Reading it as a double keeps
floating point numbers and rounds integers (`exact_asDouble`). Reading it as an integer takes
unsigned numbers from `2 ^ 63` on for negative ones (`asInteger?_eq_some_iff`).
-/

namespace FilterQuery

namespace Binary

/-- Whether the number is one of a format below `2 ^ 63` in magnitude. -/
def isModerate (fmt : BinaryFormat) (x : Binary) : Prop :=
  x.isFiniteIn fmt ∧ ∀ q, x.value? = some q → |q| < 2 ^ 63

theorem value_of_isFiniteIn {fmt : BinaryFormat} {x : Binary} (finite : x.isFiniteIn fmt) :
    ∃ q, x.value? = some q := by
  cases x with
  | nan => cases finite
  | infinite neg => cases finite
  | finite neg m e => exact ⟨_, rfl⟩

end Binary

namespace SizedInt

variable (n : SizedInt)

theorem bounds : -2 ^ 63 ≤ n.val ∧ n.val < 2 ^ 64 := by
  obtain ⟨type, val, low, high⟩ := n
  cases type <;> simp [IntType.lo, IntType.hi, IntType.signed, IntType.bits] at low high ⊢ <;> omega

theorem natAbs_lt : n.val.natAbs < 2 ^ 100 := by
  have bounds := n.bounds
  omega

theorem wrap_val : (wrap .int n.val).val = if n.val < 2 ^ 63 then n.val else n.val - 2 ^ 64 := by
  obtain ⟨low, high⟩ := n.bounds
  change Int.bmod n.val (2 ^ 64) = _
  split <;> (rw [Int.bmod_def]; omega)

end SizedInt

namespace Value

/-- The exact value of a built-in number. -/
def rational? : Value → Option ℚ
  | .int n => some n.val
  | .single x => x.value?
  | .double x => x.value?
  | _ => none

/-- Whether a value is a number, of an integer type or a finite one of a floating point type. -/
def isFiniteNumber : Value → Bool
  | .int _ => true
  | .single x => x.isFiniteIn .single
  | .double x => x.isFiniteIn .double
  | _ => false

/-- What is left of the exact value in double precision. -/
def exactDouble? : Value → Option ℚ
  | .int n => some (Extended.nearest n.val)
  | v => v.rational?

/-- A finite number is read as a double: a float as it is, and an integer rounded. -/
theorem exact_asDouble {v : Value} (finite : v.isFiniteNumber) :
    ∃ x, v.asDouble? = some x ∧ x.isFiniteIn .double ∧ x.value? = v.exactDouble? := by
  cases v with
  | int n => exact ⟨_, rfl, Binary.value_ofInt n.natAbs_lt⟩
  | single x =>
    have wide := Binary.isFiniteIn_double_of_single finite
    obtain ⟨q, value⟩ := Binary.value_of_isFiniteIn wide
    obtain ⟨fits, kept⟩ := Binary.value_convert wide value
    exact ⟨_, rfl, fits, kept.trans value.symm⟩
  | double x => exact ⟨x, rfl, finite, rfl⟩
  | _ => cases finite

/-! ### Readings as integers -/

theorem asInteger?_int (n : SizedInt) :
    (Value.int n).asInteger? = some (if n.val < 2 ^ 63 then n.val else n.val - 2 ^ 64) := by
  rw [← n.wrap_val]
  rfl

theorem integerOfBinary_eq {x : Binary} {q : ℚ} (value : x.value? = some q) (small : |q| < 2 ^ 63)
    (n : Int) : integerOfBinary x = .exact n ↔ q = n := by
  have whole := Binary.truncate_of_value value
  have fits {z : Int} (equal : q = z) : fitsSigned z = true := by
    rw [equal, ← Int.cast_abs] at small
    have bounded : |z| < 2 ^ 63 := by exact_mod_cast small
    obtain ⟨low, high⟩ := abs_lt.mp bounded
    exact Bool.and_eq_true_iff.mpr ⟨decide_eq_true low.le, decide_eq_true high⟩
  cases x with
  | nan => cases value
  | infinite neg => cases value
  | finite neg m e =>
    cases integral : (Binary.finite neg m e).isIntegral with
    | false =>
      have fractional : q ≠ n := fun equal => by simpa [integral] using (whole n).mpr equal
      simp [integerOfBinary, integral, fractional]
    | true =>
      obtain ⟨z, truncated⟩ : ∃ z, (Binary.finite neg m e).truncate? = some z := ⟨_, rfl⟩
      have equal := (whole z).mp ⟨integral, truncated⟩
      simp only [integerOfBinary, integral, truncated, fits equal, if_true]
      rw [equal, Int.cast_inj, IntegerReading.exact.injEq]

theorem asInteger?_eq_some {v : Value} {n : Int} :
    v.asInteger? = some n ↔ v.asInteger = .exact n := by
  unfold asInteger?
  cases v.asInteger <;> simp

/-- The numbers other than floats from `2 ^ 63` on in magnitude. -/
def isModerate : Value → Prop
  | .single x => x.isModerate .single
  | .double x => x.isModerate .double
  | _ => True

/-- What a value whose exact value is given may be read as. -/
def isReadAs (q? : Option ℚ) (n : Int) : Prop :=
  q? = some (n : ℚ) ∧ n < 2 ^ 63 ∨ q? = some ((n + 2 ^ 64 : Int) : ℚ) ∧ -2 ^ 63 ≤ n ∧ n < 0

theorem integerOfBinary_isReadAs {x : Binary} {q : ℚ} (value : x.value? = some q)
    (small : |q| < 2 ^ 63) (n : Int) : integerOfBinary x = .exact n ↔ isReadAs (some q) n := by
  have below {z : Int} (equal : q = z) : z < 2 ^ 63 := by
    exact_mod_cast equal ▸ (abs_lt.mp small).2
  rw [integerOfBinary_eq value small, isReadAs, Option.some_inj, Option.some_inj]
  constructor
  · intro equal
    exact .inl ⟨equal, below equal⟩
  · rintro (⟨equal, -⟩ | ⟨equal, low, -⟩)
    · exact equal
    · have := below equal
      omega

/-- A value is read as the integer that it is, and an unsigned one that does not fit as the one that
agrees with it in the low bits. -/
theorem asInteger?_eq_some_iff {v : Value} (moderate : v.isModerate) (n : Int) :
    v.asInteger? = some n ↔ isReadAs v.rational? n := by
  cases v with
  | int z =>
    have bounds := z.bounds
    rw [asInteger?_int, rational?, isReadAs, Option.some_inj, Option.some_inj, Option.some_inj,
      Int.cast_inj, Int.cast_inj]
    split <;> omega
  | single x =>
    obtain ⟨finite, small⟩ := moderate
    obtain ⟨q, value⟩ := Binary.value_of_isFiniteIn finite
    have kept := (Binary.value_convert (Binary.isFiniteIn_double_of_single finite) value).2
    rw [asInteger?_eq_some, rational?, value]
    exact integerOfBinary_isReadAs kept (small q value) n
  | double x =>
    obtain ⟨finite, small⟩ := moderate
    obtain ⟨q, value⟩ := Binary.value_of_isFiniteIn finite
    rw [asInteger?_eq_some, rational?, value]
    exact integerOfBinary_isReadAs value (small q value) n
  | _ => simp [asInteger?, asInteger, rational?, isReadAs]

end Value

end FilterQuery
