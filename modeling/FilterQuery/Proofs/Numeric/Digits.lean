import Mathlib.Logic.Function.Basic

/-!
# Numbers in decimal

The digits of a natural number, which names of arguments and parameters end in.
-/

namespace FilterQuery

theorem isDigit_of_mem_toString {n : Nat} {c : Char} (member : c ∈ (toString n).toList) :
    c.isDigit := by
  rw [Nat.toString_eq_repr, Nat.toList_repr] at member
  exact Nat.isDigit_of_mem_toDigits (by decide) (by decide) member

theorem toString_injective : Function.Injective (toString : Nat → String) := by
  intro i j same
  have digits := congrArg String.toList same
  rw [Nat.toString_eq_repr, Nat.toString_eq_repr, Nat.toList_repr, Nat.toList_repr] at digits
  rw [← @Nat.ofDigitChars_ten_toDigits i, digits, Nat.ofDigitChars_ten_toDigits]

theorem append_toString_injective (name : String) :
    Function.Injective fun n : Nat => name ++ toString n := by
  intro i j same
  have digits := congrArg String.toList same
  rw [String.toList_append, String.toList_append, List.append_cancel_left_eq] at digits
  exact toString_injective (String.toList_injective digits)

end FilterQuery
