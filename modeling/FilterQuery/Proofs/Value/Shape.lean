import FilterQuery.Proofs.Results
import FilterQuery.Value.Shape

/-!
# Tests before iterations

`isList` holds for the values that have items (`isList_iff`). `isObject` holds for the values that have
entries, and besides for objects behind a place that holds values of every type: the test goes through
such a place, and the iteration stops there (`entries_ok_iff`).
-/

namespace FilterQuery.Value

theorem isNull_eq {v : Value} (absent : v.isNull = true) : v = .null := by
  cases v <;> first | rfl | cases absent

theorem hasItems_eq (v : Value) : v.hasItems = v.directItems?.isSome := by
  cases v with
  | nilOf type => cases type <;> rfl
  | _ => rfl

theorem hasEntries_eq (v : Value) : v.hasEntries = v.directEntries?.isSome := by
  cases v with
  | nilOf type => cases type <;> rfl
  | _ => rfl

theorem hasItems_of_hasEntries {v : Value} (entries : v.hasEntries = true) : v.hasItems = false := by
  cases v with
  | nilOf type =>
    cases type with
    | map => rfl
    | _ => cases entries
  | object | record | sealed | time | scalarNode | entryNode => rfl
  | _ => cases entries

theorem isNull_of_target? {v t : Value} (found : v.target? = some t) : v.isNull = false := by
  rw [← Bool.not_eq_true]
  intro absent
  rw [isNull_eq absent] at found
  cases found

theorem isList_iff {v : Value} : v.isList = true ↔ ∃ items, v.items = .ok items := by
  rw [isList, Value.items]
  cases target : v.target? with
  | none =>
    rw [Option.any_none, Bool.and_false]
    refine ⟨nofun, fun ⟨items, found⟩ => ?_⟩
    split at found
    · cases found
    · split at found <;> cases found
  | some t =>
    rw [Option.any_some, isNull_of_target? target, if_neg Bool.false_ne_true, hasItems_eq]
    cases v.isPrimitive with
    | true => exact ⟨nofun, nofun⟩
    | false =>
      rw [if_neg Bool.false_ne_true]
      dsimp only
      cases t.directItems? with
      | none => exact ⟨nofun, nofun⟩
      | some items => exact ⟨fun _ => ⟨items, rfl⟩, fun _ => rfl⟩

theorem not_isList_of_isObject {v : Value} (object : v.isObject = true) : v.isList = false := by
  rw [isObject, Bool.and_eq_true, Option.any_eq_true] at object
  obtain ⟨-, t, target, entries⟩ := object
  rw [isList, target, Option.any_some, hasItems_of_hasEntries entries, Bool.and_false]

/-! ### Places of every type -/

/-- Whether references lead to a place that holds values of every type. -/
def throughAny : Value → Bool
  | .ref t v => t.isAny || v.throughAny
  | _ => false

theorem eq_any {t : Ty} (any : t.isAny = true) : t = .any := by
  cases t <;> first | rfl | cases any

theorem entryTarget_throughAny {v : Value} (any : v.throughAny = true) :
    v.entryTarget = .error (.notObject Ty.any.name) := by
  fun_induction throughAny v with
  | case1 t v ih =>
    rw [entryTarget]
    cases here : t.isAny with
    | true => rw [eq_any here, if_pos rfl]
    | false =>
      rw [here, Bool.false_or] at any
      exact ih any
  | case2 => cases any

theorem entryTarget_eq {v : Value} (typed : v.throughAny = false) :
    (∃ t, v.entryTarget = .ok t ∧ v.target? = some t) ∨
      v.target? = none ∧ (v.entryTarget = .ok .null ∨ v.entryTarget = .error .absent) := by
  fun_induction target? v with
  | case1 => exact .inr ⟨rfl, .inl rfl⟩
  | case2 t v ih =>
    rw [throughAny, Bool.or_eq_false_iff] at typed
    rw [entryTarget, typed.1]
    exact ih typed.2
  | case3 => exact .inr ⟨rfl, .inr rfl⟩
  | case4 => exact .inl ⟨_, rfl, rfl⟩
  | case5 => exact .inl ⟨_, rfl, rfl⟩
  | case6 => exact .inl ⟨_, rfl, rfl⟩
  | case7 v =>
    refine .inl ⟨v, ?_, rfl⟩
    rw [entryTarget] <;> assumption

theorem isPrimitive_of_throughAny {v : Value} (any : v.throughAny = true) :
    v.isNull = false ∧ v.isPrimitive = false := by
  cases v with
  | ref => exact ⟨rfl, rfl⟩
  | _ => cases any

theorem entries_throughAny {v : Value} (any : v.throughAny = true) :
    v.entries = .error (.notObject Ty.any.name) := by
  obtain ⟨present, composed⟩ := isPrimitive_of_throughAny any
  rw [Value.entries, present, composed, entryTarget_throughAny any]
  rfl

theorem entries_ok_iff {v : Value} :
    (∃ es, v.entries = .ok es) ↔ v.isObject = true ∧ v.throughAny = false := by
  cases any : v.throughAny with
  | true =>
    rw [entries_throughAny any]
    exact ⟨nofun, nofun⟩
  | false =>
    rw [isObject, Value.entries]
    rcases entryTarget_eq any with ⟨t, goes, target⟩ | ⟨target, goes⟩
    · rw [target, goes, Option.any_some, isNull_of_target? target, if_neg Bool.false_ne_true,
        hasEntries_eq]
      cases v.isPrimitive with
      | true => exact ⟨nofun, nofun⟩
      | false =>
        rw [if_neg Bool.false_ne_true, ok_bind]
        cases t.directEntries? with
        | none => exact ⟨nofun, nofun⟩
        | some es => exact ⟨fun _ => ⟨rfl, rfl⟩, fun _ => ⟨es, rfl⟩⟩
    · rw [target, Option.any_none, Bool.and_false]
      refine ⟨fun ⟨es, found⟩ => ?_, nofun⟩
      split at found
      · cases found
      · split at found
        · cases found
        · rcases goes with goes | goes <;> · rw [goes] at found; cases found

end FilterQuery.Value
