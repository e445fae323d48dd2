import FilterQuery.Proofs.Compile.Acceptance
import FilterQuery.Proofs.Compile.Condition
import FilterQuery.Proofs.Query.Meaning
import FilterQuery.Proofs.Value.Order

/-!
# Ranges and equality

`$gte` is `$gt` or `$eq`, and `$lte` is `$lt` or `$eq`, whatever values a field has. There is one
exception: a number that is kept as text is equal to a text that holds the same number, but it is neither
above nor below nor at it for the range operators, which leave the text a text then
(`Predicate.range_or_equal`).
-/

namespace FilterQuery

/-! ### Values that compare as equal -/

theorem SortKey.rank_eq_of_compare_eq {a b : SortKey} (same : a.compare b = .ok .eq) :
    a.rank = b.rank := by
  by_contra different
  rw [compare_of_rank_ne different, Except.ok.injEq, Nat.compare_eq_eq] at same
  exact different same

namespace Value

/-- The classes of the operands of ranges: numbers, times, and what has no order. -/
def isMeasure (v : Value) : Bool :=
  match v.sortKey with
  | .number _ | .time _ | .unordered _ => true
  | _ => false

theorem comparable_of_compare_eq {a b : Value} (measure : b.isMeasure) (same : a.compare b = .ok .eq) :
    a.comparable b := by
  have rank := SortKey.rank_eq_of_compare_eq same
  unfold compare at same
  unfold isMeasure at measure
  unfold comparable
  cases ha : a.sortKey <;> cases hb : b.sortKey <;> simp_all [SortKey.rank, SortKey.compare]

end Value

/-! ### Values and operands -/

namespace Predicate

open Generation Compiler

/-- The value is a text that holds a number, and the operand is a number that is kept as text. -/
def Overlooked (v want : Value) : Prop := (∃ s, want = .numeral s) ∧ numeric v ≠ v

theorem numeric_cases (v : Value) :
    numeric v = v ∨ ∃ s x, v = .text s ∧ numeric v = .double x ∧ x.isFinite := by
  cases v with
  | text s =>
    cases h : (Value.text s).toNumber? with
    | none => simp [numeric, h]
    | some x => cases finite : x.isFinite <;> simp [numeric, h, finite]
  | _ => exact .inl rfl

theorem isMeasure_numberKey (x? : Option Extended) (name : String) :
    (match Value.numberKey x? name with
      | .number _ | .time _ | .unordered _ => true
      | _ => false) = true := by
  cases x? <;> rfl

theorem isMeasure_operand {want : Value} (number : want.isNumeric) : (numeric want).isMeasure := by
  cases want with
  | text s =>
    obtain ⟨x, read, finite⟩ := (Option.any_eq_true _ _).mp number
    have value : numeric (.text s) = .double x := by simp [numeric, read, finite]
    rw [value]
    exact isMeasure_numberKey _ _
  | double x | single x | numeral s => exact isMeasure_numberKey _ _
  | int n | time t => rfl
  | _ => cases number

theorem time_or_numeral {want : Value} (number : want.isNumeric)
    (other : (numeric want).asDouble? = none) :
    (∃ t, want = .time t) ∨ ∃ s, want = .numeral s := by
  cases want with
  | text s =>
    obtain ⟨x, read, finite⟩ := (Option.any_eq_true _ _).mp number
    simp [numeric, read, finite, Value.asDouble?] at other
  | time t => exact .inl ⟨t, rfl⟩
  | numeral s => exact .inr ⟨s, rfl⟩
  | int n | double x | single x => cases other
  | _ => cases number

theorem equals_iff {v want : Value} (number : want.isNumeric) :
    Equals v want ↔ (numeric v).compare (numeric want) = .ok .eq := by
  have noRegex : want.regex? = none := by
    cases want with
    | regex re | nilOf t => cases number
    | _ => rfl
  rw [Equals, noRegex]

theorem text_not_equal {s : String} {want : Value} (measure : want.isMeasure) :
    (Value.text s).compare want ≠ .ok .eq := by
  intro same
  have comparable := Value.comparable_of_compare_eq measure same
  unfold Value.comparable at comparable
  unfold Value.isMeasure at measure
  cases key : want.sortKey <;> simp_all [Value.sortKey, Value.keyOf]

/-- A value that compares as equal to the operand of a range is one that equals it, unless it is
overlooked. -/
theorem compares_eq_iff {v want : Value} (number : want.isNumeric) :
    Compares (· == .eq) v want ↔ Equals v want ∧ ¬Overlooked v want := by
  have measure := isMeasure_operand number
  -- to compare as equal is to be comparable as well
  have compares : ∀ w : Value, (w.comparable (numeric want) ∧
      ∃ o, w.compare (numeric want) = .ok o ∧ (o == .eq) = true) ↔
        w.compare (numeric want) = .ok .eq := by
    intro w
    constructor
    · rintro ⟨_, o, compared, same⟩
      rw [compared, eq_of_beq same]
    · intro same
      exact ⟨Value.comparable_of_compare_eq measure same, .eq, same, rfl⟩
  rw [Compares, equals_iff number, compares]
  cases builtIn : (numeric want).asDouble? with
  | some x =>
    have kept : ¬Overlooked v want := by
      rintro ⟨⟨s, rfl⟩, _⟩
      cases builtIn
    simp [kept]
  | none =>
    rw [if_neg (by simp)]
    rcases numeric_cases v with same | ⟨s, x, rfl, value, _⟩
    · have kept : ¬Overlooked v want := fun overlooked => overlooked.2 same
      rw [same, and_iff_left kept]
    · refine iff_of_false (text_not_equal measure) ?_
      rintro ⟨equal, kept⟩
      rcases time_or_numeral number builtIn with ⟨t, rfl⟩ | ⟨n, rfl⟩
      · rw [value] at equal
        have rank := SortKey.rank_eq_of_compare_eq equal
        cases x <;> cases rank
      · exact kept ⟨⟨n, rfl⟩, by rw [value]; exact fun h => by cases h⟩

theorem compares_or {holds strict : Ordering → Bool} (splits : ∀ o, holds o = (strict o || o == .eq))
    {v want : Value} : Compares holds v want ↔ Compares strict v want ∨ Compares (· == .eq) v want := by
  unfold Compares
  simp only [splits, Bool.or_eq_true]
  grind

theorem exists_compares_or {holds strict : Ordering → Bool}
    (splits : ∀ o, holds o = (strict o || o == .eq)) {want : Value} (number : want.isNumeric)
    (vs : List Value) :
    (∃ v ∈ vs, Compares holds v want) ↔
      (∃ v ∈ vs, Compares strict v want) ∨ ∃ v ∈ vs, Equals v want ∧ ¬Overlooked v want := by
  simp only [compares_or splits, compares_eq_iff number, and_or_left, exists_or]

theorem satisfied_gte {want : Value} (number : want.isNumeric) (item : Value) (P : Path) :
    Satisfied item P .gte (.scalar want) ↔ Satisfied item P .gt (.scalar want) ∨
      ∃ v ∈ valuesAt item P, Equals v want ∧ ¬Overlooked v want :=
  exists_compares_or (by decide) number (valuesAt item P)

theorem satisfied_lte {want : Value} (number : want.isNumeric) (item : Value) (P : Path) :
    Satisfied item P .lte (.scalar want) ↔ Satisfied item P .lt (.scalar want) ∨
      ∃ v ∈ valuesAt item P, Equals v want ∧ ¬Overlooked v want :=
  exists_compares_or (by decide) number (valuesAt item P)

/-! ### Conditions -/

/-- The operators that compare a field with a number or a time. -/
def comparisons : List Operator := [.eq, .gt, .gte, .lt, .lte]

variable {op : Operator} {n q : Node} {keys : List String}

theorem spelled_of_field {key : String} (isField : isCommand key = false) (n : Node) :
    Spelled (some key) n := by
  intro same
  rw [Option.some.inj same, Operator.isCommand_name] at isField
  cases isField

theorem spelled_condition (condition : Node.IsCondition op n keys q) :
    Node.Everywhere (Node.PartsHave Spelled) q ↔
      Spelled (some op.name) n ∧ Node.Everywhere (Node.PartsHave Spelled) n := by
  have scalar : ∀ v, Node.Everywhere (Node.PartsHave Spelled) (.scalar v) := fun v => .scalar trivial
  refine Eq.to_iff (condition.descend (F := fun _ q => Node.Everywhere (Node.PartsHave Spelled) q)
    (E := fun _ key n => Spelled (some key) n ∧ Node.Everywhere (Node.PartsHave Spelled) n) ?_ ?_ ?_ [])
  · intro P key n
    rw [Node.everywhere_mapping, Node.PartsHave, List.forall_mem_singleton, List.forall_mem_singleton]
  · intro P key v isField
    have other : Spelled (some Operator.eq.name) (.scalar v) := fun same => absurd same (by decide)
    simp [spelled_of_field isField, other, scalar]
  · intro P key es isField
    simp [spelled_of_field isField]

theorem satisfies_condition {v : Value} (condition : Node.IsCondition op (.scalar v) keys q) (item : Value) :
    Satisfies item [] q ↔ Satisfied item (keys.map .key) op (.scalar v) := by
  have entry : ∀ (P : Path) op, SatisfiesEntry item P op.name (.scalar v) =
      Satisfied item P op (.scalar v) := by
    intro P op
    rw [SatisfiesEntry, Operator.ofName?_name]
  rw [← List.nil_append (keys.map _), ← entry]
  refine Eq.to_iff (condition.descend (F := Satisfies item) (E := SatisfiesEntry item) ?_ ?_ ?_ [])
  · intro P key n
    simp [satisfies_mapping]
  · intro P key v isField
    simp [SatisfiesEntry, Operator.ofName?_of_field isField]
  · intro P key es isField
    simp [SatisfiesEntry, Satisfies, Operator.ofName?_of_field isField]

theorem accepts_of_isNumeric (compares : op ∈ comparisons) {want : Value} (number : want.isNumeric) :
    op.takesScalar ∧ op.accepts (.scalar want) := by
  cases op with
  | eq => exact ⟨rfl, rfl⟩
  | gt | gte | lt | lte => exact ⟨rfl, number⟩
  | _ => simp [comparisons] at compares

theorem compile_comparison {depth : Int} (compares : op ∈ comparisons) (onField : keys ≠ [])
    (within : depth ≤ 0 ∨ keys.length ≤ depth) {want : Value} (number : want.isNumeric)
    (condition : Node.IsCondition op (.scalar want) keys q) :
    ∃ p, ((compiler Engine.standard).withDepth depth).compile q = .ok p := by
  obtain ⟨takesScalar, accepted⟩ := accepts_of_isNumeric compares number
  have nonempty : [] ++ keys.map Segment.key ≠ [] := by simpa using onField
  have short : ((compiler Engine.standard).withDepth depth).language.Within
      ([] ++ keys.map Segment.key) := by
    rwa [Language.Within, List.nil_append, List.length_map]
  refine (accepts_iff Engine.standard depth q).mpr ⟨?_, ?_⟩
  · exact (condition.isQuery_iff rfl []).mpr
      ⟨rfl, fun _ => nonempty, short, .scalar takesScalar accepted⟩
  · refine (spelled_condition condition).mpr ⟨fun same => ?_, .scalar trivial⟩
    have named := congrArg Operator.ofName? (Option.some.inj same)
    rw [Operator.ofName?_name, Operator.ofName?_name, Option.some.injEq] at named
    subst named
    simp [comparisons] at compares

theorem answer_comparison {depth : Int} {want item : Value} {p : Predicate Incomparable}
    (plain : item.isPlain) (condition : Node.IsCondition op (.scalar want) keys q)
    (compiled : ((compiler Engine.standard).withDepth depth).compile q = .ok p) :
    Answers (p item) (Satisfied item (keys.map .key) op (.scalar want)) := by
  obtain ⟨a, _, _, generated, resolved⟩ := compile_eq_ok_iff.mp compiled
  obtain ⟨rfl, _⟩ := yields_pure.mp resolved
  rw [← satisfies_condition condition]
  exact generate_answers generated plain

/-- Conditions with a number or a time on a field are decided for every plain item. `$gte` holds if `$gt`
does, or if a value of the field is equal to the operand and is not overlooked, and `$lte` likewise. So
where no value is overlooked, `$gte` is `$gt` or `$eq`, and `$lte` is `$lt` or `$eq`. -/
theorem range_or_equal {depth : Int} {keys : List String} (onField : keys ≠ [])
    (within : depth ≤ 0 ∨ keys.length ≤ depth) {want : Value} (number : want.isNumeric) {item : Value}
    (plain : item.isPlain) :
    ∃ holds : Operator → Bool,
      (∀ op ∈ comparisons, ∀ q, Node.IsCondition op (.scalar want) keys q →
        ∃ p, ((compiler Engine.standard).withDepth depth).compile q = .ok p ∧ p item = .ok (holds op)) ∧
      (holds .gte = true ↔ holds .gt = true ∨
        ∃ v ∈ valuesAt item (keys.map .key), Equals v want ∧ ¬Overlooked v want) ∧
      (holds .lte = true ↔ holds .lt = true ∨
        ∃ v ∈ valuesAt item (keys.map .key), Equals v want ∧ ¬Overlooked v want) ∧
      ((∀ v ∈ valuesAt item (keys.map .key), ¬Overlooked v want) →
        holds .gte = (holds .gt || holds .eq) ∧ holds .lte = (holds .lt || holds .eq)) := by
  classical
  have atLeast := satisfied_gte number item (keys.map .key)
  have atMost := satisfied_lte number item (keys.map .key)
  refine ⟨fun op => decide (Satisfied item (keys.map .key) op (.scalar want)), ?_, ?_, ?_, ?_⟩
  · intro op compares q condition
    obtain ⟨p, compiled⟩ := compile_comparison compares onField within number condition
    obtain ⟨b, answer, meaning⟩ := answer_comparison plain condition compiled
    refine ⟨p, compiled, answer.trans (congrArg Except.ok ?_)⟩
    rw [Bool.eq_iff_iff, meaning, decide_eq_true_iff]
  · simpa only [decide_eq_true_iff] using atLeast
  · simpa only [decide_eq_true_iff] using atMost
  · intro seen
    have equal : (∃ v ∈ valuesAt item (keys.map .key), Equals v want ∧ ¬Overlooked v want) ↔
        Satisfied item (keys.map .key) .eq (.scalar want) :=
      exists_congr fun v => and_congr_right fun member => and_iff_left (seen v member)
    rw [equal] at atLeast atMost
    simp only [← Bool.decide_or, decide_eq_decide]
    exact ⟨atLeast, atMost⟩

theorem range_or_equal_text :
    let want := Value.text "7"
    let item := Value.object .any [("a", .list .any [.object .any [("b", .text " 7.0 ")], .null])]
    let q (op : Operator) := Node.mapping [("a", .mapping [("b", .mapping [(op.name, .scalar want)])])]
    want.isNumeric ∧ item.isPlain ∧ ∃ holds : Operator → Bool,
      (∀ op ∈ comparisons, ∃ p, ((compiler Engine.standard).withDepth 2).compile (q op) = .ok p ∧
        p item = .ok (holds op)) ∧
      holds .gte = (holds .gt || holds .eq) ∧ holds .lte = (holds .lt || holds .eq) := by
  intro want item q
  have number : want.isNumeric := by decide +kernel
  have plain : item.isPlain := by rfl
  obtain ⟨holds, answers, _, _, either⟩ :=
    @range_or_equal 2 ["a", "b"] (by simp) (.inr (by decide)) want number item plain
  have condition (op : Operator) : Node.IsCondition op (.scalar want) ["a", "b"] (q op) :=
    .field (by decide) (.field (by decide) .operator)
  refine ⟨number, plain, holds, fun op compares => answers op compares _ (condition op), either ?_⟩
  rintro v _ ⟨⟨s, same⟩, _⟩
  exact absurd same (by simp [want])

/-- A text is equal to a numeral of the same number, and yet it is not at or above the numeral. -/
theorem numeral_equal_not_gte :
    let want := Value.numeral "5"
    let item := Value.object .any [("a", .text "5")]
    let q (op : Operator) := Node.mapping [("a", .mapping [(op.name, .scalar want)])]
    let c := (compiler Engine.standard).withDepth 0
    want.isNumeric ∧ item.isPlain ∧ ∃ equal above atLeast, c.compile (q .eq) = .ok equal ∧
      c.compile (q .gt) = .ok above ∧ c.compile (q .gte) = .ok atLeast ∧
      equal item = .ok true ∧ above item = .ok false ∧ atLeast item = .ok false := by
  intro want item q c
  exact ⟨by decide +kernel, rfl, _, _, _, rfl, rfl, rfl, by decide +kernel, by decide +kernel,
    by decide +kernel⟩

end Predicate

end FilterQuery
