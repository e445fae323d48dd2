import FilterQuery.Proofs.Compile.Calls
import FilterQuery.Query.Predicate
import FilterQuery.Search.Dialect
import FilterQuery.Sql.Dialect

/-!
# What generators can rely on

Generators read the first segment of the data path, the number of a bound and the value of a flag
without a check of their own. Every operation they are called with has them (`calls_validated`).
-/

namespace FilterQuery.Compiler

variable {σ α β : Type}

/-- The operation has what the generators of its operator read without a check: a field, a finite
number as the bound of a range, a pattern, or a boolean. -/
structure Usable (o : Operation α) : Prop where
  field : o.operator.isCombinator = false → ∃ seg rest, o.data = seg :: rest
  bound : o.operator ∈ [.gt, .gte, .lt, .lte] →
    ∃ x, o.operand.plain.toNumber? = some x ∧ x.isFinite
  pattern : o.operator = .like →
    (∃ s, o.operand = .scalar (.text s)) ∨ (∃ bs, o.operand = .scalar (.rawText bs)) ∨
      ∃ v, o.operand = .scalar v ∧ v.isRegex
  present : o.operator = .present → ∃ b, o.operand = .scalar (.bool b)

theorem number_of_isNumber {n : Node} (number : n.isNumber) :
    ∃ x, n.plain.toNumber? = some x ∧ x.isFinite := by
  cases n with
  | scalar v => exact (Option.any_eq_true _ _).mp number
  | sequence ns => cases number
  | mapping es => cases number

theorem pattern_of_isPattern {n : Node} (pattern : n.isPattern) :
    (∃ s, n = .scalar (.text s)) ∨ (∃ bs, n = .scalar (.rawText bs)) ∨
      ∃ v, n = .scalar v ∧ v.isRegex := by
  unfold Node.isPattern at pattern
  split at pattern
  · exact .inl ⟨_, rfl⟩
  · exact .inr (.inl ⟨_, rfl⟩)
  · exact .inr (.inr ⟨_, rfl, pattern⟩)
  · cases pattern

theorem bool_of_isBool {n : Node} (bool : n.isBool) : ∃ b, n = .scalar (.bool b) := by
  unfold Node.isBool at bool
  split at bool
  · exact ⟨_, rfl⟩
  · cases bool

/-- The check of an operand includes that of its shape, unless the operation joins entries. -/
theorem Validated.accepts {c : Compiler σ α β} {o : Operation α} (validated : c.Validated o)
    (notAnd : o.operator ≠ .and) : o.operator.accepts o.operand := by
  rcases validated.checked with ⟨_, isAnd, _⟩ | ⟨_, clean, _⟩
  · exact absurd isAnd notAnd
  · unfold Operator.violation? at clean
    cases accepted : o.operator.accepts o.operand with
    | true => rfl
    | false =>
      rw [accepted] at clean
      cases clean

theorem Validated.usable {c : Compiler σ α β} {o : Operation α} (validated : c.Validated o) :
    Usable o where
  field noCombinator := List.exists_cons_of_ne_nil (validated.onField noCombinator)
  bound range := by
    have accepted := validated.accepts (by rintro same; simp [same] at range)
    refine number_of_isNumber ?_
    simp only [List.mem_cons, List.not_mem_nil, or_false] at range
    rcases range with same | same | same | same <;> rwa [same] at accepted
  pattern isLike := by
    have accepted := validated.accepts (by simp [isLike])
    rw [isLike] at accepted
    exact pattern_of_isPattern accepted
  present isPresent := by
    have accepted := validated.accepts (by simp [isPresent])
    rw [isPresent] at accepted
    exact bool_of_isBool accepted

theorem calls_usable (c : Compiler σ α β) (q : Node) : ∀ call ∈ c.calls q, Usable call.operation := by
  intro call member
  obtain ⟨before, after, split⟩ := List.append_of_mem member
  exact (c.calls_justified q before call after split).1.usable

/-- Whatever the dialect, its options and the document are, and even if the compilation fails later:
each generator that is called belongs to an operator of the dialect, and the operation it gets is
checked. The children of the operation are what the calls for the nodes directly below its operand
have made, and were not dropped, in document order. So the operations of the search, the SQL and the
predicate dialect have all that their generators read without a check. -/
theorem calls_validated (c : Compiler σ α β) (q : Node) :
    c.recording.compile q = c.compile q ∧
      (∀ before call after, c.calls q = before ++ call :: after →
        c.Validated call.operation ∧
          ∃ earlier below, before = earlier ++ below ∧ Gathers call.operation below) ∧
      (∀ depth, ∀ call ∈ (Search.compiler.withDepth depth).calls q, Usable call.operation ∧
        (call.operation.operator.isCombinator = false →
          call.operation.data.head?.map Segment.text = some (Search.fieldOf call.operation))) ∧
      (∀ style depth, ∀ call ∈ ((Sql.compiler style).withDepth depth).calls q,
        Usable call.operation) ∧
      ∀ {ε : Type} (e : Engine ε) depth, ∀ call ∈ ((Predicate.compiler e).withDepth depth).calls q,
        Usable call.operation := by
  refine ⟨recording_compile c q, c.calls_justified q, fun depth call member => ?_,
    fun style depth => calls_usable _ q, fun e depth => calls_usable _ q⟩
  have usable := calls_usable _ q call member
  refine ⟨usable, fun noCombinator => ?_⟩
  obtain ⟨seg, rest, data⟩ := usable.field noCombinator
  simp [Search.fieldOf, data]

/-- The compilation fails at the unknown operator, after the calls for the other entry. -/
theorem calls_validated_failing :
    let operand := Node.mapping [("$eq", .scalar (.bool true))]
    let q := Node.mapping [("a", operand), ("$x", .scalar .null)]
    let clause := Search.Clause.field "a" (.tag "a")
    let entries : Operation Search.Clause :=
      ⟨.and, [.key "a"], [.key "a"], operand, [clause], []⟩
    ∃ test, Search.compiler.calls q = [test] ++ ⟨entries, .ok (some clause)⟩ :: [] ∧
      (∃ e, Search.compiler.compile q = .error e) ∧ Search.compiler.Validated entries := by
  intro operand q clause entries
  obtain ⟨test, called⟩ : ∃ test,
      Search.compiler.calls q = [test] ++ ⟨entries, .ok (some clause)⟩ :: [] := ⟨_, rfl⟩
  exact ⟨test, called, ⟨_, rfl⟩, ((calls_validated Search.compiler q).2.1 _ _ _ called).1⟩

end FilterQuery.Compiler
