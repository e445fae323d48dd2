import FilterQuery.Proofs.Compile.Grammar
import FilterQuery.Proofs.Document.Reordering
import FilterQuery.Query.Predicate

/-!
# Accepted documents

A compiler whose generators refuse operands for what they are accepts the filters of its language that
have no such operand. Of the predicate dialect these are the operands of `$like` that are no pattern.
Where the data paths in a filter matter, only their length does (`IsQuery.of_length_eq`).
-/

namespace FilterQuery

open Generation

namespace Compiler

variable {σ α β : Type} {c : Compiler σ α β}
  {refusal? : Operator → Path → Node → Option CompileError}

theorem Refuses.compile_ok_iff (refuses : c.Refuses refusal?) (q : Node) :
    (∃ r, c.compile q = .ok r) ↔
      c.language.IsQuery [] q ∧ ∀ s ∈ q.postorder, refusalAt? refusal? s = none := by
  have decided := refuses.generate_decides q
  cases mapping : q.isMapping with
  | false =>
    rw [mapping] at decided
    constructor
    · rintro ⟨r, accepted⟩
      rw [compile_of_fails (decided _)] at accepted
      cases accepted
    · rintro ⟨query, _⟩
      rw [query.isMapping] at mapping
      cases mapping
  | true =>
    rw [mapping, if_pos rfl] at decided
    have clean : q.postorder.findSome? (c.errorAt? refusal?) = none ↔
        c.language.IsQuery [] q ∧ ∀ s ∈ q.postorder, refusalAt? refusal? s = none := by
      rw [Language.isQuery_iff_clean mapping, List.findSome?_eq_none_iff]
      simp [errorAt?, Language.Clean, Language.violationAt?, forall_and]
    rw [← clean]
    cases first : q.postorder.findSome? (c.errorAt? refusal?) with
    | some e =>
      rw [first] at decided
      simp [compile_of_fails (decided c.dialect.start)]
    | none =>
      rw [first] at decided
      obtain ⟨a, s, generated⟩ := decided c.dialect.start
      obtain ⟨r, t, resolved⟩ := refuses.resolves a s
      simp [compile_eq_ok_iff.mpr ⟨a, s, t, generated, resolved⟩]

end Compiler

/-! ### Filters at other paths -/

namespace Language

variable {L : Language}

theorem within_of_length_eq {P P' : Path} (same : P.length = P'.length) (within : L.Within P) :
    L.Within P' := by
  rwa [Within, ← same]

theorem ne_nil_of_length_eq {P P' : Path} (same : P.length = P'.length) (nonempty : P ≠ []) :
    P' ≠ [] := by
  rintro rfl
  exact nonempty (List.length_eq_zero_iff.mp same)

mutual

/-- Of the path of a field, only the length matters to the grammar. -/
theorem IsQuery.of_length_eq : ∀ {P P' : Path} {n : Node}, P.length = P'.length →
    L.IsQuery P n → L.IsQuery P' n
  | _, _, _, same, .mapping entries =>
    .mapping fun e member => IsEntry.of_length_eq same (entries e member)

theorem IsEntry.of_length_eq : ∀ {P P' : Path} {key : String} {n : Node}, P.length = P'.length →
    L.IsEntry P key n → L.IsEntry P' key n
  | _, _, _, _, same, .equals field within =>
    .equals field (within_of_length_eq (by simp [same]) within)
  | _, _, _, _, same, .nested field query =>
    .nested field (IsQuery.of_length_eq (by simp [same]) query)
  | _, _, _, _, same, .operator named supported onField within operand =>
    .operator named supported (fun noCombinator => ne_nil_of_length_eq same (onField noCombinator))
      (within_of_length_eq same within) (IsOperand.of_length_eq same operand)

theorem IsOperand.of_length_eq : ∀ {P P' : Path} {op : Operator} {n : Node}, P.length = P'.length →
    L.IsOperand P op n → L.IsOperand P' op n
  | _, _, _, _, same, .queries combinator each =>
    .queries combinator fun n member => IsQuery.of_length_eq same (each n member)
  | _, _, _, _, same, .query query => .query (IsQuery.of_length_eq same query)
  | _, _, _, _, same, .values list each =>
    .values list fun i n found => IsLiteral.of_length_eq (by simp [same]) (each i n found)
  | _, _, _, _, _, .scalar scalar accepted => .scalar scalar accepted

theorem IsLiteral.of_length_eq : ∀ {P P' : Path} {n : Node}, P.length = P'.length →
    L.IsLiteral P n → L.IsLiteral P' n
  | _, _, _, _, .scalar => .scalar
  | _, _, _, same, .list each =>
    .list fun i n found => IsLiteral.of_length_eq (by simp [same]) (each i n found)
  | _, _, _, same, .query query => .query (IsQuery.of_length_eq same query)

end

theorem literals_iff {P : Path} {ns : List Node} :
    (∀ (i : Nat) n, ns[i]? = some n → L.IsLiteral (P ++ [Segment.index i]) n) ↔
      ∀ n ∈ ns, L.IsLiteral (P ++ [Segment.index 0]) n := by
  constructor
  · intro each n member
    obtain ⟨i, found⟩ := List.mem_iff_getElem?.mp member
    exact (each i n found).of_length_eq (by simp)
  · intro each i n found
    exact (each n (List.mem_of_getElem? found)).of_length_eq (by simp)

theorem not_isQuery_sequence {P : Path} {ns : List Node} : ¬L.IsQuery P (.sequence ns) :=
  fun query => by cases query

theorem isOperand_mapping {P : Path} {op : Operator} {es : List (String × Node)} :
    L.IsOperand P op (.mapping es) ↔ op = .not ∧ L.IsQuery P (.mapping es) := by
  constructor
  · intro operand
    cases operand with
    | query query => exact ⟨rfl, query⟩
    | scalar scalar accepted =>
      rw [Operator.accepts_mapping, beq_iff_eq] at accepted
      subst accepted
      cases scalar
  · rintro ⟨rfl, query⟩
    exact .query query

theorem isOperand_sequence {P : Path} {op : Operator} {ns : List Node} :
    L.IsOperand P op (.sequence ns) ↔
      (op.isCombinator = true ∧ ∀ n ∈ ns, L.IsQuery P n) ∨
        (op.takesValues = true ∧ ∀ n ∈ ns, L.IsLiteral (P ++ [Segment.index 0]) n) := by
  constructor
  · intro operand
    cases operand with
    | queries combinator each => exact .inl ⟨combinator, each⟩
    | query query => exact absurd query not_isQuery_sequence
    | values list each => exact .inr ⟨list, literals_iff.mp each⟩
    | scalar scalar accepted =>
      rw [Operator.accepts_sequence] at accepted
      simp_all [Operator.takesScalar]
  · rintro (⟨combinator, each⟩ | ⟨list, each⟩)
    · exact .queries combinator each
    · exact .values list (literals_iff.mpr each)

/-! ### Filters in another order -/

/-- The second node may stand wherever the first one may. -/
structure Replaces (L : Language) (n n' : Node) : Prop where
  query {P : Path} : L.IsQuery P n → L.IsQuery P n'
  operand {P : Path} {op : Operator} : L.IsOperand P op n → L.IsOperand P op n'
  literal {P : Path} : L.IsLiteral P n → L.IsLiteral P n'

theorem replaces_mapping {es es' : List (String × Node)}
    (query : ∀ {P : Path}, L.IsQuery P (.mapping es) → L.IsQuery P (.mapping es')) :
    L.Replaces (.mapping es) (.mapping es') where
  query := query
  operand operand := by
    rw [isOperand_mapping] at operand ⊢
    exact ⟨operand.1, query operand.2⟩
  literal literal := by
    rw [isLiteral_mapping] at literal ⊢
    exact query literal

theorem replaces_entry {before after : List (String × Node)} {key : String} {n n' : Node}
    (entry : ∀ {P : Path}, L.IsEntry P key n → L.IsEntry P key n') :
    L.Replaces (.mapping (before ++ (key, n) :: after)) (.mapping (before ++ (key, n') :: after)) := by
  refine replaces_mapping fun query => ?_
  rw [isQuery_mapping] at query ⊢
  exact Node.forall_mem_replaced query entry

theorem replaces_of_step {free : Bool} {n n' : Node} (step : Node.Step free n n') :
    L.Replaces n n' := by
  induction step with
  | entries perm =>
    refine replaces_mapping fun query => ?_
    rw [isQuery_mapping] at query ⊢
    exact fun e member => query e (perm.mem_iff.mpr member)
  | @items _ _ _ ns ns' _ perm =>
    refine replaces_entry fun entry => ?_
    cases entry with
    | nested _ query => exact absurd query not_isQuery_sequence
    | operator named supported onField within operand =>
      refine .operator named supported onField within ?_
      rw [isOperand_sequence] at operand ⊢
      simpa only [perm.mem_iff] using operand
  | @inEntry _ _ _ _ n n' inner ih =>
    refine replaces_entry fun entry => ?_
    cases entry with
    | equals _ _ => exact absurd inner Node.not_step_scalar
    | nested field query => exact .nested field (ih.query query)
    | operator named supported onField within operand =>
      exact .operator named supported onField within (ih.operand operand)
  | inItem inner ih =>
    refine ⟨fun query => absurd query not_isQuery_sequence, fun operand => ?_, fun literal => ?_⟩
    · rw [isOperand_sequence] at operand ⊢
      rcases operand with ⟨combinator, each⟩ | ⟨list, each⟩
      · exact .inl ⟨combinator, Node.forall_mem_replaced each ih.query⟩
      · exact .inr ⟨list, Node.forall_mem_replaced each ih.literal⟩
    · rw [isLiteral_sequence, literals_iff] at literal ⊢
      exact Node.forall_mem_replaced literal ih.literal

end Language

end FilterQuery

/-! ### Predicates -/

namespace FilterQuery.Predicate

open Generation Compiler

variable {ε : Type}

/-- The predicate dialect refuses the operands of `$like` that are no patterns, and nothing else. -/
def refusal? (op : Operator) (path : Path) (n : Node) : Option CompileError :=
  match op with
  | .like =>
    match pattern? n.plain with
    | some _ => none
    | none => some (.violation (.ofNode .unexpectedValue n path))
  | _ => none

theorem compiler_refuses (e : Engine ε) (depth : Int) :
    ((compiler e).withDepth depth).Refuses refusal? where
  generates := by
    rintro op g found ⟨op, path, data, operand, children, elements⟩ rfl
    cases found
    cases op with
    | like =>
      unfold refusal?
      dsimp only [ofOperation]
      cases pattern? operand.plain with
      | some re => exact decides_pure _
      | none => exact decides_throw _
    | _ => exact decides_pure _
  resolves p := decides_pure p

/-- A node under the key of `$like` is a pattern. -/
def Spelled (key? : Option String) (n : Node) : Prop :=
  key? = some Operator.like.name → (pattern? n.plain).isSome = true

theorem refusal?_eq_none {op : Operator} {path : Path} {n : Node} :
    refusal? op path n = none ↔ (op = .like → (pattern? n.plain).isSome = true) := by
  cases op with
  | like => cases h : pattern? n.plain <;> simp [refusal?, h]
  | _ => simp [refusal?]

theorem refusalAt?_eq_none (s : Site) :
    refusalAt? refusal? s = none ↔ Spelled (Node.lastKey? s.path) s.node := by
  unfold refusalAt? operatorAt? Spelled Node.lastKey?
  cases s.path.getLast? with
  | none => simp [refusal?]
  | some seg =>
    cases seg with
    | index i => cases s.node.isMapping <;> simp [refusal?]
    | key key =>
      have isLike : (Operator.ofName? key).getD (fieldOperator s.node) = .like ↔
          some key = some Operator.like.name := by
        rw [Option.some.injEq, ← Operator.ofName?_eq_some_iff]
        cases Operator.ofName? key with
        | some op => simp
        | none => cases s.node <;> simp [fieldOperator]
      rw [← isLike]
      exact refusal?_eq_none

/-- A document is accepted if it is a filter of the language and each operand of `$like` in it is a
pattern. -/
theorem accepts_iff (e : Engine ε) (depth : Int) (q : Node) :
    (∃ p, ((compiler e).withDepth depth).compile q = .ok p) ↔
      ((compiler e).withDepth depth).language.IsQuery [] q ∧
        Node.Everywhere (Node.PartsHave Spelled) q := by
  rw [(compiler_refuses e depth).compile_ok_iff]
  simp only [refusalAt?_eq_none]
  rw [Node.postorder, Node.forall_postorderAt]
  simp [Spelled, Node.lastKey?]

end FilterQuery.Predicate
