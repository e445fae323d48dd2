import FilterQuery.Compile.Trace
import FilterQuery.Proofs.Compile.FirstViolation

/-!
# The grammar of filters

`Language.IsQuery` says top-down, with the path of the field as context, which documents are filters.
The compiler decides it bottom-up: a document is a filter if none of its nodes breaks a rule
(`clean_agrees`), so a compiler whose generators do not fail accepts exactly the filters of its
language.
-/

namespace FilterQuery

open Generation

namespace Language

mutual

/-- The node is a filter on the field at a data path. -/
inductive IsQuery (L : Language) : Path → Node → Prop
  | mapping {P : Path} {es : List (String × Node)} (entries : ∀ e ∈ es, IsEntry L P e.1 e.2) :
    IsQuery L P (.mapping es)

/-- The node may stand under the key in a filter on the field at a data path. -/
inductive IsEntry (L : Language) : Path → String → Node → Prop
  /-- A field and the scalar it is compared with. -/
  | equals {P : Path} {key : String} {v : Value} (field : Compiler.isCommand key = false)
    (within : L.Within (P ++ [.key key])) : IsEntry L P key (.scalar v)
  /-- A field and a filter on it. -/
  | nested {P : Path} {key : String} {n : Node} (field : Compiler.isCommand key = false)
    (query : IsQuery L (P ++ [.key key]) n) : IsEntry L P key n
  | operator {P : Path} {key : String} {op : Operator} {n : Node}
    (named : Operator.ofName? key = some op) (supported : L.supports op)
    (onField : op.isCombinator = false → P ≠ []) (within : L.Within P)
    (operand : IsOperand L P op n) : IsEntry L P key n

/-- The node is an operand of the operator, which is applied to the field at a data path. -/
inductive IsOperand (L : Language) : Path → Operator → Node → Prop
  | queries {P : Path} {op : Operator} {ns : List Node} (combinator : op.isCombinator)
    (each : ∀ n ∈ ns, IsQuery L P n) : IsOperand L P op (.sequence ns)
  | query {P : Path} {n : Node} (query : IsQuery L P n) : IsOperand L P .not n
  | values {P : Path} {op : Operator} {ns : List Node} (list : op.takesValues)
    (each : ∀ (i : Nat) n, ns[i]? = some n → IsLiteral L (P ++ [.index i]) n) :
    IsOperand L P op (.sequence ns)
  | scalar {P : Path} {op : Operator} {n : Node} (scalar : op.takesScalar)
    (accepted : op.accepts n) : IsOperand L P op n

/-- The node may stand in a list of values, at a data path of its own. A mapping there must itself
be a filter. -/
inductive IsLiteral (L : Language) : Path → Node → Prop
  | scalar {P : Path} {v : Value} : IsLiteral L P (.scalar v)
  | list {P : Path} {ns : List Node}
    (each : ∀ (i : Nat) n, ns[i]? = some n → IsLiteral L (P ++ [.index i]) n) :
    IsLiteral L P (.sequence ns)
  | query {P : Path} {es : List (String × Node)} (query : IsQuery L P (.mapping es)) :
    IsLiteral L P (.mapping es)

end

variable {L : Language}

/-! ### Inversion -/

theorem isQuery_mapping {P : Path} {es : List (String × Node)} :
    L.IsQuery P (.mapping es) ↔ ∀ e ∈ es, L.IsEntry P e.1 e.2 :=
  ⟨fun | .mapping entries => entries, .mapping⟩

theorem IsQuery.isMapping {P : Path} {n : Node} (h : L.IsQuery P n) : n.isMapping := by
  cases h
  rfl

theorem isLiteral_mapping {P : Path} {es : List (String × Node)} :
    L.IsLiteral P (.mapping es) ↔ L.IsQuery P (.mapping es) :=
  ⟨fun | .query query => query, .query⟩

theorem isLiteral_sequence {P : Path} {ns : List Node} :
    L.IsLiteral P (.sequence ns) ↔
      ∀ (i : Nat) n, ns[i]? = some n → L.IsLiteral (P ++ [Segment.index i]) n :=
  ⟨fun | .list each => each, .list⟩

theorem isEntry_operator {P : Path} {key : String} {op : Operator} {n : Node}
    (named : Operator.ofName? key = some op) :
    L.IsEntry P key n ↔
      L.supports op ∧ (op.isCombinator = false → P ≠ []) ∧ L.Within P ∧ L.IsOperand P op n := by
  constructor
  · intro h
    cases h with
    | equals field _ => rw [Operator.ofName?_of_field field] at named; cases named
    | nested field _ => rw [Operator.ofName?_of_field field] at named; cases named
    | operator same supported onField within operand =>
      obtain rfl := Option.some.inj (same.symm.trans named)
      exact ⟨supported, onField, within, operand⟩
  · rintro ⟨supported, onField, within, operand⟩
    exact .operator named supported onField within operand

theorem isEntry_field {P : Path} {key : String} {n : Node}
    (field : Compiler.isCommand key = false) :
    L.IsEntry P key n ↔
      (n.kind = .scalar ∧ L.Within (P ++ [Segment.key key])) ∨
        L.IsQuery (P ++ [Segment.key key]) n := by
  constructor
  · intro h
    cases h with
    | equals _ within => exact .inl ⟨rfl, within⟩
    | nested _ query => exact .inr query
    | operator named => rw [Operator.ofName?_of_field field] at named; cases named
  · rintro (⟨scalar, within⟩ | query)
    · cases n with
      | scalar v => exact .equals field within
      | sequence ns => cases scalar
      | mapping es => cases scalar
    · exact .nested field query

theorem not_isEntry_command {P : Path} {key : String} {n : Node}
    (unknown : Operator.ofName? key = none) (command : Compiler.isCommand key = true) :
    ¬L.IsEntry P key n := by
  intro h
  cases h with
  | equals field _ => rw [command] at field; cases field
  | nested field _ => rw [command] at field; cases field
  | operator named => rw [unknown] at named; cases named

/-! ### Nodes without a violation -/

def Clean (L : Language) (sites : List Site) : Prop := ∀ s ∈ sites, L.violation? s = none

@[simp] theorem clean_nil : L.Clean [] := List.forall_mem_nil _

theorem clean_append {a b : List Site} : L.Clean (a ++ b) ↔ L.Clean a ∧ L.Clean b := by
  simp [Clean, or_imp, forall_and]

theorem clean_postorderAt {path : Path} {n : Node} :
    L.Clean (n.postorderAt path) ↔
      L.Clean (n.postorderParts path) ∧ L.violation? ⟨path, n⟩ = none := by
  rw [Node.postorderAt_eq, clean_append]
  simp [Clean]

section Violations

attribute [local simp] violation?

theorem violation?_operator (path : Path) {key : String} {op : Operator} (n : Node)
    (named : Operator.ofName? key = some op) :
    L.violation? ⟨path ++ [Segment.key key], n⟩ = none ↔
      L.supports op ∧ op.accepts n ∧ (op.isCombinator = false → path.data ≠ []) ∧
        L.Within path.data := by
  simp only [violation?, List.getLast?_concat, named, Path.data_append_operator path named,
    operandViolation?_eq_none_iff, Operator.needsField, Bool.not_eq_true']

theorem violation?_field (path : Path) {key : String} (n : Node)
    (field : Compiler.isCommand key = false) :
    L.violation? ⟨path ++ [Segment.key key], n⟩ = none ↔
      n.isMapping ∨ (n.kind = .scalar ∧ L.Within (path.data ++ [Segment.key key])) := by
  have named := Operator.ofName?_of_field field
  simp only [violation?, List.getLast?_concat, named, Path.data_append_field path named, field]
  cases n <;> simp [fieldViolation?, Node.isMapping, Node.kind]

theorem violation?_command (path : Path) {key : String} (n : Node)
    (unknown : Operator.ofName? key = none) (command : Compiler.isCommand key = true) :
    L.violation? ⟨path ++ [Segment.key key], n⟩ = some .operatorNotSupported := by
  simp [unknown, command]

theorem violation?_index (path : Path) (i : Int) (n : Node) :
    L.violation? ⟨path ++ [Segment.index i], n⟩ = none := by
  simp

end Violations

/-- The rules that the nodes below a place obey are those of the grammar, for the three kinds of
places: below a key, in a list of values, and in a list of filters. -/
structure Agrees (L : Language) (n : Node) : Prop where
  entry (path : Path) (key : String) :
    L.Clean (n.postorderAt (path ++ [.key key])) ↔ L.IsEntry path.data key n
  literal {path : Path} (i : Nat) : path.endsInCombinator = false →
    (L.Clean (n.postorderAt (path ++ [.index i])) ↔ L.IsLiteral (path.data ++ [.index i]) n)
  query {path : Path} (i : Nat) : path.endsInCombinator = true → n.isMapping →
    (L.Clean (n.postorderAt (path ++ [.index i])) ↔ L.IsQuery path.data n)

theorem clean_entries {es : List (String × Node)} (agrees : ∀ e ∈ es, L.Agrees e.2) (path : Path) :
    L.Clean (Node.postorderEntries path es) ↔ L.IsQuery path.data (.mapping es) := by
  rw [isQuery_mapping]
  induction es with
  | nil => exact iff_of_true clean_nil (List.forall_mem_nil _)
  | cons e es ih =>
    rw [List.forall_mem_cons, Node.postorderEntries_cons, clean_append,
      ih fun e member => agrees e (List.mem_cons_of_mem _ member),
      (agrees e List.mem_cons_self).entry]

theorem clean_literals {ns : List Node} (agrees : ∀ n ∈ ns, L.Agrees n) {path : Path}
    (values : path.endsInCombinator = false) (i : Nat) :
    L.Clean (Node.postorderItems path i ns) ↔
      ∀ (j : Nat) n, ns[j]? = some n →
        L.IsLiteral (path.data ++ [Segment.index (i + j : Nat)]) n := by
  induction ns generalizing i with
  | nil => exact iff_of_true clean_nil (by simp)
  | cons n ns ih =>
    rw [Node.postorderItems_cons, clean_append,
      ih (fun n member => agrees n (List.mem_cons_of_mem _ member)),
      (agrees n List.mem_cons_self).literal i values]
    constructor
    · rintro ⟨first, rest⟩ j m found
      cases j with
      | zero => simpa [← Option.some.inj found] using first
      | succ j =>
        rw [show i + (j + 1) = i + 1 + j by omega]
        exact rest j m (by simpa using found)
    · intro each
      refine ⟨each 0 n rfl, fun j m found => ?_⟩
      rw [show i + 1 + j = i + (j + 1) by omega]
      exact each (j + 1) m (by simpa using found)

theorem clean_queries {ns : List Node} (agrees : ∀ n ∈ ns, L.Agrees n) {path : Path}
    (queries : path.endsInCombinator = true) (mappings : ∀ n ∈ ns, n.isMapping) (i : Nat) :
    L.Clean (Node.postorderItems path i ns) ↔ ∀ n ∈ ns, L.IsQuery path.data n := by
  induction ns generalizing i with
  | nil => exact iff_of_true clean_nil (List.forall_mem_nil _)
  | cons n ns ih =>
    rw [List.forall_mem_cons, Node.postorderItems_cons, clean_append,
      ih (fun n member => agrees n (List.mem_cons_of_mem _ member))
        (fun n member => mappings n (List.mem_cons_of_mem _ member)),
      (agrees n List.mem_cons_self).query i queries (mappings n List.mem_cons_self)]

theorem clean_operand {path : Path} {key : String} {op : Operator} {n : Node}
    (named : Operator.ofName? key = some op)
    (items : ∀ ns, n = .sequence ns → ∀ m ∈ ns, L.Agrees m)
    (entries : ∀ es, n = .mapping es → ∀ e ∈ es, L.Agrees e.2) :
    L.Clean (n.postorderParts (path ++ [Segment.key key])) ∧ op.accepts n ↔
      L.IsOperand path.data op n := by
  have data := Path.data_append_operator path named
  have ends := Path.endsInCombinator_key path key
  rw [named, Option.any_some] at ends
  constructor
  · rintro ⟨clean, accepted⟩
    -- the shape that the operator accepts says what its parts have to be
    cases n with
    | scalar v => exact .scalar (Operator.takesScalar_of_accepts accepted) accepted
    | sequence ns =>
      rw [Operator.accepts_sequence, Bool.or_eq_true, Bool.and_eq_true, List.all_eq_true] at accepted
      rcases accepted with ⟨combinator, mappings⟩ | list
      · rw [combinator] at ends
        have each := (clean_queries (items ns rfl) ends mappings 0).mp clean
        rw [data] at each
        exact .queries combinator each
      · rw [Operator.not_isCombinator_of_takesValues list] at ends
        have each := (clean_literals (items ns rfl) ends 0).mp clean
        simp only [data, Nat.zero_add] at each
        exact .values list each
    | mapping es =>
      rw [Operator.accepts_mapping, beq_iff_eq] at accepted
      have query := (clean_entries (entries es rfl) _).mp clean
      rw [data] at query
      exact accepted ▸ .query query
  · intro operand
    cases operand with
    | @queries _ _ ns combinator each =>
      rw [combinator] at ends
      have mappings : ∀ n ∈ ns, n.isMapping := fun n member => (each n member).isMapping
      refine ⟨(clean_queries (items _ rfl) ends mappings 0).mpr (by rwa [data]), ?_⟩
      rw [Operator.accepts_sequence, combinator, List.all_eq_true.mpr mappings]
      rfl
    | query query =>
      cases query with
      | mapping each =>
        exact ⟨(clean_entries (entries _ rfl) _).mpr (by rw [data]; exact .mapping each), rfl⟩
    | values list each =>
      rw [Operator.not_isCombinator_of_takesValues list] at ends
      refine ⟨(clean_literals (items _ rfl) ends 0).mpr (by simpa [data] using each), ?_⟩
      rw [Operator.accepts_sequence, list, Bool.or_true]
    | scalar scalar accepted =>
      refine ⟨?_, accepted⟩
      cases n with
      | scalar v => exact clean_nil
      | sequence ns =>
        rw [Operator.accepts_sequence] at accepted
        simp_all [Operator.takesScalar]
      | mapping es =>
        rw [Operator.accepts_mapping] at accepted
        simp_all [Operator.takesScalar]

theorem agrees_entry {n : Node} (items : ∀ ns, n = .sequence ns → ∀ m ∈ ns, L.Agrees m)
    (entries : ∀ es, n = .mapping es → ∀ e ∈ es, L.Agrees e.2) (path : Path) (key : String) :
    L.Clean (n.postorderAt (path ++ [Segment.key key])) ↔ L.IsEntry path.data key n := by
  rw [clean_postorderAt]
  cases named : Operator.ofName? key with
  | some op =>
    rw [violation?_operator path n named, isEntry_operator named,
      ← clean_operand named items entries]
    exact ⟨fun ⟨clean, supported, accepted, onField, within⟩ =>
        ⟨supported, onField, within, clean, accepted⟩,
      fun ⟨supported, onField, within, clean, accepted⟩ =>
        ⟨clean, supported, accepted, onField, within⟩⟩
  | none =>
    cases field : Compiler.isCommand key with
    | true => simp [violation?_command path n named field, not_isEntry_command named field]
    | false =>
      rw [violation?_field path n field, isEntry_field field, ← Path.data_append_field path named]
      cases n with
      | scalar v =>
        have noQuery : ¬L.IsQuery (Path.data (path ++ [Segment.key key])) (.scalar v) :=
          fun query => by cases query
        simp [Node.isMapping, noQuery]
      | sequence ns =>
        have noQuery : ¬L.IsQuery (Path.data (path ++ [Segment.key key])) (.sequence ns) :=
          fun query => by cases query
        simp [Node.isMapping, Node.kind, noQuery]
      | mapping es => simp [clean_entries (entries es rfl), Node.isMapping, Node.kind]

theorem clean_agrees (n : Node) : L.Agrees n := by
  induction n using Node.induct with
  | scalar v =>
    refine ⟨agrees_entry (fun _ same => by cases same) (fun _ same => by cases same),
      fun {path} i values => ?_, fun _ _ mapping => by cases mapping⟩
    rw [clean_postorderAt]
    simp [violation?_index, IsLiteral.scalar]
  | sequence ns ih =>
    refine ⟨agrees_entry (fun _ same => by cases same; exact ih) (fun _ same => by cases same),
      fun {path} i values => ?_, fun _ _ mapping => by cases mapping⟩
    rw [clean_postorderAt, isLiteral_sequence]
    -- a list inside of a list of values is one of values again, and its index addresses data
    have inner := clean_literals ih (Path.endsInCombinator_index path i) 0
    rw [Path.data_append_index, values] at inner
    simpa [violation?_index] using inner
  | mapping es ih =>
    refine ⟨agrees_entry (fun _ same => by cases same) (fun _ same => by cases same; exact ih),
      fun {path} i values => ?_, fun {path} i queries _ => ?_⟩
    · have inner := clean_entries ih (path ++ [Segment.index i])
      rw [Path.data_append_index, values] at inner
      simpa [clean_postorderAt, isLiteral_mapping, violation?_index] using inner
    -- among filters the index does not address data, so the filter is on the same field
    · have inner := clean_entries ih (path ++ [Segment.index i])
      rw [Path.data_append_index, queries] at inner
      simpa [clean_postorderAt, violation?_index] using inner

theorem isQuery_iff_clean {n : Node} (mapping : n.isMapping) :
    L.IsQuery [] n ↔ L.Clean n.postorder := by
  cases n with
  | mapping es =>
    have entries : L.Clean (Node.postorderEntries [] es) ↔ L.IsQuery [] (.mapping es) :=
      clean_entries (fun e _ => clean_agrees e.2) []
    rw [Node.postorder, clean_postorderAt]
    simpa [violation?] using entries.symm
  | _ => cases mapping

theorem firstViolation?_eq_none_iff {n : Node} : L.firstViolation? n = none ↔ L.IsQuery [] n := by
  unfold firstViolation?
  split
  · rename_i mapping
    rw [isQuery_iff_clean mapping]
    simp [Clean, violationAt?]
  · rename_i mapping
    simp only [reduceCtorEq, false_iff]
    exact fun query => mapping query.isMapping

end Language

namespace Compiler

variable {σ α β : Type} {c : Compiler σ α β}

theorem compile_of_isQuery (total : c.Total) {q : Node} (query : c.language.IsQuery [] q) :
    ∃ r, c.compile q = .ok r := by
  have decided := generate_decides total q
  rw [Language.firstViolation?_eq_none_iff.mpr query] at decided
  obtain ⟨a, s, generated⟩ := decided c.dialect.start
  obtain ⟨r, t, resolved⟩ := total.resolves a s
  exact ⟨r, compile_eq_ok_iff.mpr ⟨a, s, t, generated, resolved⟩⟩

theorem compile_of_firstViolation (total : c.Total) {q : Node} {v : Violation}
    (first : c.language.firstViolation? q = some v) :
    c.compile q = .error (c.replaced (.violation v)) := by
  have decided := generate_decides total q
  rw [first] at decided
  exact compile_of_fails (decided c.dialect.start)

/-- A compiler whose generators do not fail accepts exactly the filters of its language. Of any other
document it reports that it is not a mapping, or else the first node in post-order that breaks a
rule. -/
theorem compile_isQuery_or_first_violation (total : c.Total) (q : Node) :
    ((∃ r, c.compile q = .ok r) ↔ c.language.IsQuery [] q) ∧
    (q.isMapping = false →
      c.compile q = .error (c.replaced (.violation (.ofNode .unexpectedValue q [])))) ∧
    (q.isMapping = true → ¬c.language.IsQuery [] q →
      ∃ before site after kind, q.postorder = before ++ site :: after ∧
        (∀ s ∈ before, c.language.violation? s = none) ∧ c.language.violation? site = some kind ∧
        c.compile q = .error (c.replaced (.violation (.ofNode kind site.node site.path)))) := by
  refine ⟨⟨?_, compile_of_isQuery total⟩, ?_, ?_⟩
  · rintro ⟨r, accepted⟩
    rw [← Language.firstViolation?_eq_none_iff]
    cases first : c.language.firstViolation? q with
    | none => rfl
    | some v =>
      rw [compile_of_firstViolation total first] at accepted
      cases accepted
  · intro mapping
    exact compile_of_firstViolation total (by simp [Language.firstViolation?, mapping])
  · intro mapping notQuery
    cases first : c.language.firstViolation? q with
    | none => exact absurd (Language.firstViolation?_eq_none_iff.mp first) notQuery
    | some v =>
      have compiled := compile_of_firstViolation total first
      rw [Language.firstViolation?, if_pos mapping, List.findSome?_eq_some_iff] at first
      obtain ⟨before, site, after, split, found, clean⟩ := first
      obtain ⟨kind, broken, rfl⟩ := Option.map_eq_some_iff.mp found
      refine ⟨before, site, after, kind, split, fun s member => ?_, broken, compiled⟩
      exact Option.map_eq_none_iff.mp (clean s member)

def tracing : Compiler Trace String String where
  dialect := Trace.dialect String "string" {} (some Trace.resolve)
  resolve := Trace.resolve
  andSupported := rfl
  eqSupported := rfl

theorem tracing_total : tracing.Total where
  generates {op g} found o := by
    obtain rfl : Trace.generator {} op = g := Option.some.inj found
    exact fun s => ⟨some (Trace.operationText o), o :: s, rfl⟩
  resolves a s := ⟨_, s, rfl⟩

theorem compile_isQuery_or_first_violation_tracing :
    tracing.Total ∧ ∃ r, tracing.compile
      (.mapping [("a", .mapping [("$in", .sequence [.mapping [("b", .scalar .null)]])])]) = .ok r := by
  refine ⟨tracing_total, (compile_isQuery_or_first_violation tracing_total _).1.mpr ?_⟩
  refine .mapping (List.forall_mem_singleton.mpr (.nested rfl (.mapping ?_)))
  refine List.forall_mem_singleton.mpr (.operator (show Operator.ofName? "$in" = some .oneOf by decide)
    rfl (by simp) (.inl (Int.le_refl 0)) (.values rfl ?_))
  intro i n found
  obtain rfl := List.mem_singleton.mp (List.mem_of_getElem? found)
  exact .query (.mapping (List.forall_mem_singleton.mpr (.equals rfl (.inl (Int.le_refl 0)))))

end Compiler
end FilterQuery
