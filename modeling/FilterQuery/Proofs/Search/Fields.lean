import FilterQuery.Proofs.Compile.Condition
import FilterQuery.Proofs.Compile.Inclusion
import FilterQuery.Proofs.Search.Meaning

/-!
# The field of a condition

The text of a filter begins, behind minus signs and parentheses, with the sign of the first field that it
asks about (`compile_begins`). All atoms of a condition on a field are tests of that field, so conditions on
different fields have different texts, unless they hold for the sake of their form and have none
(`compile_texts_differ`).
-/

namespace FilterQuery.Search

open Generation Compiler

/-! ### The first field of a text -/

/-- The name of the field that the first sign of a text belongs to. -/
def firstField (ts : List Token) : String := fieldName ((ts.dropWhile (· ≠ .char '@')).drop 1)

/-- The first sign in the tokens is that of the field. -/
def Begins (ts : List Token) (field : String) : Prop :=
  ∃ before rest, ts = before ++ .char '@' :: (nameTokens field ++ .char ':' :: rest) ∧
    ∀ t ∈ before, t ≠ .char '@'

theorem begins_field (name : String) (operand : Operand) : Begins (fieldTokens name operand) name :=
  ⟨[], operand.tokens, rfl, by simp⟩

namespace Begins

variable {ts : List Token} {field : String}

theorem append (begins : Begins ts field) (us : List Token) : Begins (ts ++ us) field := by
  obtain ⟨before, rest, rfl, noSign⟩ := begins
  exact ⟨before, rest ++ us, by simp, noSign⟩

theorem behind {c : Char} (noSign : c ≠ '@') (begins : Begins ts field) :
    Begins (.char c :: ts) field := by
  obtain ⟨before, rest, rfl, others⟩ := begins
  exact ⟨.char c :: before, rest, rfl, List.forall_mem_cons.mpr ⟨by simpa using noSign, others⟩⟩

theorem firstField_eq (begins : Begins ts field) : firstField ts = field := by
  obtain ⟨before, rest, rfl, noSign⟩ := begins
  rw [firstField, List.dropWhile_append_of_pos (by simpa using noSign),
    List.dropWhile_cons_of_neg (by simp), List.drop_one, List.tail_cons, fieldName_tokens]

theorem ne_nil (begins : Begins ts field) : ts ≠ [] := by
  obtain ⟨before, rest, rfl, _⟩ := begins
  simp

end Begins

namespace Clause

theorem begins_intercalate {ts : List Token} {field : String} (begins : Begins ts field) (sep : Token)
    (tss : List (List Token)) : Begins (List.intercalate [sep] (ts :: tss)) field := by
  cases tss with
  | nil => simpa using begins
  | cons us tss =>
    rw [List.intercalate_cons_cons, List.append_assoc]
    exact begins.append _

theorem begins_tokens : ∀ c : Clause, c.WellFormed → ∃ a ∈ c.expr.atoms, Begins c.tokens a.field
  | .everything, wf => wf.elim
  | .field name operand, _ => ⟨_, List.mem_cons_self, begins_field name operand⟩
  | .notField name operand, _ =>
    ⟨_, List.mem_cons_self, (begins_field name operand).behind (by decide)⟩
  | .all [], wf | .any [], wf | .notAll [], wf | .notAny [], wf => absurd rfl wf.1
  | .all (c :: cs), wf => by
    obtain ⟨a, member, begins⟩ := begins_tokens c wf.2.1
    exact ⟨a, List.mem_append_left _ member, begins_intercalate begins _ _⟩
  | .any (c :: cs), wf => by
    obtain ⟨a, member, begins⟩ := begins_tokens c wf.2.1
    have inside := (begins_intercalate begins (.char '|') (tokensEach cs)).append [.char ')']
    exact ⟨a, List.mem_append_left _ member, inside.behind (by decide)⟩
  | .notAll (c :: cs), wf => by
    obtain ⟨a, member, begins⟩ := begins_tokens c wf.2.1
    have inside := (begins_intercalate begins (.char ' ') (tokensEach cs)).append [.char ')']
    exact ⟨a, List.mem_append_left _ member, (inside.behind (by decide)).behind (by decide)⟩
  | .notAny (c :: cs), wf => by
    obtain ⟨a, member, begins⟩ := begins_tokens c wf.2.1
    have inside := (begins_intercalate begins (.char '|') (tokensEach cs)).append [.char ')']
    exact ⟨a, List.mem_append_left _ member, (inside.behind (by decide)).behind (by decide)⟩

end Clause

variable {depth : Int}

theorem Says.begins {c : Clause} {t : Expr (Atom Param)} (clause : Says c t) (valid : Valid (params t))
    (more : c.isEverything = false) : ∃ a ∈ t.kept, Begins (lex c.text.toList) a.field := by
  obtain ⟨_, member, begins⟩ := c.begins_tokens (clause.wellFormed more)
  rw [clause.atoms_eq] at member
  obtain ⟨a, kept, rfl⟩ := List.mem_map.mp member
  exact ⟨a, kept, Clause.lex_text (clause.worded valid) ▸ begins⟩

/-- A filter that holds for the sake of its form has no text; the text of another one begins with the
sign of a field that the filter asks about. -/
theorem compile_begins {q : Node} {r : Query}
    (compiled : (compiler.withDepth depth).compile q = .ok r) :
    (r.text = "" ↔ (filterExpr [] q).vacuous) ∧
      (r.text ≠ "" → ∃ a ∈ (filterExpr [] q).atoms, Begins (lex r.text.toList) a.field) := by
  obtain ⟨t, value, bound, valid, clause⟩ := compile_filterExpr compiled
  rw [bound] at valid
  have form : r.clause.isEverything = (filterExpr [] q).vacuous := by
    rw [clause.form_eq, ← value, Expr.vacuous_map]
  cases everything : r.clause.isEverything with
  | true =>
    have nothing : r.text = "" := by
      rw [Query.text, Clause.eq_everything everything]
      rfl
    simp [nothing, ← form, everything]
  | false =>
    obtain ⟨a, kept, begins⟩ := clause.begins valid everything
    have text : r.text ≠ "" := by
      intro nothing
      rw [Query.text] at nothing
      rw [nothing] at begins
      exact begins.ne_nil lex_nil
    refine ⟨by simp [text, ← form, everything], fun _ => ⟨a.map Param.value, ?_, begins⟩⟩
    rw [← value, Expr.atoms_map]
    exact List.mem_map_of_mem (t.kept_subset kept)

/-! ### The fields of the atoms -/

section Atoms

variable {P : Path} {a : Atom (List UInt8)}

theorem field_valueExpr {test : Indexed → Test (List UInt8)} {n : Node}
    (member : a ∈ (valueExpr P test n).atoms) : a.field = fieldAt P := by
  unfold valueExpr at member
  split at member
  · obtain rfl := List.mem_singleton.mp member
    rfl
  · cases member

theorem field_scalarExpr {op : Operator} {v : Value} (member : a ∈ (scalarExpr P op v).atoms) :
    a.field = fieldAt P := by
  cases op with
  | eq | ne => exact field_valueExpr member
  | gt | gte | lt | lte =>
    obtain rfl := List.mem_singleton.mp member
    rfl
  | like =>
    rw [scalarExpr, likeExpr] at member
    split at member
    · obtain rfl := List.mem_singleton.mp member
      rfl
    · cases member
  | _ => cases member

theorem field_listExpr {op : Operator} {ns : List Node} (member : a ∈ (listExpr P op ns).atoms) :
    a.field = fieldAt P := by
  have each : ∀ test, a ∈ Expr.atomsEach (ns.map (valueExpr P test)) → a.field = fieldAt P := by
    intro test member
    rw [Expr.atomsEach_eq, List.flatMap_map] at member
    obtain ⟨n, _, found⟩ := List.mem_flatMap.mp member
    exact field_valueExpr found
  cases op with
  | oneOf | noneOf | allOf => exact each _ member
  | _ => cases member

theorem LeafBelow.field_eq {used : Operator → Bool} (onField : P ≠ []) (leaf : LeafBelow P used a) :
    a.field = fieldAt P := by
  obtain ⟨keys, op, _, leaf⟩ := leaf
  have same : fieldAt (P ++ keys.map Segment.key) = fieldAt P := by
    rw [fieldAt, fieldAt, List.head?_append_of_ne_nil _ onField]
  rw [← same]
  rcases leaf with ⟨v, member⟩ | ⟨ns, member⟩
  · exact field_scalarExpr member
  · exact field_listExpr member

end Atoms

/-! ### Conditions -/

section Conditions

open Node (IsCondition)

variable {op : Operator} {n q : Node} {keys : List String}

theorem condition_expr {α : Type} (f : Expr (Atom (List UInt8)) → α) (single : ∀ e, f (.all [e]) = f e)
    (condition : IsCondition op n keys q) :
    f (filterExpr [] q) = f (entryExpr (keys.map Segment.key) op.name n) := by
  refine condition.descend (F := fun P q => f (filterExpr P q))
    (E := fun P key n => f (entryExpr P key n)) ?_ ?_ ?_ []
  · intro P key n
    exact single _
  · intro P key v isField
    simp [entryExpr, Operator.ofName?_of_field isField]
  · intro P key es isField
    simp [entryExpr, filterExpr, Operator.ofName?_of_field isField]

theorem begins_condition {key : String} (condition : IsCondition op n (key :: keys) q) {r : Query}
    (compiled : (compiler.withDepth depth).compile q = .ok r) (text : r.text ≠ "") :
    Begins (lex r.text.toList) key := by
  obtain ⟨a, member, begins⟩ := (compile_begins compiled).2 text
  rw [condition_expr Expr.atoms (fun e => List.append_nil e.atoms) condition] at member
  have onField : (key :: keys).map Segment.key ≠ [] := by simp
  have field := (leaf_entryExpr _ _ n member).field_eq onField
  rwa [field] at begins

/-! ### Conditions without a text -/

theorem vacuous_valueExpr (P : Path) (test : Indexed → Test (List UInt8)) (n : Node) :
    (valueExpr P test n).vacuous = false := by
  unfold valueExpr
  split <;> rfl

theorem vacuous_listExpr (P : Path) (op : Operator) (ns : List Node) :
    (listExpr P op ns).vacuous ↔ (op = .noneOf ∨ op = .allOf) ∧ ns = [] := by
  cases op with
  | oneOf => simp [listExpr, Expr.vacuous, Expr.vacuousEach_eq, vacuous_valueExpr]
  | noneOf => cases ns <;> simp [listExpr, Expr.vacuous, Expr.isEmptyAny]
  | allOf =>
    simp [listExpr, Expr.vacuous, Expr.vacuousEach_eq, vacuous_valueExpr, List.eq_nil_iff_forall_not_mem]
  | _ => simp [listExpr, Expr.vacuous, Expr.vacuousEach]

theorem vacuous_scalarExpr {P : Path} {op : Operator} {v : Value}
    (searched : op = .ne → ∃ a, valueExpr P Indexed.test (.scalar v) = .atom a) :
    (scalarExpr P op v).vacuous = false := by
  cases op with
  | eq => exact vacuous_valueExpr P _ _
  | ne =>
    obtain ⟨a, same⟩ := searched rfl
    rw [scalarExpr, same]
    rfl
  | like =>
    rw [scalarExpr, likeExpr]
    split <;> rfl
  | _ => rfl

theorem searched_of_compile {v : Value} (condition : IsCondition .ne (.scalar v) keys q) {r : Query}
    (compiled : (compiler.withDepth depth).compile q = .ok r) :
    ∃ a, valueExpr (keys.map Segment.key) Indexed.test (.scalar v) = .atom a := by
  obtain ⟨g, path, children, elements, s, made, u, found, generated⟩ := condition.generates compiled
  obtain ⟨_, rfl⟩ := yields_generator found
  obtain ⟨_, _, _, _, _, same⟩ := makes_equal generated
  exact ⟨_, same⟩

/-- The conditions that hold for the sake of their form exclude all of no values, or ask for all of them. -/
theorem vacuous_condition (condition : IsCondition op n keys q) {r : Query}
    (compiled : (compiler.withDepth depth).compile q = .ok r) (single : op.isCombinator = false) :
    (filterExpr [] q).vacuous ↔ (op = .noneOf ∨ op = .allOf) ∧ n = .sequence [] := by
  rw [condition_expr Expr.vacuous (fun e => Bool.and_true e.vacuous) condition]
  cases n with
  | scalar v =>
    have form : (scalarExpr (keys.map Segment.key) op v).vacuous = false := by
      refine vacuous_scalarExpr fun same => ?_
      subst same
      exact searched_of_compile condition compiled
    simp [entryExpr, form]
  | mapping es =>
    rw [entryExpr, Operator.ofName?_name]
    cases op <;> simp [Expr.vacuous, Expr.vacuousEach, Expr.isEmptyAny]
  | sequence ns =>
    rw [entryExpr, Operator.ofName?_name]
    cases op with
    | and | or | nor => cases single
    | _ => simp [vacuous_listExpr]

theorem within_of_compile (condition : IsCondition op n keys q) {r : Query}
    (compiled : (compiler.withDepth depth).compile q = .ok r) :
    depth ≤ 0 ∨ (keys.length : Int) ≤ depth := by
  have query := isQuery_of_compile compiled
  obtain ⟨_, _, within, _⟩ := (condition.isQuery_iff rfl []).mp query
  simpa [Language.Within, language, Compiler.withDepth] using within

/-- Conditions with the same operator and operand on different fields have different texts, unless they
have none. Fields are different by their first keys; where the depth is that of the dialect, there are no
other keys. Of operators that combine no filters, only those that exclude or ask for all of no values give
conditions that have no text. -/
theorem compile_texts_differ {key key' : String} {keys keys' : List String} {q' : Node} {r r' : Query}
    (condition : IsCondition op n (key :: keys) q) (condition' : IsCondition op n (key' :: keys') q')
    (compiled : (compiler.withDepth depth).compile q = .ok r)
    (compiled' : (compiler.withDepth depth).compile q' = .ok r')
    (different : key ≠ key' ∨ depth = 1 ∧ keys ≠ keys') :
    (r.text = r'.text → r.text = "") ∧ (op.isCombinator = false →
      (r.text = "" ↔ (op = .noneOf ∨ op = .allOf) ∧ n = .sequence [])) := by
  have apart : key ≠ key' := by
    rcases different with apart | ⟨rfl, other⟩
    · exact apart
    -- at the depth of the dialect there is no second key
    · have near := within_of_compile condition compiled
      have near' := within_of_compile condition' compiled'
      simp only [List.length_cons] at near near'
      have none : keys = [] := List.length_eq_zero_iff.mp (by omega)
      have none' : keys' = [] := List.length_eq_zero_iff.mp (by omega)
      exact absurd (none.trans none'.symm) other
  refine ⟨fun same => ?_, fun single => ?_⟩
  · by_contra text
    have begins := begins_condition condition compiled text
    have begins' := begins_condition condition' compiled' (same ▸ text)
    rw [same] at begins
    exact apart (begins.firstField_eq.symm.trans begins'.firstField_eq)
  · rw [← vacuous_condition condition compiled single]
    exact (compile_begins compiled).1

theorem compile_texts_differ_nested :
    let under (key : String) := Node.mapping [(key, .mapping [("x", .mapping
      [("$ne", .scalar (.bool true))])])]
    ∃ r r', (compiler.withDepth 0).compile (under "a") = .ok r ∧
      (compiler.withDepth 0).compile (under "b") = .ok r' ∧ r.text ≠ r'.text := by
  intro under
  have condition : ∀ key, isCommand key = false →
      IsCondition .ne (.scalar (.bool true)) [key, "x"] (under key) :=
    fun _ isField => .field isField (.field rfl .operator)
  obtain ⟨r, compiled⟩ : ∃ r, (compiler.withDepth 0).compile (under "a") = .ok r := ⟨_, rfl⟩
  obtain ⟨r', compiled'⟩ : ∃ r', (compiler.withDepth 0).compile (under "b") = .ok r' := ⟨_, rfl⟩
  obtain ⟨differ, text⟩ := compile_texts_differ (condition "a" rfl) (condition "b" rfl) compiled compiled'
    (.inl (by decide))
  refine ⟨r, r', compiled, compiled', fun same => ?_⟩
  have excluded := (text rfl).mp (differ same)
  simp at excluded

/-- Excluding no values says nothing of any field; and of a longer path only the first key is seen. -/
theorem compile_texts_coincide :
    let none (key : String) := Node.mapping [(key, .mapping [("$nin", .sequence [])])]
    let under (key : String) := Node.mapping [("a", .mapping [(key, .scalar (.bool true))])]
    (IsCondition .noneOf (.sequence []) ["a"] (none "a") ∧
      IsCondition .noneOf (.sequence []) ["b"] (none "b") ∧
      ∃ r r', (compiler.withDepth 1).compile (none "a") = .ok r ∧
        (compiler.withDepth 1).compile (none "b") = .ok r' ∧ r.text = r'.text) ∧
    IsCondition .eq (.scalar (.bool true)) ["a", "b"] (under "b") ∧
      IsCondition .eq (.scalar (.bool true)) ["a", "c"] (under "c") ∧
      ∃ r r', (compiler.withDepth 0).compile (under "b") = .ok r ∧
        (compiler.withDepth 0).compile (under "c") = .ok r' ∧ r.text = r'.text :=
  ⟨⟨.field rfl .operator, .field rfl .operator, _, _, rfl, rfl, rfl⟩,
    .field rfl (.equals rfl), .field rfl (.equals rfl), _, _, rfl, rfl, rfl⟩

end Conditions

end FilterQuery.Search
