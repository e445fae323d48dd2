import FilterQuery.Proofs.Compile.Grammar
import FilterQuery.Proofs.Compile.Induction

/-!
# Filters of one condition

A filter of one condition applies one operator to the field at a list of keys and asks for nothing else.
What a filter of that kind is, in whatever sense, is what its operator is at the path of the field
(`Node.IsCondition.descend`), and who compiles it calls the generator of the operator there
(`Node.IsCondition.generates`).
-/

namespace FilterQuery

/-- The generator of the operator is called with the operand at the path, and succeeds. -/
def Compiler.Generates {σ α β : Type} (c : Compiler σ α β) (op : Operator) (P : Path) (n : Node) : Prop :=
  ∃ g path children elements s r u, c.dialect.generator? op = some g ∧
    Generation.Yields (g ⟨op, path, P, n, children, elements⟩) s r u

/-- The document applies the operator with the operand to the field at the keys, and that is all. A field
with a scalar is another way to write `$eq`. -/
inductive Node.IsCondition : Operator → Node → List String → Node → Prop
  | operator {op : Operator} {n : Node} : IsCondition op n [] (.mapping [(op.name, n)])
  | equals {key : String} {v : Value} (isField : Compiler.isCommand key = false) :
    IsCondition .eq (.scalar v) [key] (.mapping [(key, .scalar v)])
  | field {op : Operator} {n q : Node} {key : String} {keys : List String}
    (isField : Compiler.isCommand key = false) (below : IsCondition op n keys q) :
    IsCondition op n (key :: keys) (.mapping [(key, q)])

namespace Node.IsCondition

universe u

variable {op : Operator} {n q : Node} {keys : List String}

/-- Where a filter with one entry is what the entry is, and the entry of a field is what stands under
it, a filter of one condition is what the entry of its operator is. -/
theorem descend {α : Sort u} {F : Path → Node → α} {E : Path → String → Node → α}
    (single : ∀ P key n, F P (.mapping [(key, n)]) = E P key n)
    (equals : ∀ P key v, Compiler.isCommand key = false →
      E P key (.scalar v) = E (P ++ [Segment.key key]) Operator.eq.name (.scalar v))
    (field : ∀ P key es, Compiler.isCommand key = false →
      E P key (.mapping es) = F (P ++ [Segment.key key]) (.mapping es))
    (condition : IsCondition op n keys q) (P : Path) :
    F P q = E (P ++ keys.map Segment.key) op.name n := by
  induction condition generalizing P with
  | operator => rw [single, List.map_nil, List.append_nil]
  | equals isField =>
    rw [single, equals _ _ _ isField]
    rfl
  | @field op n q key keys isField below ih =>
    obtain ⟨es, rfl⟩ : ∃ es, q = .mapping es := by cases below <;> exact ⟨_, rfl⟩
    rw [single, field _ _ _ isField, ih, List.map_cons, List.append_assoc, List.singleton_append]

theorem isQuery_iff {L : Language} (equality : L.supports .eq) (condition : IsCondition op n keys q)
    (P : Path) :
    L.IsQuery P q ↔ L.supports op ∧ (op.isCombinator = false → P ++ keys.map Segment.key ≠ []) ∧
      L.Within (P ++ keys.map Segment.key) ∧ L.IsOperand (P ++ keys.map Segment.key) op n := by
  rw [← Language.isEntry_operator (Operator.ofName?_name op)]
  refine Eq.to_iff (condition.descend (F := L.IsQuery) (E := L.IsEntry) ?_ ?_ ?_ P)
  · intro P key n
    rw [Language.isQuery_mapping, List.forall_mem_singleton]
  · intro P key v isField
    have noQuery : ¬L.IsQuery (P ++ [Segment.key key]) (.scalar v) := fun query => by cases query
    have operand : L.IsOperand (P ++ [Segment.key key]) .eq (.scalar v) := .scalar rfl rfl
    rw [Language.isEntry_field isField, Language.isEntry_operator (Operator.ofName?_name .eq)]
    simp [noQuery, operand, equality, Node.kind]
  · intro P key es isField
    rw [Language.isEntry_field isField]
    simp [Node.kind]

theorem eq_of_named {key : String} {op' : Operator} {m : Node} (named : Operator.ofName? key = some op')
    (condition : IsCondition op n keys (.mapping [(key, m)])) : op = op' ∧ n = m ∧ keys = [] := by
  cases condition with
  | operator =>
    rw [Operator.ofName?_name] at named
    exact ⟨Option.some.inj named, rfl, rfl⟩
  | equals isField | field isField =>
    rw [Operator.ofName?_of_field isField] at named
    cases named

section Generators

open Compiler

variable {σ α β : Type} {c : Compiler σ α β}

/-- What is compiled from an entry that is a condition includes the call of the generator of its
operator. -/
def EntryGenerates (c : Compiler σ α β) (P : Path) (e : String × Node) (_ : σ) (_ : Option α) (_ : σ) :
    Prop :=
  ∀ ⦃op n keys⦄, IsCondition op n keys (.mapping [e]) →
    c.Generates op (P ++ keys.map Segment.key) n

theorem generates_of_named {P path : Path} {key : String} {op' : Operator} {g : Generator σ α} {m : Node}
    {children : List α} {elements : List Node} {s u : σ} {r : Option α}
    (named : Operator.ofName? key = some op') (found : c.dialect.generator? op' = some g)
    (generated : Generation.Yields (g ⟨op', path, P, m, children, elements⟩) s r u) (s' u' : σ)
    (r' : Option α) : EntryGenerates c P (key, m) s' r' u' := by
  intro op n keys condition
  obtain ⟨rfl, rfl, rfl⟩ := condition.eq_of_named named
  rw [List.map_nil, List.append_nil]
  exact ⟨g, path, children, elements, s, r, u, found, generated⟩

theorem closed_entryGenerates (c : Compiler σ α β) : c.Closed (EntryGenerates c) where
  field {P _ key es _ _ _ _ _} isField entries _ := by
    intro op n keys condition
    cases condition with
    | operator =>
      rw [Operator.isCommand_name] at isField
      cases isField
    | field _ below =>
      obtain ⟨e, rfl⟩ : ∃ e, es = [e] := by cases below <;> exact ⟨_, rfl⟩
      cases entries with
      | cons first _ =>
        have deeper := first below
        rwa [List.append_assoc, List.singleton_append] at deeper
  equals {P path key v s u r} isField _ generated := by
    intro op n keys condition
    cases condition with
    | operator =>
      rw [Operator.isCommand_name] at isField
      cases isField
    | equals => exact ⟨_, path, [], [], s, r, u, c.generator?_eq, generated⟩
    | field _ below => cases below
  combine named found _ _ _ generated := generates_of_named named found generated _ _ _
  negate named found _ _ _ generated := generates_of_named named found generated _ _ _
  values named found _ _ _ _ generated := generates_of_named named found generated _ _ _
  scalar named found _ _ _ generated := generates_of_named named found generated _ _ _

theorem generates (condition : IsCondition op n keys q) {b : β} (compiled : c.compile q = .ok b) :
    c.Generates op (keys.map Segment.key) n := by
  obtain ⟨a, s, t, generated, _⟩ := compile_eq_ok_iff.mp compiled
  obtain ⟨r, ⟨es, path, as, u, rfl, chain, _⟩, _⟩ := (closed_entryGenerates c).generate generated
  obtain ⟨e, rfl⟩ : ∃ e, es = [e] := by cases condition <;> exact ⟨_, rfl⟩
  cases chain with
  | cons first _ => exact first condition

end Generators

end Node.IsCondition

end FilterQuery
