import FilterQuery.Proofs.Compile.FirstViolation
import Mathlib.Data.List.Forall2

/-!
# Induction over compilations

A compilation that succeeds has called a generator for each entry of the document, with the
artifacts of the entries below. `Closed` lists the ways in which that happens, with the path of the
field as context: a relation that is closed under them holds of every entry of a compiled document
(`Closed.generate`). What a dialect makes of documents is proved from its generators alone in this
way.
-/

namespace FilterQuery.Compiler

open Generation

variable {ι σ α β : Type}

/-- The elements of a list run one after the other, and each adds at most one artifact. -/
inductive Chain (R : ι → σ → Option α → σ → Prop) : List ι → σ → List α → σ → Prop
  | nil (s : σ) : Chain R [] s [] s
  | cons {x : ι} {xs : List ι} {s t u : σ} {r : Option α} {as : List α} (first : R x s r t)
    (rest : Chain R xs t as u) : Chain R (x :: xs) s (r.toList ++ as) u

theorem Chain.forall₂ {R : ι → σ → Option α → σ → Prop} {Q : ι → α → Prop}
    (each : ∀ {x s r t}, R x s r t → ∃ a, r = some a ∧ Q x a) {xs : List ι} {s t : σ} {as : List α}
    (chain : Chain R xs s as t) : List.Forall₂ Q xs as := by
  induction chain with
  | nil => exact .nil
  | cons first _ ih =>
    obtain ⟨a, rfl, holds⟩ := each first
    exact .cons holds ih

def andGenerator (c : Compiler σ α β) : Generator σ α := (c.dialect.generator? .and).get c.andSupported

def eqGenerator (c : Compiler σ α β) : Generator σ α := (c.dialect.generator? .eq).get c.eqSupported

theorem generator?_and (c : Compiler σ α β) : c.dialect.generator? .and = some c.andGenerator :=
  (Option.some_get c.andSupported).symm

theorem generator?_eq (c : Compiler σ α β) : c.dialect.generator? .eq = some c.eqGenerator :=
  (Option.some_get c.eqSupported).symm

/-- The node is a filter on the field at `P` and was compiled from the entries that `E` describes. -/
def FilterOf (c : Compiler σ α β) (E : Path → String × Node → σ → Option α → σ → Prop) (P : Path)
    (n : Node) (s : σ) (r : Option α) (u : σ) : Prop :=
  ∃ es path as t, n = .mapping es ∧ Chain (E P) es s as t ∧
    Yields (c.andGenerator ⟨.and, path, P, n, as, []⟩) t r u

/-- The relation, between an entry of a filter on the field at a path, the state before, the
artifact and the state after, contains all that the compiler does with entries. -/
structure Closed (c : Compiler σ α β) (E : Path → String × Node → σ → Option α → σ → Prop) :
    Prop where
  field {P path : Path} {key : String} {es : List (String × Node)} {s t u : σ} {as : List α}
    {r : Option α} (isField : isCommand key = false) (entries : Chain (E (P ++ [.key key])) es s as t)
    (generated : Yields (c.andGenerator ⟨.and, path, P ++ [.key key], .mapping es, as, []⟩) t r u) :
    E P (key, .mapping es) s r u
  equals {P path : Path} {key : String} {v : Value} {s u : σ} {r : Option α}
    (isField : isCommand key = false) (within : c.language.Within (P ++ [.key key]))
    (generated : Yields (c.eqGenerator ⟨.eq, path, P ++ [.key key], .scalar v, [], []⟩) s r u) :
    E P (key, .scalar v) s r u
  combine {P path : Path} {key : String} {op : Operator} {g : Generator σ α} {ns : List Node}
    {s t u : σ} {as : List α} {r : Option α} (named : Operator.ofName? key = some op)
    (found : c.dialect.generator? op = some g) (combinator : op.isCombinator)
    (within : c.language.Within P) (filters : Chain (c.FilterOf E P) ns s as t)
    (generated : Yields (g ⟨op, path, P, .sequence ns, as, []⟩) t r u) : E P (key, .sequence ns) s r u
  negate {P path : Path} {key : String} {g : Generator σ α} {es : List (String × Node)} {s t u : σ}
    {as : List α} {r : Option α} (named : Operator.ofName? key = some .not)
    (found : c.dialect.generator? .not = some g) (onField : P ≠ []) (within : c.language.Within P)
    (entries : Chain (E P) es s as t)
    (generated : Yields (g ⟨.not, path, P, .mapping es, as, []⟩) t r u) : E P (key, .mapping es) s r u
  values {P path : Path} {key : String} {op : Operator} {g : Generator σ α} {ns : List Node}
    {s t u : σ} {parts : List (Part α)} {r : Option α} (named : Operator.ofName? key = some op)
    (found : c.dialect.generator? op = some g) (list : op.takesValues) (onField : P ≠ [])
    (within : c.language.Within P)
    (items : Yields (Node.foldItems c.step path (.sequence ns) 0 ns) s parts t)
    (generated : Yields (g ⟨op, path, P, .sequence ns, parts.filterMap Part.artifact?,
      parts.filterMap Part.literal?⟩) t r u) : E P (key, .sequence ns) s r u
  scalar {P path : Path} {key : String} {op : Operator} {g : Generator σ α} {v : Value} {s u : σ}
    {r : Option α} (named : Operator.ofName? key = some op)
    (found : c.dialect.generator? op = some g) (accepted : op.accepts (.scalar v)) (onField : P ≠ [])
    (within : c.language.Within P)
    (generated : Yields (g ⟨op, path, P, .scalar v, [], []⟩) s r u) : E P (key, .scalar v) s r u

/-! ### Steps that succeed -/

theorem yields_invoke {g : Generator σ α} {op : Operator} {data : Path} {v : Visit (Part α)}
    {s u : σ} {part : Option (Part α)} :
    Yields (invoke g op data v) s part u ↔
      ∃ r, Yields (g ⟨op, v.path, data, v.node, v.children.filterMap Part.artifact?,
        v.children.filterMap Part.literal?⟩) s r u ∧ r.map .artifact = part :=
  yields_map

theorem yields_invokeChecked {c : Compiler σ α β} {g : Generator σ α} {op : Operator} {data : Path}
    {v : Visit (Part α)} {s u : σ} {part : Option (Part α)}
    (found : c.dialect.generator? op = some g)
    (h : Yields (c.invokeChecked g op data v) s part u) :
    op.accepts v.node ∧ (op.needsField → data ≠ []) ∧ c.language.Within data ∧
      Yields (invoke g op data v) s part u := by
  have supported : c.language.supports op := by simp [language, found]
  unfold invokeChecked at h
  rw [check_eq c op data v supported] at h
  cases rule : c.language.operandViolation? op data v.node with
  | some kind =>
    rw [rule] at h
    exact absurd h yields_throw
  | none =>
    obtain ⟨_, accepted, onField, within⟩ := Language.operandViolation?_eq_none_iff.mp rule
    rw [rule] at h
    exact ⟨accepted, onField, within, h⟩

theorem yields_invoke_artifacts {g : Generator σ α} {op : Operator} {data path : Path} {n : Node}
    {parent : Option Node} {as : List α} {s u : σ} {part : Option (Part α)} :
    Yields (invoke g op data ⟨path, n, parent, as.map .artifact⟩) s part u ↔
      ∃ r, Yields (g ⟨op, path, data, n, as, []⟩) s r u ∧ r.map .artifact = part := by
  have artifacts : (as.map Part.artifact).filterMap Part.artifact? = as := by
    rw [List.filterMap_map]
    exact List.filterMap_some
  have literals : (as.map Part.artifact).filterMap Part.literal? = [] := by
    simp [Part.literal?]
  rw [yields_invoke, artifacts, literals]

theorem foldItems_scalars {c : Compiler σ α β} {path : Path} {parent : Node}
    {ns : List Node} (scalars : ∀ n ∈ ns, ∃ v, n = .scalar v) {i : Nat} {s t : σ}
    {parts : List (Part α)} (h : Yields (Node.foldItems c.step path parent i ns) s parts t) :
    t = s := by
  induction ns generalizing i s parts with
  | nil => exact (yields_pure.mp h).2.symm
  | cons n ns ih =>
    obtain ⟨v, rfl⟩ := scalars n List.mem_cons_self
    rw [Node.foldItems_cons] at h
    obtain ⟨part, _, first, afterFirst⟩ := yields_bind.mp h
    obtain ⟨more, _, rest, returned⟩ := yields_bind.mp afterFirst
    obtain ⟨rfl, rfl⟩ := yields_pure.mp returned
    rw [Node.foldAt, step] at first
    simp only [List.getLast?_concat, Node.isMapping] at first
    obtain ⟨rfl, rfl⟩ := yields_pure.mp first
    exact ih (fun m member => scalars m (List.mem_cons_of_mem _ member)) rest

/-! ### The induction -/

variable {c : Compiler σ α β} {E : Path → String × Node → σ → Option α → σ → Prop}

/-- What a closed relation says of a node, for the two kinds of places where artifacts come from:
below a key, and in a list of filters. -/
structure Described (c : Compiler σ α β) (E : Path → String × Node → σ → Option α → σ → Prop)
    (n : Node) : Prop where
  entry {path : Path} {key : String} {parent : Option Node} {s u : σ} {part : Option (Part α)} :
    Yields (n.foldAt c.step (path ++ [.key key]) parent) s part u →
      ∃ r, r.map .artifact = part ∧ E path.data (key, n) s r u
  filter {path : Path} {i : Int} {parent : Option Node} {s u : σ} {part : Option (Part α)} :
    path.endsInCombinator = true → n.isMapping →
      Yields (n.foldAt c.step (path ++ [.index i]) parent) s part u →
        ∃ r, r.map .artifact = part ∧ c.FilterOf E path.data n s r u

theorem entries_chain {es : List (String × Node)} (described : ∀ e ∈ es, c.Described E e.2)
    {path : Path} {parent : Node} {s u : σ} {parts : List (Part α)}
    (h : Yields (Node.foldEntries c.step path parent es) s parts u) :
    ∃ as, as.map .artifact = parts ∧ Chain (E path.data) es s as u := by
  induction es generalizing s parts with
  | nil =>
    obtain ⟨rfl, rfl⟩ := yields_pure.mp h
    exact ⟨[], rfl, .nil s⟩
  | cons e es ih =>
    obtain ⟨key, n⟩ := e
    rw [Node.foldEntries_cons] at h
    obtain ⟨part, t, first, h⟩ := yields_bind.mp h
    obtain ⟨more, _, rest, h⟩ := yields_bind.mp h
    obtain ⟨rfl, rfl⟩ := yields_pure.mp h
    obtain ⟨r, rfl, entry⟩ := (described (key, n) List.mem_cons_self).entry first
    obtain ⟨as, rfl, chain⟩ := ih (fun e member => described e (List.mem_cons_of_mem _ member)) rest
    exact ⟨r.toList ++ as, by cases r <;> simp, .cons entry chain⟩

theorem filters_chain {ns : List Node} (described : ∀ n ∈ ns, c.Described E n)
    (mappings : ∀ n ∈ ns, n.isMapping) {path : Path} (queries : path.endsInCombinator = true)
    {parent : Node} {i : Nat} {s u : σ} {parts : List (Part α)}
    (h : Yields (Node.foldItems c.step path parent i ns) s parts u) :
    ∃ as, as.map .artifact = parts ∧ Chain (c.FilterOf E path.data) ns s as u := by
  induction ns generalizing s parts i with
  | nil =>
    obtain ⟨rfl, rfl⟩ := yields_pure.mp h
    exact ⟨[], rfl, .nil s⟩
  | cons n ns ih =>
    rw [Node.foldItems_cons] at h
    obtain ⟨part, t, first, h⟩ := yields_bind.mp h
    obtain ⟨more, _, rest, h⟩ := yields_bind.mp h
    obtain ⟨rfl, rfl⟩ := yields_pure.mp h
    obtain ⟨r, rfl, filter⟩ := (described n List.mem_cons_self).filter queries
      (mappings n List.mem_cons_self) first
    obtain ⟨as, rfl, chain⟩ := ih (fun n member => described n (List.mem_cons_of_mem _ member))
      (fun n member => mappings n (List.mem_cons_of_mem _ member)) rest
    exact ⟨r.toList ++ as, by cases r <;> simp, .cons filter chain⟩

theorem Closed.operator (closed : c.Closed E) {n : Node}
    (items : ∀ ns, n = .sequence ns → ∀ m ∈ ns, c.Described E m)
    (entries : ∀ es, n = .mapping es → ∀ e ∈ es, c.Described E e.2) {path : Path} {key : String}
    {op : Operator} {g : Generator σ α} (named : Operator.ofName? key = some op)
    (found : c.dialect.generator? op = some g) {parent : Option Node} {s t u : σ}
    {children : List (Part α)} {part : Option (Part α)}
    (parts : Yields (n.foldParts c.step (path ++ [Segment.key key])) s children t)
    (h : Yields (c.invokeChecked g op path.data ⟨path ++ [Segment.key key], n, parent, children⟩)
      t part u) :
    ∃ r, r.map .artifact = part ∧ E path.data (key, n) s r u := by
  obtain ⟨accepted, onField, within, h⟩ := yields_invokeChecked found h
  have data := Path.data_append_operator path named
  have ends := Path.endsInCombinator_key path key
  rw [named, Option.any_some] at ends
  cases n with
  | scalar v =>
    obtain ⟨rfl, rfl⟩ := yields_pure.mp parts
    obtain ⟨r, generated, rfl⟩ := yields_invoke.mp h
    refine ⟨r, rfl, closed.scalar named found accepted (onField ?_) within generated⟩
    cases op <;> first | rfl | cases accepted
  | sequence ns =>
    rw [Operator.accepts_sequence, Bool.or_eq_true, Bool.and_eq_true, List.all_eq_true] at accepted
    rcases accepted with ⟨combinator, mappings⟩ | list
    -- only the items of a combinator are known to be filters on the same field
    · rw [combinator] at ends
      obtain ⟨as, rfl, filters⟩ := filters_chain (items ns rfl) mappings ends parts
      rw [data] at filters
      obtain ⟨r, generated, rfl⟩ := yields_invoke_artifacts.mp h
      exact ⟨r, rfl, closed.combine named found combinator within filters generated⟩
    · obtain ⟨r, generated, rfl⟩ := yields_invoke.mp h
      have needsField : op.needsField := by
        simp [Operator.needsField, Operator.not_isCombinator_of_takesValues list]
      exact ⟨r, rfl, closed.values named found list (onField needsField) within parts generated⟩
  | mapping es =>
    rw [Operator.accepts_mapping, beq_iff_eq] at accepted
    subst accepted
    obtain ⟨as, rfl, chain⟩ := entries_chain (entries es rfl) parts
    rw [data] at chain
    obtain ⟨r, generated, rfl⟩ := yields_invoke_artifacts.mp h
    exact ⟨r, rfl, closed.negate named found (onField rfl) within chain generated⟩

theorem Closed.entry (closed : c.Closed E) {n : Node}
    (items : ∀ ns, n = .sequence ns → ∀ m ∈ ns, c.Described E m)
    (entries : ∀ es, n = .mapping es → ∀ e ∈ es, c.Described E e.2) {path : Path} {key : String}
    {parent : Option Node} {s u : σ} {part : Option (Part α)}
    (h : Yields (n.foldAt c.step (path ++ [Segment.key key]) parent) s part u) :
    ∃ r, r.map .artifact = part ∧ E path.data (key, n) s r u := by
  rw [Node.foldAt_eq] at h
  obtain ⟨children, t, parts, h⟩ := yields_bind.mp h
  simp only [step, List.getLast?_concat, compileKey] at h
  cases named : Operator.ofName? key with
  | some op =>
    rw [named, Path.data_append_operator path named] at h
    dsimp only at h
    cases found : c.dialect.generator? op with
    | none => rw [found] at h; exact absurd h yields_throw
    | some g => rw [found] at h; exact closed.operator items entries named found parts h
  | none =>
    rw [named, Path.data_append_field path named] at h
    dsimp only at h
    cases isField : isCommand key with
    | true => rw [isField] at h; exact absurd h yields_throw
    | false =>
      rw [isField] at h
      cases n with
      | scalar v =>
        obtain ⟨rfl, rfl⟩ := yields_pure.mp parts
        obtain ⟨_, _, within, h⟩ := yields_invokeChecked c.generator?_eq h
        obtain ⟨r, generated, rfl⟩ := yields_invoke.mp h
        exact ⟨r, rfl, closed.equals isField within generated⟩
      | sequence ns => exact absurd h yields_throw
      | mapping es =>
        obtain ⟨as, rfl, chain⟩ := entries_chain (entries es rfl) parts
        rw [Path.data_append_field path named] at chain
        obtain ⟨r, generated, rfl⟩ := yields_invoke_artifacts.mp h
        exact ⟨r, rfl, closed.field isField chain generated⟩

theorem Closed.described (closed : c.Closed E) (n : Node) : c.Described E n := by
  -- items of a list of values need no case: `Closed.values` takes the fold of them as it is
  induction n using Node.induct with
  | scalar v =>
    exact ⟨closed.entry (fun _ same => by cases same) (fun _ same => by cases same),
      fun _ mapping => by cases mapping⟩
  | sequence ns ih =>
    exact ⟨closed.entry (fun _ same => by cases same; exact ih) (fun _ same => by cases same),
      fun _ mapping => by cases mapping⟩
  | mapping es ih =>
    refine ⟨closed.entry (fun _ same => by cases same) (fun _ same => by cases same; exact ih),
      fun queries _ h => ?_⟩
    rw [Node.foldAt_eq] at h
    obtain ⟨children, t, parts, h⟩ := yields_bind.mp h
    simp only [step, List.getLast?_concat, Node.isMapping, if_true] at h
    obtain ⟨as, rfl, chain⟩ := entries_chain ih parts
    obtain ⟨r, generated, rfl⟩ := yields_invoke_artifacts.mp h
    rw [Path.data_append_index, queries, if_pos rfl] at chain generated
    exact ⟨r, rfl, es, _, as, t, rfl, chain, generated⟩

theorem Closed.generate (closed : c.Closed E) {n : Node} {s u : σ} {a : α}
    (h : Yields (c.generate n) s a u) :
    ∃ r, c.FilterOf E [] n s r u ∧ a = r.getD c.dialect.blank := by
  rw [generate_eq] at h
  cases n with
  | mapping es =>
    obtain ⟨part, _, folded, h⟩ := yields_bind.mp h
    obtain ⟨rfl, rfl⟩ := yields_pure.mp h
    rw [Node.fold, Node.foldAt_eq] at folded
    obtain ⟨children, t, parts, folded⟩ := yields_bind.mp folded
    obtain ⟨as, rfl, chain⟩ := entries_chain (fun e _ => closed.described e.2) parts
    obtain ⟨r, generated, rfl⟩ := yields_invoke_artifacts.mp folded
    refine ⟨r, ⟨es, [], as, t, rfl, chain, generated⟩, ?_⟩
    cases r <;> rfl
  | _ => exact absurd h yields_throw

end FilterQuery.Compiler
