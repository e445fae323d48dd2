import FilterQuery.Proofs.Compile.Generation
import FilterQuery.Proofs.Document.Address
import FilterQuery.Proofs.Document.Postorder

/-!
# Blamed nodes

`Blames g P` says that the violations a step can fail with have the property `P`. A compilation blames
nodes of its filter: a check blames the node it looks at, and a generator a node of its operand. The
step at the root joins the entries and blames nothing, so what is blamed in a mapping stands in one of
its entries. That remains true of the document the filter was taken from.
-/

namespace FilterQuery

namespace Generation

variable {σ α β : Type} {P Q : Violation → Prop}

/-- Every violation that the step can fail with, from whatever state, has the property. -/
def Blames (g : Generation σ α) (P : Violation → Prop) : Prop :=
  ∀ s e v, Fails g s e → e.violation? = some v → P v

theorem Blames.imp {g : Generation σ α} (h : Blames g P) (weaker : ∀ v, P v → Q v) : Blames g Q :=
  fun s e v fails caused => weaker v (h s e v fails caused)

theorem blames_of_succeeds {g : Generation σ α} (succeeds : ∀ s, ∃ a t, outcome g s = (.ok a, t)) :
    Blames g P := by
  rintro s e v ⟨t, fails⟩ _
  obtain ⟨a, u, yields⟩ := succeeds s
  rw [yields] at fails
  cases fails

theorem blames_pure (a : α) : Blames (pure a : Generation σ α) P :=
  blames_of_succeeds fun s => ⟨a, s, rfl⟩

theorem blames_get : Blames (get : Generation σ σ) P := blames_of_succeeds fun s => ⟨s, s, rfl⟩

theorem blames_modify (f : σ → σ) : Blames (modify f : Generation σ PUnit) P :=
  blames_of_succeeds fun s => ⟨⟨⟩, f s, rfl⟩

theorem blames_throw {v : Violation} (h : P v) :
    Blames (throw (.violation v) : Generation σ α) P := by
  rintro s e w ⟨t, fails⟩ caused
  cases fails
  cases caused
  exact h

theorem blames_bind {g : Generation σ α} {f : α → Generation σ β} (first : Blames g P)
    (rest : ∀ a, Blames (f a) P) : Blames (g >>= f) P := by
  rintro s e v ⟨t, fails⟩ caused
  rw [outcome_bind] at fails
  split at fails
  · rename_i a u yields
    exact rest a u e v ⟨t, fails⟩ caused
  · rename_i cause u failed
    cases fails
    exact first s e v ⟨t, failed⟩ caused

theorem blames_map {g : Generation σ α} {f : α → β} (h : Blames g P) :
    Blames (do return f (← g)) P :=
  blames_bind h fun a => blames_pure (f a)

end Generation

open Generation

namespace Node

theorem getElem?_of_drop {all ns : List Node} {i : Nat} {n : Node} (h : all.drop i = n :: ns) :
    all[i]? = some n ∧ all.drop (i + 1) = ns := by
  constructor
  · rw [← List.head?_drop, h]
    rfl
  · rw [← List.tail_drop, h]
    rfl

variable {σ ρ : Type} {step : Visit ρ → Generation σ (Option ρ)}

theorem foldItems_blames {ns : List Node} {path : Path}
    (parts : ∀ n ∈ ns, ∀ path parent, Blames (foldAt step path parent n) (·.Locates path n))
    {parent : Node} {all : List Node} {i : Nat} (rest : all.drop i = ns) :
    Blames (foldItems step path parent i ns) (·.Locates path (.sequence all)) := by
  induction ns generalizing i with
  | nil => exact blames_pure _
  | cons n ns ih =>
    obtain ⟨there, behind⟩ := getElem?_of_drop rest
    rw [foldItems_cons]
    refine blames_bind ?_ fun r => blames_map ?_
    · exact (parts n List.mem_cons_self _ _).imp fun v located => located.item there
    · exact ih (fun n member => parts n (List.mem_cons_of_mem _ member)) behind

theorem foldEntries_blames {es : List (String × Node)} {path : Path}
    (parts : ∀ e ∈ es, ∀ path parent, Blames (foldAt step path parent e.2) (·.Locates path e.2))
    {parent : Node} :
    Blames (foldEntries step path parent es)
      (fun v => ∃ e ∈ es, v.Locates (path ++ [Segment.key e.1]) e.2) := by
  induction es with
  | nil => exact blames_pure _
  | cons e es ih =>
    obtain ⟨key, n⟩ := e
    rw [foldEntries_cons]
    refine blames_bind ?_ fun r => blames_map ?_
    · exact (parts (key, n) List.mem_cons_self _ _).imp fun v located =>
        ⟨(key, n), List.mem_cons_self, located⟩
    · refine (ih fun e member => parts e (List.mem_cons_of_mem _ member)).imp fun v => ?_
      rintro ⟨e, member, located⟩
      exact ⟨e, List.mem_cons_of_mem _ member, located⟩

theorem foldAt_blames (steps : ∀ v, Blames (step v) (·.Locates v.path v.node)) (n : Node)
    (path : Path) (parent : Option Node) : Blames (foldAt step path parent n) (·.Locates path n) := by
  induction n using Node.induct generalizing path parent with
  | scalar v => exact steps ⟨path, .scalar v, parent, []⟩
  | sequence ns ih =>
    refine blames_bind ?_ fun results => steps ⟨path, .sequence ns, parent, results⟩
    exact foldItems_blames (fun n member path parent => ih n member path parent) List.drop_zero
  | mapping es ih =>
    refine blames_bind ?_ fun results => steps ⟨path, .mapping es, parent, results⟩
    refine (foldEntries_blames fun e member path parent => ih e member path parent).imp fun v => ?_
    rintro ⟨e, member, located⟩
    exact located.entry member

end Node

namespace Compiler

variable {σ α β : Type} {c : Compiler σ α β}

/-- A compiler whose own steps blame nodes of the operand they are applied to, if any. The generator
of the conjunction blames nothing where it joins entries, nor does the last step, and no violation is
replaced. -/
structure Blaming (c : Compiler σ α β) : Prop where
  generates {op : Operator} {g : Generator σ α} :
    c.dialect.generator? op = some g → ∀ o, Blames (g o) (·.Locates o.path o.operand)
  joins {g : Generator σ α} :
    c.dialect.generator? .and = some g →
      ∀ o : Operation α, o.operator = .and → Blames (g o) fun _ => False
  resolves (a : α) : Blames (c.resolve a) fun _ => False
  kept (v : Violation) : c.dialect.reject v = none

namespace Blaming

theorem invokeAnd (blaming : c.Blaming) (data : Path) (v : Visit (Part α)) :
    Blames (c.invokeAnd data v) fun _ => False :=
  blames_map (blaming.joins (Option.some_get c.andSupported).symm _ rfl)

theorem invokeChecked (blaming : c.Blaming) {op : Operator} {g : Generator σ α}
    (found : c.dialect.generator? op = some g) (data : Path) (v : Visit (Part α)) :
    Blames (c.invokeChecked g op data v) (·.Locates v.path v.node) := by
  unfold Compiler.invokeChecked
  split
  · rename_i violation broken
    apply blames_throw
    -- each rule that an operand can break names the operand itself
    unfold check Operator.violation? at broken
    split at broken
    · rename_i found
      cases broken
      split at found
      · cases found
        exact Violation.locates_ofNode _ _ _
      · split at found
        · cases found
          exact Violation.locates_ofNode _ _ _
        · cases found
    · split at broken
      · cases broken
        exact Violation.locates_ofNode _ _ _
      · cases broken
  · exact blames_map (blaming.generates found _)

theorem compileField (blaming : c.Blaming) (data : Path) (v : Visit (Part α)) :
    Blames (c.compileField data v) (·.Locates v.path v.node) := by
  unfold Compiler.compileField
  split
  · exact (blaming.invokeAnd data v).imp fun _ never => never.elim
  · exact blames_throw (Violation.locates_ofNode _ _ _)
  · exact blaming.invokeChecked (Option.some_get c.eqSupported).symm data v

theorem step (blaming : c.Blaming) (v : Visit (Part α)) :
    Blames (c.step v) (·.Locates v.path v.node) := by
  unfold Compiler.step
  split
  · exact (blaming.invokeAnd [] v).imp fun _ never => never.elim
  · split
    · exact (blaming.invokeAnd _ v).imp fun _ never => never.elim
    · exact blames_pure _
  · unfold compileKey
    split
    · split
      · rename_i found
        exact blaming.invokeChecked found _ v
      · exact blames_throw (Violation.locates_ofNode _ _ _)
    · split
      · exact blames_throw (Violation.locates_ofNode _ _ _)
      · exact blaming.compileField _ v

theorem generate (blaming : c.Blaming) (es : List (String × Node)) :
    Blames (c.generate (.mapping es)) (fun v => ∃ e ∈ es, v.Locates [.key e.1] e.2) := by
  rw [generate_eq]
  unfold Node.fold
  simp only [Node.isMapping, if_true]
  refine blames_bind ?_ fun part => blames_pure _
  refine blames_bind ?_ fun results => ?_
  · exact Node.foldEntries_blames fun e _ path parent =>
      Node.foldAt_blames blaming.step e.2 path parent
  · exact (blaming.invokeAnd [] _).imp fun _ never => never.elim

theorem generate_other {n : Node} (other : n.isMapping = false) :
    Blames (c.generate n) (·.Locates [] n) := by
  rw [generate_eq, other]
  exact blames_throw (Violation.locates_ofNode _ _ _)

theorem compile (blaming : c.Blaming) {n : Node} {e : CompileError} {v : Violation}
    (failed : c.compile n = .error e) (caused : e.violation? = some v) :
    ∃ s, Fails (c.generate n) s e := by
  rw [compile_eq] at failed
  split at failed
  · rename_i cause s generated
    have same : c.replaced cause = cause := by
      unfold replaced
      split
      · rw [blaming.kept]
        rfl
      · rfl
    rw [same] at failed
    cases failed
    exact ⟨_, s, generated⟩
  · rename_i a s generated
    exact (blaming.resolves a s e v ⟨_, Prod.ext failed rfl⟩ caused).elim

theorem filter (blaming : c.Blaming) {q filter : Node} {m : Modifiers}
    (split : q.split = .ok (filter, m)) {e : CompileError} {v : Violation}
    (failed : c.compile filter = .error e) (caused : e.violation? = some v) : v.Locates [] q := by
  obtain ⟨s, fails⟩ := blaming.compile failed caused
  cases q with
  | mapping es =>
    obtain ⟨⟨kept, _⟩, separated, returned⟩ := bind_eq_ok.mp split
    cases returned
    obtain ⟨entry, member, located⟩ := blaming.generate kept s e v fails caused
    exact .entry (Modifiers.splitEntries_subset separated member) located
  | _ =>
    -- without entries there are no modifiers, and the filter is the document
    cases split
    exact generate_other rfl s e v fails caused

end Blaming

end Compiler

theorem Node.split_locates {q : Node} {v : Violation} (h : q.split = .error v) : v.Locates [] q := by
  cases q with
  | mapping es =>
    rcases bind_eq_error.mp h with separating | ⟨_, _, returned⟩
    · exact Modifiers.splitEntries_locates (List.Subset.refl _) separating
    · cases returned
  | _ => cases h

end FilterQuery
