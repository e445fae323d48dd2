import FilterQuery.Proofs.Compile.Generation
import FilterQuery.Proofs.Document.Postorder

/-!
# Two folds side by side

A relation between steps of two compilations that passes from steps to sequences of steps passes to folds
of documents as well (`Node.foldAt_related`). A property of one compilation is a relation that does not
look at the other.
-/

namespace FilterQuery

/-- A relation between the steps of two compilations that deal with the same nodes. -/
abbrev Generation.Relation (σ τ : Type) :=
  ∀ {γ : Type}, List Site → Generation σ γ → Generation τ γ → Prop

/-- The relation passes from the steps of a sequence to the sequence. -/
structure Generation.Relation.Sequential {σ τ : Type} (R : Generation.Relation σ τ) : Prop where
  pure {γ : Type} (a : γ) : R [] (pure a) (pure a)
  bind {γ δ : Type} {first rest : List Site} {g : Generation σ γ} {g' : Generation τ γ}
    {f : γ → Generation σ δ} {f' : γ → Generation τ δ} :
    R first g g' → (∀ a, R rest (f a) (f' a)) → R (first ++ rest) (g >>= f) (g' >>= f')

namespace Node

variable {σ τ ρ : Type} {R : Generation.Relation σ τ} {step : Visit ρ → Generation σ (Option ρ)}
  {step' : Visit ρ → Generation τ (Option ρ)}

theorem related_cons (sequential : R.Sequential) {first rest : List Site}
    {g : Generation σ (Option ρ)} {g' : Generation τ (Option ρ)} {f : Generation σ (List ρ)}
    {f' : Generation τ (List ρ)} (here : R first g g') (behind : R rest f f') :
    R (first ++ rest) (do let r ← g; let rs ← f; pure (r.toList ++ rs))
      (do let r ← g'; let rs ← f'; pure (r.toList ++ rs)) := by
  refine sequential.bind here fun r => ?_
  have last := sequential.bind behind fun rs => sequential.pure (r.toList ++ rs)
  rwa [List.append_nil] at last

theorem foldItems_related (sequential : R.Sequential) {ns : List Node}
    (each : ∀ n ∈ ns, ∀ path parent,
      R (postorderAt path n) (foldAt step path parent n) (foldAt step' path parent n))
    (path : Path) (parent : Node) (i : Nat) :
    R (postorderItems path i ns) (foldItems step path parent i ns)
      (foldItems step' path parent i ns) := by
  induction ns generalizing i with
  | nil => exact sequential.pure []
  | cons n ns ih =>
    have behind := ih (fun n member => each n (List.mem_cons_of_mem _ member)) (i + 1)
    exact related_cons sequential (each n List.mem_cons_self _ _) behind

theorem foldEntries_related (sequential : R.Sequential) {es : List (String × Node)}
    (each : ∀ e ∈ es, ∀ path parent,
      R (postorderAt path e.2) (foldAt step path parent e.2) (foldAt step' path parent e.2))
    (path : Path) (parent : Node) :
    R (postorderEntries path es) (foldEntries step path parent es)
      (foldEntries step' path parent es) := by
  induction es with
  | nil => exact sequential.pure []
  | cons e es ih =>
    have behind := ih fun e member => each e (List.mem_cons_of_mem _ member)
    exact related_cons sequential (each e List.mem_cons_self _ _) behind

theorem foldAt_related (sequential : R.Sequential)
    (steps : ∀ v, R [⟨v.path, v.node⟩] (step v) (step' v)) (n : Node) (path : Path)
    (parent : Option Node) :
    R (postorderAt path n) (foldAt step path parent n) (foldAt step' path parent n) := by
  induction n using Node.induct generalizing path parent with
  | scalar v => exact steps ⟨path, .scalar v, parent, []⟩
  | sequence ns ih =>
    exact sequential.bind (foldItems_related sequential ih path _ 0) fun results =>
      steps ⟨path, .sequence ns, parent, results⟩
  | mapping es ih =>
    exact sequential.bind (foldEntries_related sequential ih path _) fun results =>
      steps ⟨path, .mapping es, parent, results⟩

end Node

end FilterQuery
