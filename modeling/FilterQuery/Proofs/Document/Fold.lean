import FilterQuery.Document.Fold

/-!
# Folds by steps

A reducer that gives either an error or an optional result is a step in a monad with exceptions.
`foldAt` walks a document with such a step, and `reduceAt_reducerOf` says that this is the fold with
the reducer.
-/

namespace FilterQuery.Node

variable {m : Type → Type} [Monad m] {ρ ε : Type}

mutual

def foldAt (step : Visit ρ → m (Option ρ)) (path : Path) (parent : Option Node) :
    Node → m (Option ρ)
  | .scalar v => step ⟨path, .scalar v, parent, []⟩
  | .sequence items => do
    let results ← foldItems step path (.sequence items) 0 items
    step ⟨path, .sequence items, parent, results⟩
  | .mapping entries => do
    let results ← foldEntries step path (.mapping entries) entries
    step ⟨path, .mapping entries, parent, results⟩

/-- Folds list items, the first of which has the index `i`. -/
def foldItems (step : Visit ρ → m (Option ρ)) (path : Path) (parent : Node) (i : Nat) :
    List Node → m (List ρ)
  | [] => pure []
  | n :: ns => do
    let result ← foldAt step (path ++ [.index i]) (some parent) n
    let results ← foldItems step path parent (i + 1) ns
    pure (result.toList ++ results)

def foldEntries (step : Visit ρ → m (Option ρ)) (path : Path) (parent : Node) :
    List (String × Node) → m (List ρ)
  | [] => pure []
  | (key, n) :: es => do
    let result ← foldAt step (path ++ [.key key]) (some parent) n
    let results ← foldEntries step path parent es
    pure (result.toList ++ results)

end

def fold (step : Visit ρ → m (Option ρ)) (n : Node) : m (Option ρ) := foldAt step [] none n

section Unfolding

variable (step : Visit ρ → m (Option ρ)) (path : Path)

def foldParts : Node → m (List ρ)
  | .scalar _ => pure []
  | .sequence items => foldItems step path (.sequence items) 0 items
  | .mapping entries => foldEntries step path (.mapping entries) entries

theorem foldAt_eq [LawfulMonad m] (parent : Option Node) (n : Node) :
    foldAt step path parent n =
      foldParts step path n >>= fun results => step ⟨path, n, parent, results⟩ := by
  cases n with
  | scalar v => exact (pure_bind [] fun results => step ⟨path, .scalar v, parent, results⟩).symm
  | sequence ns => rfl
  | mapping es => rfl

theorem foldItems_cons (parent : Node) (i : Nat) (n : Node) (ns : List Node) :
    foldItems step path parent i (n :: ns) =
      foldAt step (path ++ [Segment.index i]) (some parent) n >>= fun result =>
        foldItems step path parent (i + 1) ns >>= fun results => pure (result.toList ++ results) :=
  rfl

theorem foldEntries_cons (parent : Node) (key : String) (n : Node) (es : List (String × Node)) :
    foldEntries step path parent ((key, n) :: es) =
      foldAt step (path ++ [Segment.key key]) (some parent) n >>= fun result =>
        foldEntries step path parent es >>= fun results => pure (result.toList ++ results) :=
  rfl

end Unfolding

/-! ### Reducers and steps -/

section Steps

variable [LawfulMonad m] (step : Visit ρ → ExceptT ε m (Option ρ)) (zero : ρ)

/-- The reducer that a step is. -/
def reducerOf (v : Visit ρ) : m (Reduction ρ ε) := Reduction.ofOutcome zero <$> (step v).run

theorem reducerOf_parts (parts : ExceptT ε m (List ρ)) (visit : List ρ → Visit ρ) :
    (parts.run >>= fun
      | .error e => pure ⟨zero, false, some e⟩
      | .ok results => reducerOf step zero (visit results)) =
      Reduction.ofOutcome zero <$> (parts >>= fun results => step (visit results)).run := by
  rw [ExceptT.run_bind, map_bind]
  refine bind_congr fun outcome => ?_
  cases outcome <;> simp [reducerOf, Reduction.ofOutcome]

theorem reducerOf_each (first : ExceptT ε m (Option ρ)) (rest : ExceptT ε m (List ρ)) :
    (Reduction.ofOutcome zero <$> first.run >>= fun r =>
      match r.error with
      | some e => pure (.error e)
      | none => rest.run >>= fun results => pure (results.map (r.result?.toList ++ ·))) =
      (first >>= fun result => rest >>= fun results => pure (result.toList ++ results)).run := by
  rw [bind_map_left, ExceptT.run_bind]
  refine bind_congr fun outcome => ?_
  rcases outcome with e | (_ | r)
  · simp [Reduction.ofOutcome]
  · have same : (Except.map fun rs : List ρ => rs) = (id : Except ε (List ρ) → _) := Except.map_id
    simp [Reduction.ofOutcome, Reduction.result?, same]
  · simp [Reduction.ofOutcome, Reduction.result?]

mutual

theorem reduceAt_reducerOf (n : Node) (path : Path) (parent : Option Node) :
    reduceAt (reducerOf step zero) zero path parent n =
      Reduction.ofOutcome zero <$> (foldAt step path parent n).run := by
  cases n with
  | scalar v => rw [reduceAt, foldAt, reducerOf]
  | sequence ns =>
    rw [reduceAt, foldAt, reduceItems_reducerOf ns]
    exact reducerOf_parts step zero _ fun results => ⟨path, .sequence ns, parent, results⟩
  | mapping es =>
    rw [reduceAt, foldAt, reduceEntries_reducerOf es]
    exact reducerOf_parts step zero _ fun results => ⟨path, .mapping es, parent, results⟩

theorem reduceItems_reducerOf (ns : List Node) (path : Path) (parent : Node) (i : Nat) :
    reduceItems (reducerOf step zero) zero path parent i ns =
      (foldItems step path parent i ns).run := by
  cases ns with
  | nil => rw [reduceItems, foldItems, ExceptT.run_pure]
  | cons n ns =>
    rw [reduceItems, foldItems, reduceAt_reducerOf n, reduceItems_reducerOf ns]
    exact reducerOf_each zero _ _

theorem reduceEntries_reducerOf (es : List (String × Node)) (path : Path) (parent : Node) :
    reduceEntries (reducerOf step zero) zero path parent es =
      (foldEntries step path parent es).run := by
  cases es with
  | nil => rw [reduceEntries, foldEntries, ExceptT.run_pure]
  | cons e es =>
    rw [reduceEntries, foldEntries, reduceAt_reducerOf e.2, reduceEntries_reducerOf es]
    exact reducerOf_each zero _ _

end

end Steps

end FilterQuery.Node
