import FilterQuery.Compile.Compiler
import FilterQuery.Proofs.Document.Fold
import FilterQuery.Proofs.Results

/-!
# Steps of a compilation

`Yields` says that a step succeeds, with which value and in which state it ends. The lemmas take
steps apart in this form, so that no other proof looks into the monad.
-/

namespace FilterQuery.Generation

variable {σ α β : Type}

/-- The result of a step and the state it ends in. -/
def outcome (g : Generation σ α) (s : σ) : Except CompileError α × σ := g.run.run s

/-- The step succeeds from `s` with the value `a` and ends in `t`. -/
def Yields (g : Generation σ α) (s : σ) (a : α) (t : σ) : Prop := outcome g s = (.ok a, t)

def Fails (g : Generation σ α) (s : σ) (e : CompileError) : Prop := ∃ t, outcome g s = (.error e, t)

theorem outcome_pure (a : α) (s : σ) : outcome (pure a : Generation σ α) s = (.ok a, s) := rfl

theorem outcome_throw (e : CompileError) (s : σ) :
    outcome (throw e : Generation σ α) s = (.error e, s) := rfl

theorem outcome_bind (g : Generation σ α) (f : α → Generation σ β) (s : σ) :
    outcome (g >>= f) s =
      match outcome g s with
      | (.ok a, t) => outcome (f a) t
      | (.error e, t) => (.error e, t) := by
  unfold outcome
  rw [run_bind]
  cases StateT.run (ExceptT.run g) s with
  | mk result t => cases result <;> rfl

@[simp] theorem yields_pure {a b : α} {s t : σ} :
    Yields (pure a : Generation σ α) s b t ↔ a = b ∧ s = t := by
  simp [Yields, outcome_pure]

@[simp] theorem yields_throw {e : CompileError} {a : α} {s t : σ} :
    ¬Yields (throw e : Generation σ α) s a t := by
  simp [Yields, outcome_throw]

theorem yields_bind {g : Generation σ α} {f : α → Generation σ β} {s u : σ} {b : β} :
    Yields (g >>= f) s b u ↔ ∃ a t, Yields g s a t ∧ Yields (f a) t b u := by
  unfold Yields
  rw [outcome_bind]
  constructor
  · intro h
    split at h
    · rename_i a t first
      exact ⟨a, t, first, h⟩
    · simp at h
  · rintro ⟨a, t, first, rest⟩
    rw [first]
    exact rest

theorem yields_map {g : Generation σ α} {f : α → β} {s t : σ} {b : β} :
    Yields (f <$> g) s b t ↔ ∃ a, Yields g s a t ∧ f a = b := by
  rw [map_eq_pure_bind, yields_bind]
  constructor
  · rintro ⟨a, _, first, rest⟩
    obtain ⟨rfl, rfl⟩ := yields_pure.mp rest
    exact ⟨a, first, rfl⟩
  · rintro ⟨a, first, rfl⟩
    exact ⟨a, t, first, yields_pure.mpr ⟨rfl, rfl⟩⟩

theorem fails_throw (e : CompileError) (s : σ) : Fails (throw e : Generation σ α) s e := ⟨s, rfl⟩

theorem fails_bind {g : Generation σ α} {f : α → Generation σ β} {s : σ} {e : CompileError}
    (h : Fails g s e) : Fails (g >>= f) s e := by
  obtain ⟨t, h⟩ := h
  exact ⟨t, by rw [outcome_bind, h]⟩

theorem fails_bind_of_yields {g : Generation σ α} {f : α → Generation σ β} {s t : σ} {a : α}
    {e : CompileError} (first : Yields g s a t) (rest : Fails (f a) t e) : Fails (g >>= f) s e := by
  obtain ⟨u, rest⟩ := rest
  exact ⟨u, by rw [outcome_bind, first]; exact rest⟩

end FilterQuery.Generation

namespace FilterQuery.Compiler

open Generation

variable {σ α β : Type}

variable {c : Compiler σ α β} {hook : Violation → StateM σ (Option CompileError)} {id : String}
  {n : Node}

/-- A compilation walks the document with its step. -/
theorem generate_eq (c : Compiler σ α β) (n : Node) :
    c.generate n =
      if n.isMapping then do
        let part ← n.fold c.step
        return (part.bind Part.artifact?).getD c.dialect.blank
      else throw (.violation (.ofNode .unexpectedValue n [])) := by
  unfold generate
  split
  · have walked : n.reduce c.reducer c.noPart =
        Reduction.ofOutcome c.noPart <$> (n.fold c.step).run :=
      Node.reduceAt_reducerOf c.step c.noPart n [] none
    refine ExceptT.ext ?_
    rw [walked, ExceptT.run_bind, ExceptT.run_bind, ExceptT.run_lift, Functor.map_map, bind_map_left]
    refine bind_congr fun outcome => ?_
    rcases outcome with e | (_ | part) <;> rfl
  · rfl

theorem runWith_of_error {e : CompileError} {s : σ}
    (stopped : outcome (c.generate n) c.dialect.start = (.error e, s)) :
    c.runWith hook id n =
      { result := .error ((replaceWith hook e).run s).1
        cause := some e
        log := c.startEntry id :: (e.violation?.map (c.rejectEntry id)).toList
        state := ((replaceWith hook e).run s).2 } := by
  unfold outcome at stopped
  rw [runWith, stopped]
  rfl

theorem runWith_of_ok {a : α} {s : σ} (generated : Yields (c.generate n) c.dialect.start a s) :
    c.runWith hook id n =
      { result := (outcome (c.resolve a) s).1
        cause := match (outcome (c.resolve a) s).1 with
          | .ok _ => none
          | .error e => some e
        log := [c.startEntry id]
        state := (outcome (c.resolve a) s).2 } := by
  unfold Yields outcome at generated
  rw [runWith, generated]
  rfl

theorem replaceWith_reject (c : Compiler σ α β) (e : CompileError) (s : σ) :
    (replaceWith (fun v => pure (c.dialect.reject v)) e).run s = (c.replaced e, s) := by
  unfold replaceWith replaced
  cases e.violation? <;> rfl

theorem compile_eq (c : Compiler σ α β) (n : Node) :
    c.compile n =
      match outcome (c.generate n) c.dialect.start with
      | (.error e, _) => .error (c.replaced e)
      | (.ok a, s) => (outcome (c.resolve a) s).1 := by
  unfold compile run
  cases generated : outcome (c.generate n) c.dialect.start with
  | mk result s =>
    cases result with
    | error e => rw [runWith_of_error generated, replaceWith_reject]
    | ok a => rw [runWith_of_ok generated]

theorem compile_eq_ok_iff {c : Compiler σ α β} {n : Node} {b : β} :
    c.compile n = .ok b ↔
      ∃ a s t, Yields (c.generate n) c.dialect.start a s ∧ Yields (c.resolve a) s b t := by
  rw [compile_eq]
  constructor
  · intro h
    split at h
    · cases h
    · rename_i a s generated
      exact ⟨a, s, (outcome (c.resolve a) s).2, generated, by rw [Yields, ← h]⟩
  · rintro ⟨a, s, t, generated, resolved⟩
    rw [generated]
    exact congrArg Prod.fst resolved

theorem compile_of_fails {c : Compiler σ α β} {n : Node} {e : CompileError}
    (h : Fails (c.generate n) c.dialect.start e) : c.compile n = .error (c.replaced e) := by
  obtain ⟨s, generated⟩ := h
  rw [compile_eq, generated]

end FilterQuery.Compiler
