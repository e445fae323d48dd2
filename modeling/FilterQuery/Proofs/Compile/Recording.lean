import FilterQuery.Proofs.Compile.Generation
import FilterQuery.Proofs.Document.Postorder

/-!
# Recorded compilations

`recording` is a compiler that also writes down each call of a generator, with the operation and the
result. `Records` says of a step of it that it does what the step of the compiler itself does, and
which calls it adds to the record.
-/

namespace FilterQuery

namespace Compiler

open Generation

variable {σ α β γ δ : Type}

/-! ### Recorded compilations -/

structure Call (α : Type) where
  operation : Operation α
  result : Except CompileError (Option α)

namespace Call

def site (call : Call α) : Site := ⟨call.operation.path, call.operation.operand⟩

/-- The artifact of a call that neither fails nor drops its operation. -/
def artifact? (call : Call α) : Option α :=
  match call.result with
  | .ok r => r
  | .error _ => none

end Call

def artifactsAt (length : Nat) (calls : List (Call α)) : List α :=
  (calls.filter (·.operation.path.length = length)).filterMap Call.artifact?

/-- A step that leaves the record as it is. -/
def unrecorded (g : Generation σ γ) : Generation (σ × List (Call α)) γ :=
  ExceptT.mk fun (s, calls) => ((outcome g s).1, (outcome g s).2, calls)

def recorded (g : Generator σ α) : Generator (σ × List (Call α)) α := fun op =>
  ExceptT.mk fun (s, calls) =>
    ((outcome (g op) s).1, (outcome (g op) s).2, calls ++ [⟨op, (outcome (g op) s).1⟩])

def recording (c : Compiler σ α β) : Compiler (σ × List (Call α)) α β where
  dialect := {
    name := c.dialect.name
    generator? := fun op => (c.dialect.generator? op).map recorded
    depth := c.dialect.depth
    start := (c.dialect.start, [])
    blank := c.dialect.blank
    artifactName := c.dialect.artifactName
    resultName := c.dialect.resultName
    resolve? := c.dialect.resolve?.map fun resolve a => unrecorded (resolve a)
    reject := c.dialect.reject }
  resolve a := unrecorded (c.resolve a)
  andSupported := by simpa using c.andSupported
  eqSupported := by simpa using c.eqSupported

/-- The calls made while a document is compiled, in order, whether or not the compilation fails. -/
def calls (c : Compiler σ α β) (n : Node) : List (Call α) := (c.recording.run "" n).state.2

/-! ### Steps on record -/

/-- The first step does what the second does, and adds calls to the record that stand in a relation
to the result. -/
def Records (g' : Generation (σ × List (Call α)) γ) (g : Generation σ γ)
    (Q : Except CompileError γ → List (Call α) → Prop) : Prop :=
  ∀ s log, ∃ new, outcome g' (s, log) = ((outcome g s).1, (outcome g s).2, log ++ new) ∧
    Q (outcome g s).1 new

theorem Records.mono {g' : Generation (σ × List (Call α)) γ} {g : Generation σ γ}
    {Q R : Except CompileError γ → List (Call α) → Prop} (h : Records g' g Q)
    (weaker : ∀ r new, Q r new → R r new) : Records g' g R := by
  intro s log
  obtain ⟨new, same, holds⟩ := h s log
  exact ⟨new, same, weaker _ _ holds⟩

theorem records_pure {a : γ} {Q : Except CompileError γ → List (Call α) → Prop}
    (holds : Q (.ok a) []) : Records (pure a) (pure a : Generation σ γ) Q := by
  intro s log
  exact ⟨[], by simp [outcome_pure], holds⟩

theorem records_throw {e : CompileError} {Q : Except CompileError γ → List (Call α) → Prop}
    (holds : Q (.error e) []) : Records (throw e) (throw e : Generation σ γ) Q := by
  intro s log
  exact ⟨[], by simp [outcome_throw], holds⟩

theorem records_bind {g' : Generation (σ × List (Call α)) γ} {g : Generation σ γ}
    {f' : γ → Generation (σ × List (Call α)) δ} {f : γ → Generation σ δ}
    {Q : Except CompileError γ → List (Call α) → Prop}
    {R : Except CompileError δ → List (Call α) → Prop} (first : Records g' g Q)
    (fails : ∀ e new, Q (.error e) new → R (.error e) new)
    (rest : ∀ a new, Q (.ok a) new →
      Records (f' a) (f a) fun r more => R r (new ++ more)) :
    Records (g' >>= f') (g >>= f) R := by
  intro s log
  obtain ⟨new, same, holds⟩ := first s log
  -- both runs have the same result here, and so take the same branch
  rw [outcome_bind, outcome_bind, same]
  cases ran : outcome g s with
  | mk result t =>
    rw [ran] at holds
    cases result with
    | error e => exact ⟨new, rfl, fails e new holds⟩
    | ok a =>
      obtain ⟨more, same, holds⟩ := rest a new holds t (log ++ new)
      refine ⟨new ++ more, ?_, holds⟩
      simp only [same, List.append_assoc]

theorem records_map {g' : Generation (σ × List (Call α)) γ} {g : Generation σ γ} {f : γ → δ}
    {Q : Except CompileError γ → List (Call α) → Prop}
    {R : Except CompileError δ → List (Call α) → Prop} (first : Records g' g Q)
    (maps : ∀ r new, Q r new → R (r.map f) new) : Records (f <$> g') (f <$> g) R := by
  rw [map_eq_pure_bind, map_eq_pure_bind]
  refine records_bind first (fun e new holds => maps _ _ holds) fun a new holds => records_pure ?_
  rw [List.append_nil]
  exact maps _ _ holds

theorem records_recorded (g : Generator σ α) (op : Operation α) :
    Records (recorded g op) (g op) fun r new => new = [⟨op, r⟩] := by
  intro s log
  exact ⟨[⟨op, (outcome (g op) s).1⟩], rfl, rfl⟩

end Compiler

end FilterQuery
