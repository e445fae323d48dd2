import FilterQuery.Proofs.Compile.Grammar

/-!
# Replaced violations

The error that ends the walk of a document goes through the hook, which is called once if the error is a
violation or was caused by one, and not at all otherwise. The error that the artifact of the root cannot be
resolved with does not go through it, so that a violation reaches the caller in one way only
(`Rejection.leaks`).
-/

namespace FilterQuery.Compiler

open Generation

variable {σ α β : Type}

/-- The hook replaces every violation, by an error that neither is one nor was caused by one. -/
def Replaces (hook : Violation → StateM σ (Option CompileError)) : Prop :=
  ∀ v s, ∃ e t, (hook v).run s = (some e, t) ∧ e.violation? = none

/-! ### Two ends of a compilation -/

/-- The walk of the document ends with an error, in the given state. -/
def StopsWith (c : Compiler σ α β) (n : Node) (e : CompileError) (s : σ) : Prop :=
  outcome (c.generate n) c.dialect.start = (.error e, s)

/-- The walk yields an artifact, which is resolved with the given result and state. -/
def ResolvesTo (c : Compiler σ α β) (n : Node) (r : Except CompileError β) (t : σ) : Prop :=
  ∃ a s, Yields (c.generate n) c.dialect.start a s ∧ outcome (c.resolve a) s = (r, t)

variable {c : Compiler σ α β} {hook : Violation → StateM σ (Option CompileError)} {id : String}
  {n : Node} {e : CompileError} {r : Except CompileError β} {s t : σ}

theorem stopsWith_or_resolvesTo (c : Compiler σ α β) (n : Node) :
    (∃ e s, c.StopsWith n e s) ∨ ∃ r t, c.ResolvesTo n r t := by
  cases generated : outcome (c.generate n) c.dialect.start with
  | mk result s =>
    cases result with
    | error e => exact .inl ⟨e, s, generated⟩
    | ok a => exact .inr ⟨_, _, a, s, generated, rfl⟩

theorem StopsWith.error_eq {e' : CompileError} (stopped : c.StopsWith n e s)
    (stopped' : c.StopsWith n e' t) : e = e' := by
  have both := stopped.symm.trans stopped'
  exact Except.error.inj (Prod.mk.inj both).1

theorem StopsWith.not_resolvesTo (stopped : c.StopsWith n e s) : ¬c.ResolvesTo n r t := by
  rintro ⟨a, u, generated, _⟩
  have both := stopped.symm.trans generated
  cases both

theorem ResolvesTo.result_eq {r' : Except CompileError β} (resolved : c.ResolvesTo n r s)
    (resolved' : c.ResolvesTo n r' t) : r = r' := by
  obtain ⟨a, u, generated, here⟩ := resolved
  obtain ⟨a', u', generated', here'⟩ := resolved'
  have both := generated.symm.trans generated'
  cases both
  exact (Prod.mk.inj (here.symm.trans here')).1

/-! ### What each of them leaves behind -/

theorem StopsWith.cause (stopped : c.StopsWith n e s) : (c.runWith hook id n).cause = some e := by
  rw [runWith_of_error stopped]

theorem StopsWith.of_violation {v : Violation} {other : CompileError} (stopped : c.StopsWith n e s)
    (found : e.violation? = some v) (called : (hook v).run s = (some other, t)) :
    (c.runWith hook id n).result = .error other ∧ (c.runWith hook id n).state = t := by
  have replacement : (replaceWith hook e).run s = (other, t) := by
    unfold replaceWith
    rw [found]
    dsimp only
    rw [StateT.run_bind, called]
    rfl
  rw [runWith_of_error stopped, replacement]
  exact ⟨rfl, rfl⟩

theorem StopsWith.of_no_violation (stopped : c.StopsWith n e s) (none : e.violation? = none) :
    (c.runWith hook id n).result = .error e ∧ (c.runWith hook id n).state = s := by
  have kept : (replaceWith hook e).run s = (e, s) := by
    unfold replaceWith
    rw [none]
    rfl
  rw [runWith_of_error stopped, kept]
  exact ⟨rfl, rfl⟩

theorem ResolvesTo.kept (resolved : c.ResolvesTo n r t) :
    (c.runWith hook id n).result = r ∧ (c.runWith hook id n).state = t := by
  obtain ⟨a, s, generated, here⟩ := resolved
  rw [runWith_of_ok generated, here]
  exact ⟨rfl, rfl⟩

theorem ResolvesTo.cause (resolved : c.ResolvesTo n r t) :
    (c.runWith hook id n).cause = some e ↔ r = .error e := by
  obtain ⟨a, s, generated, here⟩ := resolved
  rw [runWith_of_ok generated, here]
  cases r with
  | ok b => exact iff_of_false nofun nofun
  | error found => rw [Option.some_inj, Except.error.injEq]

/-- What a compilation leaves behind where a hook replaces violations. -/
structure Rejection (c : Compiler σ α β) (hook : Violation → StateM σ (Option CompileError))
    (id : String) (n : Node) : Prop where
  /-- A violation that the walk stops on is replaced by one call of the hook, the last thing done. -/
  replaced {e : CompileError} {v : Violation} {s : σ} : c.StopsWith n e s → e.violation? = some v →
    ∃ other, (hook v).run s = (some other, (c.runWith hook id n).state) ∧
      (c.runWith hook id n).result = .error other ∧ other.violation? = none
  /-- After any other error nothing is called. -/
  kept {e : CompileError} {s : σ} : c.StopsWith n e s → e.violation? = none →
    (c.runWith hook id n).result = .error e ∧ (c.runWith hook id n).state = s
  /-- Nor is it after the root. -/
  resolved {r : Except CompileError β} {t : σ} : c.ResolvesTo n r t →
    (c.runWith hook id n).result = r ∧ (c.runWith hook id n).state = t
  /-- The error is observed as it was found. -/
  observed (e : CompileError) : (c.runWith hook id n).cause = some e ↔
    (∃ s, c.StopsWith n e s) ∨ ∃ t, c.ResolvesTo n (.error e) t
  /-- An error with a violation reaches the caller only from the root. -/
  leaks {e : CompileError} : e.violation? ≠ none →
    ((c.runWith hook id n).result = .error e ↔ ∃ t, c.ResolvesTo n (.error e) t)

theorem observed_iff : (c.runWith hook id n).cause = some e ↔
    (∃ s, c.StopsWith n e s) ∨ ∃ t, c.ResolvesTo n (.error e) t := by
  rcases c.stopsWith_or_resolvesTo n with ⟨found, s, stopped⟩ | ⟨r, t, resolved⟩
  · rw [stopped.cause, Option.some_inj]
    constructor
    · rintro rfl
      exact .inl ⟨s, stopped⟩
    · rintro (⟨_, stopped'⟩ | ⟨_, resolved⟩)
      · exact stopped.error_eq stopped'
      · exact absurd resolved stopped.not_resolvesTo
  · rw [resolved.cause]
    constructor
    · rintro rfl
      exact .inr ⟨t, resolved⟩
    · rintro (⟨_, stopped⟩ | ⟨_, resolved'⟩)
      · exact absurd resolved stopped.not_resolvesTo
      · exact resolved.result_eq resolved'

/-- Every violation that the walk of a document stops on is replaced by the hook, which is called for
nothing else. Other errors stay as they are, and so does a violation that the artifact of the root cannot
be resolved with. -/
theorem violations_of_walk_replaced (c : Compiler σ α β)
    {hook : Violation → StateM σ (Option CompileError)} (replaces : Replaces hook) (id : String)
    (n : Node) : c.Rejection hook id n := by
  have replaced {e : CompileError} {v : Violation} {s : σ} (stopped : c.StopsWith n e s)
      (found : e.violation? = some v) :
      ∃ other, (hook v).run s = (some other, (c.runWith hook id n).state) ∧
        (c.runWith hook id n).result = .error other ∧ other.violation? = none := by
    obtain ⟨other, t, called, clean⟩ := replaces v s
    obtain ⟨result, state⟩ : (c.runWith hook id n).result = .error other ∧
        (c.runWith hook id n).state = t := stopped.of_violation found called
    exact ⟨other, by rw [state, called], result, clean⟩
  refine ⟨replaced, StopsWith.of_no_violation, ResolvesTo.kept, fun e => observed_iff, ?_⟩
  intro e violated
  rcases c.stopsWith_or_resolvesTo n with ⟨cause, s, stopped⟩ | ⟨r, t, resolved⟩
  · refine iff_of_false (fun returned => ?_) (fun ⟨t, resolved⟩ => stopped.not_resolvesTo resolved)
    cases found : cause.violation? with
    | none =>
      rw [(stopped.of_no_violation found).1] at returned
      obtain rfl := Except.error.inj returned
      exact violated found
    | some v =>
      obtain ⟨other, _, result, clean⟩ := replaced stopped found
      rw [result] at returned
      obtain rfl := Except.error.inj returned
      exact violated clean
  · rw [resolved.kept.1]
    constructor
    · rintro rfl
      exact ⟨t, resolved⟩
    · rintro ⟨t', resolved'⟩
      exact resolved.result_eq resolved'

/-- The walk stops behind one operation, which the hook repeats. -/
theorem violations_of_walk_replaced_once :
    let hook : Violation → StateM Trace (Option CompileError) :=
      fun _ s => (some (.other "custom" none), s ++ s)
    let n := Node.mapping [("a", .scalar .null), ("$gt", .scalar .null)]
    let report := tracing.runWith hook "" n
    Replaces hook ∧ report.result = .error (.other "custom" none) ∧ report.state.length = 2 ∧
      ∃ v, report.cause = some (.violation v) := by
  intro hook n report
  have replaces : Replaces hook := fun v s => ⟨_, _, rfl, rfl⟩
  have rejection := violations_of_walk_replaced tracing replaces "" n
  obtain ⟨v, s, stopped, single⟩ : ∃ v s, tracing.StopsWith n (.violation v) s ∧ s.length = 1 :=
    ⟨_, _, rfl, rfl⟩
  obtain ⟨other, called, result, _⟩ := rejection.replaced stopped rfl
  obtain ⟨replacement, state⟩ := Prod.mk.inj called
  obtain rfl := Option.some.inj replacement
  refine ⟨replaces, result, ?_, v, (rejection.observed _).mpr (.inl ⟨s, stopped⟩)⟩
  rw [← state, List.length_append, single]

/-- A violation of the root is returned, and the hook is not called. -/
theorem runWith_root_violation :
    let v := Violation.ofNode .unexpectedValue (.mapping []) []
    let c : Compiler Trace String String :=
      { tracing with resolve := fun _ => throw (.violation v) }
    let hook : Violation → StateM Trace (Option CompileError) :=
      fun _ s => (some (.other "custom" none), s ++ s)
    let report := c.runWith hook "" (.mapping [])
    Replaces hook ∧ report.result = .error (.violation v) ∧ report.state.length = 1 :=
  ⟨fun _ _ => ⟨_, _, rfl, rfl⟩, rfl, rfl⟩

end FilterQuery.Compiler
