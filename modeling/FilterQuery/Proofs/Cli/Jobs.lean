import FilterQuery.Cli.Run
import FilterQuery.Proofs.Results

/-!
# Running commands

A job is run step by step (`Job.run_bind`). Loading the settings and reading the query are quiet: they only
note what they do in the log, and their results do not depend on what was printed or noted before.
-/

namespace FilterQuery.Cli

variable {ε α β : Type}

theorem Job.run_bind (j : Job α) (f : α → Job β) (o : Output) :
    (j >>= f).run.run o =
      match j.run.run o with
      | (.ok a, o') => (f a).run.run o'
      | (.error e, o') => (.error e, o') := by
  rw [FilterQuery.run_bind]
  cases StateT.run (ExceptT.run j) o with
  | mk result o' => cases result <;> rfl

/-- The job prints nothing, and has one result whatever the output is. -/
def Job.Quiet (j : Job α) : Prop :=
  ∃ r, ∀ o, ∃ log, j.run.run o = (r, { o with log := log })

namespace Job

theorem quiet_pure (a : α) : Quiet (pure a) := ⟨.ok a, fun o => ⟨o.log, rfl⟩⟩

theorem quiet_throw (e : Error) : Quiet (throw e : Job α) := ⟨.error e, fun o => ⟨o.log, rfl⟩⟩

theorem quiet_note (entries : List LogEntry) : Quiet (note entries) :=
  ⟨.ok (), fun o => ⟨o.log ++ entries, rfl⟩⟩

theorem quiet_lift (wrap : ε → Error) (x : Except ε α) : Quiet (lift wrap x) := by
  cases x with
  | ok a => exact quiet_pure a
  | error e => exact quiet_throw (wrap e)

theorem Quiet.bind {j : Job α} {f : α → Job β} (first : j.Quiet) (next : ∀ a, (f a).Quiet) :
    (j >>= f).Quiet := by
  obtain ⟨r, ran⟩ := first
  cases r with
  | error e =>
    refine ⟨.error e, fun o => ?_⟩
    obtain ⟨log, ran⟩ := ran o
    exact ⟨log, by rw [run_bind, ran]⟩
  | ok a =>
    obtain ⟨r, ran'⟩ := next a
    refine ⟨r, fun o => ?_⟩
    obtain ⟨log, ran⟩ := ran o
    obtain ⟨log', ran'⟩ := ran' { o with log := log }
    exact ⟨log', by rw [run_bind, ran]; exact ran'⟩

theorem Quiet.run_eq {j : Job α} {a : α} {o : Output} (quiet : j.Quiet) (ran : (j.run.run o).1 = .ok a)
    (o' : Output) : ∃ log, j.run.run o' = (.ok a, { o' with log := log }) := by
  obtain ⟨r, each⟩ := quiet
  obtain ⟨log, same⟩ := each o
  rw [same] at ran
  obtain rfl : r = .ok a := ran
  exact each o'

end Job

theorem quiet_loadSettings (w : Surroundings) (flags : Parsed) : (loadSettings w flags).Quiet := by
  unfold loadSettings
  dsimp only
  have settle (x : Except (List Config.Fault) Config.Settings) (path : String) :
      (do let settings ← Job.lift (fun fs => .config (.faults fs)) x
          Job.note [⟨"configuration loaded", [("file", path)]⟩]
          return settings : Job Config.Settings).Quiet :=
    (Job.quiet_lift _ x).bind fun settings => (Job.quiet_note _).bind fun _ => Job.quiet_pure settings
  split
  · exact (Job.quiet_pure []).bind fun file => settle _ _
  · exact (Job.quiet_lift _ _).bind fun file => settle _ _

theorem quiet_readQuery (w : Surroundings) (c : Call) : (readQuery w c).Quiet := by
  unfold readQuery
  refine (Job.quiet_lift _ _).bind fun format => ?_
  cases open? w c.path with
  | none => exact Job.quiet_throw _
  | some bytes => exact (Job.quiet_note _).bind fun _ => Job.quiet_lift _ _

end FilterQuery.Cli
