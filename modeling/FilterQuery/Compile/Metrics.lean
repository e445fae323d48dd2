import FilterQuery.Compile.Dialect

/-!
# Metrics

Counts of compilations by dialect and outcome.
-/

namespace FilterQuery

inductive Outcome where
  | ok
  | rejected
  | error
deriving DecidableEq, Repr

namespace Outcome

def name : Outcome → String
  | .ok => "ok"
  | .rejected => "rejected"
  | .error => "error"

/-- The outcome of a compilation that found the given error, if any. -/
def ofCause : Option CompileError → Outcome
  | none => .ok
  | some e => if e.violation?.isSome then .rejected else .error

end Outcome

/-- The compilations so far: the dialect and the outcome of each. -/
abbrev Metrics := List (String × Outcome)

namespace Metrics

structure Row where
  metric : String
  labels : List String
  count : Nat
deriving DecidableEq, Repr

def observe (dialect : String) (cause : Option CompileError) (m : Metrics) : Metrics :=
  (dialect, .ofCause cause) :: m

/-- Whether a list of labels comes before another one or is the same: the first difference
decides. -/
def labelsLe : List String → List String → Bool
  | [], _ => true
  | _ :: _, [] => false
  | a :: as, b :: bs => if a = b then labelsLe as bs else decide (a < b)

/-- Counts equal label lists; each list of labels comes once, in order. -/
def countRows (metric : String) (labels : List (List String)) : List Row :=
  let sorted := (labels.mergeSort labelsLe).eraseDups
  sorted.map fun l => ⟨metric, l, labels.count l⟩

/-- The rows of all metrics, sorted by metric and labels. -/
def rows (m : Metrics) : List Row :=
  countRows "criterium_compile_duration_seconds" (m.map fun e => [e.1]) ++
    countRows "criterium_compile_total" (m.map fun e => [e.1, e.2.name])

end Metrics

end FilterQuery
