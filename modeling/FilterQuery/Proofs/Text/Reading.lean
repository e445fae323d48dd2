import Mathlib.Data.List.Basic
import Mathlib.Data.List.Forall2

/-!
# Readers of separated values

Readers of a value in front of a list of tokens, and the reader of values with a separator between
them. `sepBy_all` gives back what was joined, for any kind of token: a reader of the members has only
to leave what follows a member alone.
-/

namespace FilterQuery

/-- Reads a value from tokens; what follows it is left. -/
abbrev Parser (τ α : Type) := List τ → Option (α × List τ)

namespace Parser

variable {τ α : Type} [DecidableEq τ]

def expect (t : τ) : Parser τ Unit
  | u :: ts => if u = t then some ((), ts) else none
  | [] => none

/-- Reads values with a token between them, at most `more` after the first. -/
def sepBy (sep : τ) (item : Parser τ α) : Nat → Parser τ (List α)
  | 0, ts => (item ts).map fun (x, ts) => ([x], ts)
  | more + 1, ts => do
    let (x, ts) ← item ts
    match expect sep ts with
    | none => return ([x], ts)
    | some (_, ts) => (sepBy sep item more ts).map fun (xs, ts) => (x :: xs, ts)

end Parser

/-! ### Joined lists -/

section Joined

variable {τ : Type} (sep : τ)

theorem length_le_intercalate (tss : List (List τ)) :
    tss.length ≤ (List.intercalate [sep] tss).length + 1 := by
  induction tss with
  | nil => simp
  | cons ts tss ih =>
    cases tss with
    | nil => simp
    | cons us tss =>
      simp only [List.intercalate_cons_cons, List.length_append, List.length_cons] at ih ⊢
      omega

theorem mem_length_le_intercalate {tss : List (List τ)} {ts : List τ} (member : ts ∈ tss) :
    ts.length ≤ (List.intercalate [sep] tss).length := by
  induction tss with
  | nil => cases member
  | cons us tss ih =>
    cases tss with
    | nil =>
      obtain rfl := List.mem_singleton.mp member
      simp
    | cons vs tss =>
      simp only [List.intercalate_cons_cons, List.length_append]
      rcases List.mem_cons.mp member with same | later
      · subst same
        omega
      · have bound := ih later
        omega

theorem intercalate_append {tss uss : List (List τ)} (some : tss ≠ []) (more : uss ≠ []) :
    List.intercalate [sep] (tss ++ uss) =
      List.intercalate [sep] tss ++ sep :: List.intercalate [sep] uss := by
  induction tss with
  | nil => exact absurd rfl some
  | cons ts tss ih =>
    cases tss with
    | nil => simp [List.intercalate_cons_of_ne_nil more]
    | cons us tss =>
      have rest := ih (by simp)
      simp only [List.cons_append] at rest
      simp [List.intercalate_cons_cons, rest]

theorem map_intercalate {σ : Type} (f : τ → σ) (tss : List (List τ)) :
    (List.intercalate [sep] tss).map f = List.intercalate [f sep] (tss.map fun ts => ts.map f) := by
  induction tss with
  | nil => rfl
  | cons ts tss ih =>
    cases tss with
    | nil => simp
    | cons us tss =>
      rw [List.intercalate_cons_cons, List.map_append, ih]
      simp [List.intercalate_cons_cons]

end Joined

namespace Parser

variable {τ α : Type} [DecidableEq τ] {sep : τ} {item : Parser τ α}

theorem expect_eq_none {t : τ} {rest : List τ} (done : rest.head? ≠ some t) :
    expect t rest = none := by
  cases rest with
  | nil => rfl
  | cons u ts => exact if_neg fun same => done (by rw [same]; rfl)

theorem sepBy_single {ts rest : List τ} {x : α} (read : item ts = some (x, rest))
    (done : rest.head? ≠ some sep) (more : Nat) : sepBy sep item more ts = some ([x], rest) := by
  cases more with
  | zero => simp [sepBy, read]
  | succ more => simp [sepBy, read, expect_eq_none done]

/-- Values with a separator between them are read one by one. `Stops` is what the reader of a value
needs of the tokens that follow. -/
theorem sepBy_intercalate {Stops : List τ → Prop} (between : ∀ ts, Stops (sep :: ts))
    {tss : List (List τ)} {xs : List α} (nonempty : tss ≠ [])
    (each : List.Forall₂ (fun ts x => ∀ rest, Stops rest → item (ts ++ rest) = some (x, rest)) tss xs)
    {rest : List τ} (stops : Stops rest) (done : rest.head? ≠ some sep) {more : Nat}
    (enough : tss.length ≤ more + 1) :
    sepBy sep item more (List.intercalate [sep] tss ++ rest) = some (xs, rest) := by
  induction each generalizing more with
  | nil => exact absurd rfl nonempty
  | @cons ts x tss xs first others ih =>
    cases others with
    | nil =>
      rw [List.intercalate_singleton]
      exact sepBy_single (first rest stops) done more
    | @cons us y tss xs _ _ =>
      cases more with
      | zero => simp at enough
      | succ more =>
        have read := first (sep :: (List.intercalate [sep] (us :: tss) ++ rest)) (between _)
        have shorter : (us :: tss).length ≤ more + 1 := by simpa using enough
        have tail := ih (by simp) shorter
        simp [sepBy, read, tail, expect]

theorem sepBy_all {Stops : List τ → Prop} (between : ∀ ts, Stops (sep :: ts))
    {tss : List (List τ)} {xs : List α} (nonempty : tss ≠ [])
    (each : List.Forall₂ (fun ts x => ∀ rest, Stops rest → item (ts ++ rest) = some (x, rest)) tss xs)
    {rest : List τ} (stops : Stops rest) (done : rest.head? ≠ some sep) :
    sepBy sep item (List.intercalate [sep] tss ++ rest).length (List.intercalate [sep] tss ++ rest) =
      some (xs, rest) := by
  refine sepBy_intercalate between nonempty each stops done ?_
  have enough := length_le_intercalate sep tss
  rw [List.length_append]
  omega

/-- `sepBy_all` where the tokens and the values of the members are computed from them. -/
theorem sepBy_map {ι : Type} (tokens : ι → List τ) (value : ι → α) {Stops : List τ → Prop}
    (between : ∀ ts, Stops (sep :: ts)) {xs : List ι} (nonempty : xs ≠ [])
    (each : ∀ x ∈ xs, ∀ rest, Stops rest → item (tokens x ++ rest) = some (value x, rest))
    {rest : List τ} (stops : Stops rest) (done : rest.head? ≠ some sep) :
    sepBy sep item (List.intercalate [sep] (xs.map tokens) ++ rest).length
      (List.intercalate [sep] (xs.map tokens) ++ rest) = some (xs.map value, rest) := by
  refine sepBy_all between (by simpa using nonempty) ?_ stops done
  rw [List.forall₂_map_left_iff, List.forall₂_map_right_iff, List.forall₂_same]
  exact each

end Parser

end FilterQuery
