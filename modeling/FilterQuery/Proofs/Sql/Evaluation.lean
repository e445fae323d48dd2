import FilterQuery.Proofs.Numeric.Exact
import FilterQuery.Proofs.Sql.Compiled

/-!
# Evaluating expressions

The truth value of an expression on a row, with arguments for its placeholders from left to right.
Logic has three values, and comparisons are those of exact numbers. Leaving out conjunctions and
disjunctions of one member does not change the value (`Expr.eval_unwrap`).
-/

namespace FilterQuery.Sql

/-! ### Truth values -/

/-- Unknown is `none`. -/
abbrev Truth := Option Bool

namespace Truth

def not (t : Truth) : Truth := t.map (!·)

def and : Truth → Truth → Truth
  | some false, _ | _, some false => some false
  | some true, some true => some true
  | _, _ => none

def or : Truth → Truth → Truth
  | some true, _ | _, some true => some true
  | some false, some false => some false
  | _, _ => none

def all (ts : List Truth) : Truth := ts.foldr and (some true)

def any (ts : List Truth) : Truth := ts.foldr or (some false)

theorem all_singleton (t : Truth) : all [t] = t := by
  rcases t with _ | _ | _ <;> rfl

theorem any_singleton (t : Truth) : any [t] = t := by
  rcases t with _ | _ | _ <;> rfl

theorem all_map_some (bs : List Bool) : all (bs.map some) = some (bs.all id) := by
  induction bs with
  | nil => rfl
  | cons b bs ih =>
    have step : all ((b :: bs).map some) = and (some b) (all (bs.map some)) := rfl
    rw [step, ih, List.all_cons]
    cases b <;> cases bs.all id <;> rfl

theorem any_map_some (bs : List Bool) : any (bs.map some) = some (bs.any id) := by
  induction bs with
  | nil => rfl
  | cons b bs ih =>
    have step : any ((b :: bs).map some) = or (some b) (any (bs.map some)) := rfl
    rw [step, ih, List.any_cons]
    cases b <;> cases bs.any id <;> rfl

end Truth

/-! ### Tests -/

/-- The exact value of a number column or argument. -/
def number? : Value → Option ℚ
  | .double x => x.value?
  | _ => none

def Sign.holds (x y : ℚ) : Sign → Bool
  | .eq => x = y
  | .ne => x ≠ y
  | .gt => x > y
  | .gte => x ≥ y
  | .lt => x < y
  | .lte => x ≤ y

/-- A comparison with something that is no number, null in particular, is unknown. -/
def Sign.compare (sign : Sign) (v w : Value) : Truth := do
  return sign.holds (← number? v) (← number? w)

theorem Sign.compare_ne (v w : Value) : Sign.compare .ne v w = .not (Sign.compare .eq v w) := by
  unfold Sign.compare
  cases number? v with
  | none => rfl
  | some x =>
    cases number? w with
    | none => rfl
    | some y => simp [Sign.holds, Truth.not]

/-- Whether a column with a value passes a test. The tests that are not about numbers are not told
apart: their value is unknown. -/
def Test.eval (v : Value) (args : List Value) : Test → Truth
  | .compare sign =>
    match args with
    | [w] => sign.compare v w
    | _ => none
  | .isNull => some v.isNull
  | .isNotNull => some !v.isNull
  | .isIn _ => .any (args.map (Sign.compare .eq v))
  | .isNotIn _ => .not (.any (args.map (Sign.compare .eq v)))
  | .holds _ | .like | .matchesRegex => none

/-! ### Expressions -/

abbrev Row := Column → Value

namespace Expr

mutual

/-- The truth value of an expression on a row. Each part takes as many arguments as it has
placeholders. -/
def eval (row : Row) : Expr → List Value → Truth
  | .const b, _ => some b
  | .all es, args => .all (evalEach row es args)
  | .any es, args => .any (evalEach row es args)
  | .not e, args => .not (e.eval row args)
  | .test c t, args => t.eval (row c) args

def evalEach (row : Row) : List Expr → List Value → List Truth
  | [], _ => []
  | e :: es, args => e.eval row (args.take e.arity) :: evalEach row es (args.drop e.arity)

end

theorem evalEach_append (row : Row) {e : Expr} {vs : List Value} (arity : e.arity = vs.length)
    (es : List Expr) (ws : List Value) :
    evalEach row (e :: es) (vs ++ ws) = e.eval row vs :: evalEach row es ws := by
  rw [evalEach, arity, List.take_left, List.drop_left]

/-! ### Lone members -/

theorem arity_conj : ∀ es : List Expr, (conj es).arity = arityEach es
  | [] | _ :: _ :: _ => by rw [conj, arity]; simp
  | [e] => by rw [conj, arityEach, arityEach, Nat.add_zero]

theorem arity_disj : ∀ es : List Expr, (disj es).arity = arityEach es
  | [] | _ :: _ :: _ => by rw [disj, arity]; simp
  | [e] => by rw [disj, arityEach, arityEach, Nat.add_zero]

mutual

theorem arity_unwrap : ∀ e : Expr, e.unwrap.arity = e.arity
  | .const _ | .test _ _ => rfl
  | .all es => by rw [unwrap, arity_conj, arityEach_unwrap es, arity]
  | .any es => by rw [unwrap, arity_disj, arityEach_unwrap es, arity]
  | .not e => by rw [unwrap, arity, arity, arity_unwrap e]

theorem arityEach_unwrap : ∀ es : List Expr, arityEach (unwrapEach es) = arityEach es
  | [] => rfl
  | e :: es => by rw [unwrapEach, arityEach, arityEach, arity_unwrap e, arityEach_unwrap es]

end

variable (row : Row)

theorem eval_conj {args : List Value} : ∀ {es : List Expr}, args.length ≤ arityEach es →
    (conj es).eval row args = .all (evalEach row es args)
  | [], _ | _ :: _ :: _, _ => by rw [conj, eval]; simp
  -- the lone member takes all the arguments, since there are no more than it has placeholders
  | [e], enough => by
    have whole : args.take e.arity = args := List.take_of_length_le enough
    rw [conj, evalEach, evalEach, Truth.all_singleton, whole]

theorem eval_disj {args : List Value} : ∀ {es : List Expr}, args.length ≤ arityEach es →
    (disj es).eval row args = .any (evalEach row es args)
  | [], _ | _ :: _ :: _, _ => by rw [disj, eval]; simp
  | [e], enough => by
    have whole : args.take e.arity = args := List.take_of_length_le enough
    rw [disj, evalEach, evalEach, Truth.any_singleton, whole]

mutual

theorem eval_unwrap : ∀ (e : Expr) {args : List Value}, args.length ≤ e.arity →
    e.unwrap.eval row args = e.eval row args
  | .const _, _, _ | .test _ _, _, _ => rfl
  | .all es, args, enough => by
    rw [arity, ← arityEach_unwrap] at enough
    rw [unwrap, eval_conj row enough, eval, evalEach_unwrap es]
    rwa [arityEach_unwrap] at enough
  | .any es, args, enough => by
    rw [arity, ← arityEach_unwrap] at enough
    rw [unwrap, eval_disj row enough, eval, evalEach_unwrap es]
    rwa [arityEach_unwrap] at enough
  | .not e, args, enough => by
    rw [unwrap, eval, eval, eval_unwrap e enough]

theorem evalEach_unwrap : ∀ (es : List Expr) {args : List Value}, args.length ≤ arityEach es →
    evalEach row (unwrapEach es) args = evalEach row es args
  | [], _, _ => rfl
  | e :: es, args, enough => by
    rw [arityEach] at enough
    have first : (args.take e.arity).length ≤ e.arity := by simp
    have rest : (args.drop e.arity).length ≤ arityEach es := by
      rw [List.length_drop]
      omega
    rw [unwrapEach, evalEach, evalEach, arity_unwrap, eval_unwrap e first, evalEach_unwrap es rest]

end

end Expr

end FilterQuery.Sql
