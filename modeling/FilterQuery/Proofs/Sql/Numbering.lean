import FilterQuery.Proofs.Sql.ReadBack

/-!
# Numbered expressions

`Expr.condition` gives the tests of an expression their arguments, numbered from left to right. The
condition stands for the expression, up to conjunctions and disjunctions of one member, and its
arguments are consecutive numbers (`Expr.numbers`).
-/

namespace FilterQuery.Sql

namespace Condition

mutual

/-- The numbers of the arguments, from left to right. -/
def args : Condition → List Nat
  | .always _ | .isNull _ | .isNotNull _ => []
  | .all cs | .any cs | .notAll cs | .notAny cs => argsEach cs
  | .compare _ _ arg | .like _ arg | .matchesRegex _ arg => [arg]
  | .isIn _ as | .isNotIn _ as | .holds _ as => as

def argsEach : List Condition → List Nat
  | [] => []
  | c :: cs => c.args ++ argsEach cs

end

theorem conj_wellFormed : ∀ {cs : List Condition}, EachWellFormed cs → (conj cs).WellFormed
  | [], _ => trivial
  | [_], each => each.1
  | _ :: _ :: _, each => ⟨by simp, each⟩

theorem disj_wellFormed : ∀ {cs : List Condition}, EachWellFormed cs → (disj cs).WellFormed
  | [], _ => trivial
  | [_], each => each.1
  | _ :: _ :: _, each => ⟨by simp, each⟩

theorem conj_expr : ∀ {cs : List Condition}, cs ≠ [] → (conj cs).expr = .conj (exprs cs)
  | [], nonempty => absurd rfl nonempty
  | [_], _ | _ :: _ :: _, _ => rfl

theorem disj_expr : ∀ {cs : List Condition}, cs ≠ [] → (disj cs).expr = .disj (exprs cs)
  | [], nonempty => absurd rfl nonempty
  | [_], _ | _ :: _ :: _, _ => rfl

theorem conj_args : ∀ cs : List Condition, (conj cs).args = argsEach cs
  | [] => rfl
  | [c] => (List.append_nil c.args).symm
  | _ :: _ :: _ => rfl

theorem disj_args : ∀ cs : List Condition, (disj cs).args = argsEach cs
  | [] => rfl
  | [c] => (List.append_nil c.args).symm
  | _ :: _ :: _ => rfl

end Condition

def Test.arity : Test → Nat
  | .isNull | .isNotNull => 0
  | .compare _ | .like | .matchesRegex => 1
  | .isIn count | .isNotIn count | .holds count => count

/-- The test of a column with arguments, the first of which has number `n`. -/
def Test.condition (n : Nat) (c : Column) : Test → Condition
  | .compare sign => .compare c sign n
  | .isNull => .isNull c
  | .isNotNull => .isNotNull c
  | .isIn count => .isIn c (List.range' n count)
  | .isNotIn count => .isNotIn c (List.range' n count)
  | .holds count => .holds c (List.range' n count)
  | .like => .like c n
  | .matchesRegex => .matchesRegex c n

namespace Expr

mutual

def arity : Expr → Nat
  | .const _ => 0
  | .all es | .any es => arityEach es
  | .not e => e.arity
  | .test _ t => t.arity

def arityEach : List Expr → Nat
  | [] => 0
  | e :: es => e.arity + arityEach es

end

mutual

/-- The condition of an expression, the first argument of which has number `n`. -/
def condition (n : Nat) : Expr → Condition
  | .const b => .always b
  | .all es => .conj (conditions n es)
  | .any es => .disj (conditions n es)
  | .not (.all es) => .nand (conditions n es)
  | .not (.any es) => .nor (conditions n es)
  | .not e => .nand [e.condition n]
  | .test c t => t.condition n c

def conditions (n : Nat) : List Expr → List Condition
  | [] => []
  | e :: es => e.condition n :: conditions (n + e.arity) es

end

mutual

/-- The expression without conjunctions and disjunctions of one member. -/
def unwrap : Expr → Expr
  | .const b => .const b
  | .all es => conj (unwrapEach es)
  | .any es => disj (unwrapEach es)
  | .not e => .not e.unwrap
  | .test c t => .test c t

def unwrapEach : List Expr → List Expr
  | [] => []
  | e :: es => e.unwrap :: unwrapEach es

end

mutual

/-- There are no empty conjunctions and disjunctions, and each test has a column and, if it is one of
a list, arguments. -/
def Proper : Expr → Prop
  | .const _ => True
  | .all es | .any es => es ≠ [] ∧ EachProper es
  | .not e => e.Proper
  | .test c (.isIn count) | .test c (.isNotIn count) | .test c (.holds count) => c ≠ [] ∧ count ≠ 0
  | .test c _ => c ≠ []

def EachProper : List Expr → Prop
  | [] => True
  | e :: es => e.Proper ∧ EachProper es

end

attribute [local simp] arity unwrap

/-- The condition stands for the expression, and its arguments have the numbers from `n` on. -/
structure Numbers (n : Nat) (e : Expr) (c : Condition) : Prop where
  wellFormed : c.WellFormed
  expr_eq : c.expr = e.unwrap
  args_eq : c.args = List.range' n e.arity

structure NumbersEach (n : Nat) (es : List Expr) (cs : List Condition) : Prop where
  nonempty : es ≠ [] → cs ≠ []
  wellFormed : Condition.EachWellFormed cs
  exprs_eq : Condition.exprs cs = unwrapEach es
  args_eq : Condition.argsEach cs = List.range' n (arityEach es)

theorem NumbersEach.cons {n : Nat} {e : Expr} {es : List Expr} {c : Condition} {cs : List Condition}
    (first : Numbers n e c) (rest : NumbersEach (n + e.arity) es cs) :
    NumbersEach n (e :: es) (c :: cs) where
  nonempty _ := by simp
  wellFormed := by
    rw [Condition.EachWellFormed]
    exact ⟨first.wellFormed, rest.wellFormed⟩
  exprs_eq := by rw [Condition.exprs, unwrapEach, first.expr_eq, rest.exprs_eq]
  args_eq := by
    rw [Condition.argsEach, arityEach, first.args_eq, rest.args_eq, List.range'_append_1]

section Members

variable {n : Nat} {es : List Expr} {cs : List Condition}

theorem numbers_conj (nonempty : es ≠ []) (each : NumbersEach n es cs) :
    Numbers n (.all es) (.conj cs) where
  wellFormed := Condition.conj_wellFormed each.wellFormed
  expr_eq := by rw [Condition.conj_expr (each.nonempty nonempty), each.exprs_eq, unwrap]
  args_eq := by rw [Condition.conj_args, each.args_eq, arity]

theorem numbers_disj (nonempty : es ≠ []) (each : NumbersEach n es cs) :
    Numbers n (.any es) (.disj cs) where
  wellFormed := Condition.disj_wellFormed each.wellFormed
  expr_eq := by rw [Condition.disj_expr (each.nonempty nonempty), each.exprs_eq, unwrap]
  args_eq := by rw [Condition.disj_args, each.args_eq, arity]

theorem numbers_nand (nonempty : es ≠ []) (each : NumbersEach n es cs) :
    Numbers n (.not (.all es)) (.nand cs) := by
  have members := each.nonempty nonempty
  obtain ⟨c, others, rfl⟩ := List.exists_cons_of_ne_nil members
  refine ⟨⟨members, each.wellFormed⟩, ?_, ?_⟩
  · rw [unwrap, unwrap, ← each.exprs_eq]
    rfl
  · rw [arity, arity, ← each.args_eq]
    rfl

theorem numbers_nor (nonempty : es ≠ []) (each : NumbersEach n es cs) :
    Numbers n (.not (.any es)) (.nor cs) := by
  have members := each.nonempty nonempty
  obtain ⟨c, others, rfl⟩ := List.exists_cons_of_ne_nil members
  refine ⟨⟨members, each.wellFormed⟩, ?_, ?_⟩
  · rw [unwrap, unwrap, ← each.exprs_eq]
    rfl
  · rw [arity, arity, ← each.args_eq]
    rfl

theorem NumbersEach.nil (n : Nat) : NumbersEach n [] [] where
  nonempty h := absurd rfl h
  wellFormed := trivial
  exprs_eq := rfl
  args_eq := rfl

theorem numbers_not {e : Expr} {c : Condition} (inner : Numbers n e c) :
    Numbers n (.not e) (.nand [c]) := by
  have negated := numbers_nand (by simp) (NumbersEach.cons inner (.nil _))
  refine ⟨negated.wellFormed, negated.expr_eq, ?_⟩
  rw [negated.args_eq]
  rfl

end Members

theorem numbers_test {n : Nat} {c : Column} {t : Test} (proper : (Expr.test c t).Proper) :
    Numbers n (.test c t) (t.condition n c) := by
  cases t with
  | isIn count | isNotIn count | holds count =>
    refine ⟨⟨proper.1, ?_⟩, ?_, rfl⟩
    · intro none
      exact proper.2 (by simpa using none)
    · simp [Test.condition, Condition.expr]
  | compare sign => exact ⟨proper, rfl, rfl⟩
  | isNull | isNotNull | like | matchesRegex => exact ⟨proper, rfl, rfl⟩

mutual

theorem numbers (n : Nat) : ∀ {e : Expr}, e.Proper → Numbers n e (e.condition n)
  | .const _, _ => ⟨trivial, rfl, rfl⟩
  | .all _, proper => numbers_conj proper.1 (numbersEach n proper.2)
  | .any _, proper => numbers_disj proper.1 (numbersEach n proper.2)
  | .not (.all _), proper => numbers_nand proper.1 (numbersEach n proper.2)
  | .not (.any _), proper => numbers_nor proper.1 (numbersEach n proper.2)
  -- a negation of anything but a group is a negated group of one member
  | .not (.const b), proper => numbers_not (numbers n (e := .const b) proper)
  | .not (.not e), proper => numbers_not (numbers n (e := .not e) proper)
  | .not (.test c t), proper => numbers_not (numbers n (e := .test c t) proper)
  | .test _ _, proper => numbers_test proper

theorem numbersEach (n : Nat) : ∀ {es : List Expr}, EachProper es →
    NumbersEach n es (conditions n es)
  | [], _ => .nil n
  | e :: _, proper => .cons (numbers n proper.1) (numbersEach (n + e.arity) proper.2)

end

end Expr

end FilterQuery.Sql
