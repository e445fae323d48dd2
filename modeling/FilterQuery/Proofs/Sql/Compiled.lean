import FilterQuery.Proofs.Compile.Induction
import FilterQuery.Proofs.Sql.Numbering
import FilterQuery.Sql.Dialect

/-!
# What filters compile to

`filterExpr` is the boolean expression of a filter, found top-down with the path of the field as
context, and `operands` the values that the filter binds, in document order. The compiler makes the
condition of the one and binds the others (`compile_filterExpr`).
-/

namespace FilterQuery.Sql

open Generation Compiler

/-! ### The expression of a filter -/

namespace Expr

def allOf : List Expr → Expr
  | [] => .const true
  | es => .all es

def anyOf : List Expr → Expr
  | [] => .const false
  | es => .any es

def noneOf : List Expr → Expr
  | [] => .const true
  | es => .not (.any es)

def notAllOf : List Expr → Expr
  | [] => .const false
  | es => .not (.all es)

end Expr

def isTrue : Value → Bool
  | .bool b => b
  | _ => false

def scalarExpr (c : Column) (op : Operator) (v : Value) : Expr :=
  match op with
  | .eq =>
    .test c (if v.isNull then .isNull else if v.isRegex then .matchesRegex else .compare .eq)
  | .ne => .test c (if v.isNull then .isNotNull else .compare .ne)
  | .gt => .test c (.compare .gt)
  | .gte => .test c (.compare .gte)
  | .lt => .test c (.compare .lt)
  | .lte => .test c (.compare .lte)
  | .like => .test c (if v.isRegex then .matchesRegex else .like)
  | .present => .test c (if isTrue v then .isNotNull else .isNull)
  | _ => .const false

def listExpr (c : Column) (op : Operator) (count : Nat) : Expr :=
  match op, count with
  | .oneOf, 0 => .const false
  | .oneOf, count => .test c (.isIn count)
  | .noneOf, 0 => .const true
  | .noneOf, count => .test c (.isNotIn count)
  | .allOf, 0 => .const true
  | .allOf, count => .test c (.holds count)
  | _, _ => .const false

mutual

/-- The expression of a filter on the field at a path: its entries are joined by a conjunction. -/
def filterExpr (P : Path) : Node → Expr
  | .mapping es => .allOf (entryExprs P es)
  | _ => .const false

def entryExprs (P : Path) : List (String × Node) → List Expr
  | [] => []
  | (key, n) :: es => entryExpr P key n :: entryExprs P es

def entryExpr (P : Path) (key : String) : Node → Expr
  | .mapping es =>
    match Operator.ofName? key with
    | none => .allOf (entryExprs (P ++ [.key key]) es)
    | some .not => .notAllOf (entryExprs P es)
    | some _ => .const false
  | .sequence ns =>
    match Operator.ofName? key with
    | some .and => .allOf (filterExprs P ns)
    | some .or => .anyOf (filterExprs P ns)
    | some .nor => .noneOf (filterExprs P ns)
    | some op => listExpr (columnOf P) op ns.length
    | none => .const false
  | .scalar v =>
    match Operator.ofName? key with
    | none => scalarExpr (columnOf (P ++ [.key key])) .eq v
    | some op => scalarExpr (columnOf P) op v

def filterExprs (P : Path) : List Node → List Expr
  | [] => []
  | n :: ns => filterExpr P n :: filterExprs P ns

end

theorem entryExprs_eq (P : Path) (es : List (String × Node)) :
    entryExprs P es = es.map fun e => entryExpr P e.1 e.2 := by
  induction es with
  | nil => rfl
  | cons e es ih => rw [entryExprs, ih, List.map_cons]

theorem filterExprs_eq (P : Path) (ns : List Node) :
    filterExprs P ns = ns.map (filterExpr P) := by
  induction ns with
  | nil => rfl
  | cons n ns ih => rw [filterExprs, ih, List.map_cons]

/-! ### The operands of a filter -/

/-- What a bound of a range binds: a time, or the number that the value stands for. -/
def rangeOperands : Value → List Value
  | .time t => [.time t]
  | v => (v.toNumber?.map Value.double).toList

def scalarOperands (op : Operator) (v : Value) : List Value :=
  match op, v with
  | .present, _ | .eq, .null | .ne, .null => []
  | .eq, .regex re | .like, .regex re => [.text re.source]
  | .gt, v | .gte, v | .lt, v | .lte, v => rangeOperands v
  | _, v => [v]

mutual

/-- The operands of a filter, in document order. -/
def operands : Node → List Value
  | .mapping es => entriesOperands es
  | _ => []

def entriesOperands : List (String × Node) → List Value
  | [] => []
  | (key, n) :: es => entryOperands key n ++ entriesOperands es

/-- The operands of an entry; a scalar below a field is compared with `eq`. -/
def entryOperands (key : String) : Node → List Value
  | .mapping es => entriesOperands es
  | .sequence ns =>
    if (Operator.ofName? key).any Operator.takesValues then ns.map Node.plain else itemsOperands ns
  | .scalar v => scalarOperands ((Operator.ofName? key).getD .eq) v

def itemsOperands : List Node → List Value
  | [] => []
  | n :: ns => operands n ++ itemsOperands ns

end

theorem entriesOperands_eq (es : List (String × Node)) :
    entriesOperands es = es.flatMap fun e => entryOperands e.1 e.2 := by
  induction es with
  | nil => rfl
  | cons e es ih => rw [entriesOperands, ih, List.flatMap_cons]

theorem itemsOperands_eq (ns : List Node) : itemsOperands ns = ns.flatMap operands := by
  induction ns with
  | nil => rfl
  | cons n ns ih => rw [itemsOperands, ih, List.flatMap_cons]

/-! ### Generators -/

/-- From the arguments `s` on, the condition `c` of the expression is made and the values are
bound. -/
structure Makes (e : Expr) (vs : List Value) (s : Bindings) (c : Condition) (u : Bindings) :
    Prop where
  proper : e.Proper
  condition_eq : c = e.condition (s.length + 1)
  bound : u = s ++ vs
  arity_eq : e.arity = vs.length

theorem yields_bind_iff {v : Value} {s t : Bindings} {n : Nat} :
    Yields (bind v) s n t ↔ n = s.length + 1 ∧ t = s ++ [v] := by
  have outcome_eq : outcome (bind v) s = (.ok (s ++ [v]).length, s ++ [v]) := rfl
  rw [Yields, outcome_eq, Prod.mk.injEq, Except.ok.injEq, List.length_append, List.length_singleton]
  exact and_congr eq_comm eq_comm

theorem yields_operandValue {n : Node} {path : Path} {v : Value} {s t : Bindings}
    (h : Yields (operandValue n path) s v t) : n = .scalar v ∧ v.isRegex = false ∧ t = s := by
  unfold operandValue at h
  cases n with
  | scalar w =>
    cases isRegex : w.isRegex with
    | true =>
      simp only [bindable, isRegex, if_true] at h
      exact absurd h yields_throw
    | false =>
      simp only [bindable, isRegex, Bool.false_eq_true, if_false] at h
      obtain ⟨rfl, rfl⟩ := yields_pure.mp h
      exact ⟨rfl, isRegex, rfl⟩
  | sequence ns => exact absurd h yields_throw
  | mapping es => exact absurd h yields_throw

theorem rangeOperands_eq {v : Value} (numeric : v.isNumeric) : rangeOperands v = [rangeBound v] := by
  obtain ⟨x, found, _⟩ := (Option.any_eq_true _ _).mp numeric
  unfold rangeOperands rangeBound
  cases v with
  | time t => rfl
  | _ =>
    dsimp only
    rw [found]
    rfl

section Scalars

variable {style : Style} {op : Operation Condition} {col : Column} {v : Value} {s u : Bindings}
  {c : Condition}

theorem makes_unary {t : Test} (proper : (Expr.test col t).Proper) (unary : t.arity = 1)
    (h : Yields (do return t.condition (← bind v) col) s c u) : Makes (.test col t) [v] s c u := by
  obtain ⟨arg, _, bound, h⟩ := yields_bind.mp h
  obtain ⟨rfl, rfl⟩ := yields_bind_iff.mp bound
  obtain ⟨rfl, rfl⟩ := yields_pure.mp h
  exact ⟨proper, rfl, rfl, unary⟩

theorem makes_nullary {t : Test} (proper : (Expr.test col t).Proper) (nullary : t.arity = 0)
    (h : Yields (pure (t.condition (s.length + 1) col)) s c u) : Makes (.test col t) [] s c u := by
  obtain ⟨rfl, rfl⟩ := yields_pure.mp h
  exact ⟨proper, rfl, (List.append_nil s).symm, nullary⟩

variable (onField : columnOf op.data ≠ [])
include onField

theorem makes_regex {re : Regex} (h : Yields (regexCondition style op re) s c u) :
    Makes (.test (columnOf op.data) .matchesRegex) [.text re.source] s c u := by
  unfold regexCondition at h
  split at h
  · exact makes_unary (t := .matchesRegex) onField rfl h
  · exact absurd h yields_throw

theorem makes_eq (operand : op.operand = .scalar v) (h : Yields (eqCondition style op) s c u) :
    Makes (scalarExpr (columnOf op.data) .eq v) (scalarOperands .eq v) s c u := by
  unfold eqCondition at h
  rw [operand] at h
  cases v with
  | regex re => exact makes_regex onField h
  | null => exact makes_nullary (t := .isNull) onField rfl h
  | nilOf t =>
    obtain ⟨_, _, read, h⟩ := yields_bind.mp h
    obtain ⟨same, notRegex, rfl⟩ := yields_operandValue read
    obtain rfl := Node.scalar.inj same
    have expr_eq : scalarExpr (columnOf op.data) .eq (.nilOf t) =
        .test (columnOf op.data) (.compare .eq) := by
      simp [scalarExpr, Value.isNull, notRegex]
    rw [expr_eq]
    exact makes_unary (t := .compare .eq) onField rfl h
  | _ => exact makes_unary (t := .compare .eq) onField rfl h

theorem makes_ne (operand : op.operand = .scalar v) (h : Yields (neCondition op) s c u) :
    Makes (scalarExpr (columnOf op.data) .ne v) (scalarOperands .ne v) s c u := by
  unfold neCondition at h
  rw [operand] at h
  obtain ⟨_, _, read, h⟩ := yields_bind.mp h
  obtain ⟨same, _, rfl⟩ := yields_operandValue read
  obtain rfl := Node.scalar.inj same
  cases v with
  | null => exact makes_nullary (t := .isNotNull) onField rfl h
  | _ => exact makes_unary (t := .compare .ne) onField rfl h

theorem makes_like (operand : op.operand = .scalar v) (h : Yields (likeCondition style op) s c u) :
    Makes (scalarExpr (columnOf op.data) .like v) (scalarOperands .like v) s c u := by
  unfold likeCondition at h
  rw [operand] at h
  cases v with
  | regex re => exact makes_regex onField h
  | nilOf t =>
    cases t with
    | regex => exact absurd h yields_throw
    | _ => exact makes_unary (t := .like) onField rfl h
  | _ => exact makes_unary (t := .like) onField rfl h

theorem makes_range {sign : Sign} (operand : op.operand = .scalar v) (numeric : v.isNumeric)
    (h : Yields (rangeCondition sign op) s c u) :
    Makes (.test (columnOf op.data) (.compare sign)) (rangeOperands v) s c u := by
  unfold rangeCondition at h
  rw [operand] at h
  rw [rangeOperands_eq numeric]
  exact makes_unary (t := .compare sign) onField rfl h

theorem makes_present (operand : op.operand = .scalar v)
    (h : Yields (pure (presentCondition op)) s c u) :
    Makes (scalarExpr (columnOf op.data) .present v) (scalarOperands .present v) s c u := by
  unfold presentCondition at h
  rw [operand] at h
  cases v with
  | bool b =>
    cases b with
    | true => exact makes_nullary (t := .isNotNull) onField rfl h
    | false => exact makes_nullary (t := .isNull) onField rfl h
  | _ => exact makes_nullary (t := .isNull) onField rfl h

theorem makes_scalar (operand : op.operand = .scalar v) (accepted : op.operator.accepts (.scalar v))
    (h : Yields (conditionOf style op) s c u) :
    Makes (scalarExpr (columnOf op.data) op.operator v) (scalarOperands op.operator v) s c u := by
  obtain ⟨operator, path, data, n, children, elements⟩ := op
  obtain rfl : n = .scalar v := operand
  cases operator with
  | and | or | nor | not | oneOf | noneOf | allOf => cases accepted
  | eq => exact makes_eq onField rfl h
  | ne => exact makes_ne onField rfl h
  | gt | gte | lt | lte => exact makes_range onField rfl accepted h
  | like => exact makes_like onField rfl h
  | present => exact makes_present onField rfl h

end Scalars

/-! ### Lists of values -/

theorem yields_bindItems {path : Path} {ns : List Node} {i : Nat} {s u : Bindings}
    {args : List Nat} (h : Yields (bindItems path i ns) s args u) :
    (∀ n ∈ ns, ∃ v, n = .scalar v) ∧ args = List.range' (s.length + 1) ns.length ∧
      u = s ++ ns.map Node.plain := by
  induction ns generalizing i s args with
  | nil =>
    obtain ⟨rfl, rfl⟩ := yields_pure.mp h
    exact ⟨by simp, rfl, (List.append_nil s).symm⟩
  | cons n ns ih =>
    obtain ⟨v, _, value, afterValue⟩ := yields_bind.mp h
    obtain ⟨rfl, _, rfl⟩ := yields_operandValue value
    obtain ⟨arg, _, bound, afterBound⟩ := yields_bind.mp afterValue
    obtain ⟨rfl, rfl⟩ := yields_bind_iff.mp bound
    obtain ⟨args, _, rest, returned⟩ := yields_bind.mp afterBound
    obtain ⟨rfl, rfl⟩ := yields_pure.mp returned
    obtain ⟨scalars, rfl, rfl⟩ := ih rest
    refine ⟨List.forall_mem_cons.mpr ⟨⟨v, rfl⟩, scalars⟩, ?_, ?_⟩
    · rw [List.length_append, List.length_singleton, List.length_cons, List.range'_succ]
    · rw [List.append_assoc, List.map_cons, List.singleton_append]
      rfl

theorem yields_listCondition {make : Column → List Nat → Condition} {onEmpty : Bool}
    {op : Operator} {path P : Path} {ns : List Node} {children : List Condition}
    {elements : List Node} {s u : Bindings} {c : Condition}
    (h : Yields (listCondition make onEmpty ⟨op, path, P, .sequence ns, children, elements⟩) s c u) :
    (∀ n ∈ ns, ∃ v, n = .scalar v) ∧ u = s ++ ns.map Node.plain ∧
      c = if ns = [] then .always onEmpty
        else make (columnOf P) (List.range' (s.length + 1) ns.length) := by
  obtain ⟨args, _, bound, h⟩ := yields_bind.mp h
  obtain ⟨scalars, rfl, rfl⟩ := yields_bindItems bound
  refine ⟨scalars, ?_⟩
  cases ns with
  | nil =>
    obtain ⟨rfl, rfl⟩ := yields_pure.mp h
    exact ⟨rfl, rfl⟩
  | cons n ns =>
    obtain ⟨rfl, rfl⟩ := yields_pure.mp h
    exact ⟨rfl, rfl⟩

theorem makes_list {style : Style} {op : Operator} {path P : Path} {ns : List Node}
    {children : List Condition} {elements : List Node} {s u : Bindings} {c : Condition}
    (list : op.takesValues) (onField : columnOf P ≠ [])
    (h : Yields (conditionOf style ⟨op, path, P, .sequence ns, children, elements⟩) s c u) :
    (∀ n ∈ ns, ∃ v, n = .scalar v) ∧
      Makes (listExpr (columnOf P) op ns.length) (ns.map Node.plain) s c u := by
  cases op with
  -- the three operators differ only in the condition and in what an empty list means
  | oneOf | noneOf | allOf =>
    obtain ⟨scalars, bound, rfl⟩ := yields_listCondition h
    refine ⟨scalars, ?_⟩
    cases ns with
    | nil => exact ⟨trivial, rfl, bound, rfl⟩
    | cons n ns => exact ⟨⟨onField, by simp⟩, rfl, bound, by simp [listExpr, Expr.arity, Test.arity]⟩
  | _ => cases list

/-! ### Groups -/

/-- As `Makes`, for the members of a group. -/
structure MakesEach (es : List Expr) (vs : List Value) (s : Bindings) (cs : List Condition)
    (u : Bindings) : Prop where
  proper : Expr.EachProper es
  conditions_eq : cs = Expr.conditions (s.length + 1) es
  bound : u = s ++ vs
  arity_eq : Expr.arityEach es = vs.length

theorem makesEach_of_chain {ι : Type} {R : ι → Bindings → Option Condition → Bindings → Prop}
    {expr : ι → Expr} {values : ι → List Value}
    (each : ∀ x s r t, R x s r t → ∃ c, r = some c ∧ Makes (expr x) (values x) s c t) {xs : List ι}
    {s u : Bindings} {cs : List Condition} (chain : Chain R xs s cs u) :
    MakesEach (xs.map expr) (xs.flatMap values) s cs u := by
  induction chain with
  | nil s => exact ⟨trivial, rfl, (List.append_nil s).symm, rfl⟩
  | cons first _ ih =>
    obtain ⟨c, rfl, proper, rfl, rfl, arity⟩ := each _ _ _ _ first
    obtain ⟨properEach, rfl, rfl, arities⟩ := ih
    refine ⟨⟨proper, properEach⟩, ?_, ?_, ?_⟩
    -- the numbers of the rest start where the first member has stopped
    · rw [List.map_cons, Expr.conditions, arity, List.length_append, Nat.add_right_comm]
      rfl
    · rw [List.flatMap_cons, List.append_assoc]
    · rw [List.map_cons, Expr.arityEach, arity, arities, List.flatMap_cons, List.length_append]

section Groups

variable {es : List Expr} {vs : List Value} {s u : Bindings} {cs : List Condition}

theorem MakesEach.allOf (each : MakesEach es vs s cs u) : Makes (.allOf es) vs s (.conj cs) u := by
  obtain ⟨proper, rfl, bound, arity⟩ := each
  cases es with
  | nil => exact ⟨trivial, rfl, bound, arity⟩
  | cons e es => exact ⟨⟨by simp, proper⟩, rfl, bound, arity⟩

theorem MakesEach.anyOf (each : MakesEach es vs s cs u) : Makes (.anyOf es) vs s (.disj cs) u := by
  obtain ⟨proper, rfl, bound, arity⟩ := each
  cases es with
  | nil => exact ⟨trivial, rfl, bound, arity⟩
  | cons e es => exact ⟨⟨by simp, proper⟩, rfl, bound, arity⟩

theorem MakesEach.noneOf (each : MakesEach es vs s cs u) : Makes (.noneOf es) vs s (.nor cs) u := by
  obtain ⟨proper, rfl, bound, arity⟩ := each
  cases es with
  | nil => exact ⟨trivial, rfl, bound, arity⟩
  | cons e es => exact ⟨⟨by simp, proper⟩, rfl, bound, arity⟩

theorem MakesEach.notAllOf (each : MakesEach es vs s cs u) :
    Makes (.notAllOf es) vs s (.nand cs) u := by
  obtain ⟨proper, rfl, bound, arity⟩ := each
  cases es with
  | nil => exact ⟨trivial, rfl, bound, arity⟩
  | cons e es => exact ⟨⟨by simp, proper⟩, rfl, bound, arity⟩

end Groups

/-! ### Compilations -/

/-- The artifact of an entry is the condition of its expression. -/
def Compiled (P : Path) (e : String × Node) (s : Bindings) (r : Option Condition) (u : Bindings) :
    Prop :=
  ∃ c, r = some c ∧ Makes (entryExpr P e.1 e.2) (entryOperands e.1 e.2) s c u

variable {style : Style} {depth : Int}

theorem yields_generator {op : Operator} {g : Generator Bindings Condition}
    (found : ((compiler style).withDepth depth).dialect.generator? op = some g)
    {o : Operation Condition} {s u : Bindings} {r : Option Condition} (h : Yields (g o) s r u) :
    ∃ c, r = some c ∧ Yields (conditionOf style o) s c u := by
  have supported : supports style op := by
    by_contra unsupported
    have missing : ((compiler style).withDepth depth).dialect.generator? op = none := if_neg unsupported
    rw [missing] at found
    cases found
  have generator : ((compiler style).withDepth depth).dialect.generator? op =
      some fun o => do return some (← conditionOf style o) := if_pos supported
  obtain rfl := Option.some.inj (generator.symm.trans found)
  obtain ⟨c, _, made, returned⟩ := yields_bind.mp h
  obtain ⟨rfl, rfl⟩ := yields_pure.mp returned
  exact ⟨c, rfl, made⟩

theorem entries_makes {P : Path} {es : List (String × Node)} {s u : Bindings}
    {cs : List Condition} (chain : Chain (Compiled P) es s cs u) :
    MakesEach (entryExprs P es) (entriesOperands es) s cs u := by
  rw [entryExprs_eq, entriesOperands_eq]
  exact makesEach_of_chain (fun _ _ _ _ h => h) chain

theorem filter_makes {P : Path} {n : Node} {s u : Bindings} {r : Option Condition}
    (h : ((compiler style).withDepth depth).FilterOf Compiled P n s r u) :
    ∃ c, r = some c ∧ Makes (filterExpr P n) (operands n) s c u := by
  obtain ⟨es, path, cs, t, rfl, chain, generated⟩ := h
  obtain ⟨c, rfl, made⟩ := yields_generator (generator?_and _) generated
  obtain ⟨rfl, rfl⟩ := yields_pure.mp made
  exact ⟨_, rfl, (entries_makes chain).allOf⟩

theorem closed_compiled (style : Style) (depth : Int) :
    ((compiler style).withDepth depth).Closed Compiled where
  field {P path key es s t u cs r} isField entries generated := by
    obtain ⟨c, rfl, made⟩ := yields_generator (generator?_and _) generated
    obtain ⟨rfl, rfl⟩ := yields_pure.mp made
    refine ⟨_, rfl, ?_⟩
    rw [entryExpr, Operator.ofName?_of_field isField]
    exact (entries_makes entries).allOf
  equals {P path key v s u r} isField _ generated := by
    obtain ⟨c, rfl, made⟩ := yields_generator (generator?_eq _) generated
    refine ⟨_, rfl, ?_⟩
    rw [entryExpr, entryOperands, Operator.ofName?_of_field isField]
    exact makes_eq (by simp [columnOf]) rfl made
  combine {P path key op g ns s t u cs r} named found combinator _ filters generated := by
    obtain ⟨c, rfl, made⟩ := yields_generator found generated
    refine ⟨_, rfl, ?_⟩
    have each := makesEach_of_chain (fun _ _ _ _ h => filter_makes h) filters
    rw [← filterExprs_eq, ← itemsOperands_eq] at each
    rw [entryExpr, entryOperands, named]
    cases op with
    | and =>
      obtain ⟨rfl, rfl⟩ := yields_pure.mp made
      exact each.allOf
    | or =>
      obtain ⟨rfl, rfl⟩ := yields_pure.mp made
      exact each.anyOf
    | nor =>
      obtain ⟨rfl, rfl⟩ := yields_pure.mp made
      exact each.noneOf
    | _ => cases combinator
  negate {P path key g es s t u cs r} named found _ _ entries generated := by
    obtain ⟨c, rfl, made⟩ := yields_generator found generated
    obtain ⟨rfl, rfl⟩ := yields_pure.mp made
    refine ⟨_, rfl, ?_⟩
    rw [entryExpr, named]
    exact (entries_makes entries).notAllOf
  values {P path key op g ns s t u parts r} named found list onField _ items generated := by
    obtain ⟨c, rfl, made⟩ := yields_generator found generated
    refine ⟨_, rfl, ?_⟩
    -- all items turn out to be scalars, so that the items themselves have bound nothing before
    obtain ⟨scalars, makes⟩ := makes_list list (by simpa [columnOf] using onField) made
    obtain rfl := foldItems_scalars scalars items
    rw [entryExpr, entryOperands, named, Option.any_some, if_pos list]
    cases op with
    | oneOf | noneOf | allOf => exact makes
    | _ => cases list
  scalar {P path key op g v s u r} named found accepted onField _ generated := by
    obtain ⟨c, rfl, made⟩ := yields_generator found generated
    refine ⟨_, rfl, ?_⟩
    rw [entryExpr, entryOperands, named]
    exact makes_scalar (by simpa [columnOf] using onField) rfl accepted made

/-- A filter that compiles has the condition of its expression, and its operands are bound. -/
theorem compile_filterExpr {q : Node} {f : Fragment}
    (compiled : ((compiler style).withDepth depth).compile q = .ok f) :
    (filterExpr [] q).Proper ∧ f = ⟨(filterExpr [] q).condition 1, operands q⟩ ∧
      (filterExpr [] q).arity = (operands q).length := by
  obtain ⟨a, s, t, generated, resolved⟩ := compile_eq_ok_iff.mp compiled
  obtain ⟨r, filter, rfl⟩ := (closed_compiled style depth).generate generated
  obtain ⟨c, rfl, proper, rfl, rfl, arity⟩ := filter_makes filter
  exact ⟨proper, (Except.ok.inj (congrArg Prod.fst resolved)).symm, arity⟩

theorem parse_of_compile {q : Node} {f : Fragment}
    (compiled : ((compiler style).withDepth depth).compile q = .ok f) :
    parse (f.text style) = some (filterExpr [] q).unwrap := by
  obtain ⟨proper, rfl, -⟩ := compile_filterExpr compiled
  have numbers := Expr.numbers 1 proper
  rw [Fragment.text, Condition.parse_text style numbers.wellFormed, numbers.expr_eq]

end FilterQuery.Sql
