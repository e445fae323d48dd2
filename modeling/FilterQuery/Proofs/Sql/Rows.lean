import FilterQuery.Proofs.Query.Meaning
import FilterQuery.Proofs.Sql.Arguments
import FilterQuery.Proofs.Sql.Evaluation

/-!
# Rows of numbers

On items that have numbers in the fields of a filter, the SQL text of the filter and its predicate
give the same answer. The filters are those that compare fields with numbers and ask for null; the
row has the entries of the item as its columns.
-/

namespace FilterQuery.Sql

open Generation Compiler Predicate

/-! ### Filters on numbers -/

def isFiniteDouble : Value → Bool
  | .double x => x.isFiniteIn .double
  | _ => false

def isBool : Value → Bool
  | .bool _ => true
  | _ => false

/-- Operands of tests of numbers: null can be compared for equality. -/
def isNumberTest (op : Operator) (v : Value) : Bool :=
  match op with
  | .eq | .ne => v.isNull || isFiniteDouble v
  | .gt | .gte | .lt | .lte => isFiniteDouble v
  | .present => isBool v
  | _ => false

def isNumberList (op : Operator) (ns : List Node) : Bool :=
  (op == .oneOf || op == .noneOf) && ns.all fun n => n.scalar?.any isFiniteDouble

def isUndotted (key : String) : Bool := !key.toList.contains '.'

mutual

def isNumberFilter : Node → Bool
  | .mapping es => areNumberEntries es
  | _ => false

def areNumberEntries : List (String × Node) → Bool
  | [] => true
  | (key, n) :: es => isNumberEntry key n && areNumberEntries es

def isNumberEntry (key : String) : Node → Bool
  | .mapping es => isUndotted key && areNumberEntries es
  | .sequence ns =>
    match Operator.ofName? key with
    | some op => if op.isCombinator then areNumberFilters ns else isNumberList op ns
    | none => false
  | .scalar v => isUndotted key && isNumberTest ((Operator.ofName? key).getD .eq) v

def areNumberFilters : List Node → Bool
  | [] => true
  | n :: ns => isNumberFilter n && areNumberFilters ns

end

theorem areNumberEntries_iff {es : List (String × Node)} :
    areNumberEntries es = true ↔ ∀ e ∈ es, isNumberEntry e.1 e.2 = true := by
  induction es with
  | nil => simp [areNumberEntries]
  | cons e es ih => simp [areNumberEntries, ih]

theorem areNumberFilters_iff {ns : List Node} :
    areNumberFilters ns = true ↔ ∀ n ∈ ns, isNumberFilter n = true := by
  induction ns with
  | nil => simp [areNumberFilters]
  | cons n ns ih => simp [areNumberFilters, ih]

/-! ### Fields of filters -/

mutual

def fieldsOf : Node → List String
  | .mapping es => entriesFields es
  | _ => []

def entriesFields : List (String × Node) → List String
  | [] => []
  | (key, n) :: es => entryFields key n ++ entriesFields es

def entryFields (key : String) : Node → List String
  | .sequence ns => itemsFields ns
  | .mapping _ | .scalar _ => if isCommand key then [] else [key]

def itemsFields : List Node → List String
  | [] => []
  | n :: ns => fieldsOf n ++ itemsFields ns

end

theorem mem_entriesFields {k : String} {es : List (String × Node)} :
    k ∈ entriesFields es ↔ ∃ e ∈ es, k ∈ entryFields e.1 e.2 := by
  induction es with
  | nil => simp [entriesFields]
  | cons e es ih => simp [entriesFields, ih]

theorem mem_itemsFields {k : String} {ns : List Node} :
    k ∈ itemsFields ns ↔ ∃ n ∈ ns, k ∈ fieldsOf n := by
  induction ns with
  | nil => simp [itemsFields]
  | cons n ns ih => simp [itemsFields, ih]

/-! ### Items and rows -/

def rowOf (cells : List (String × Value)) : Row
  | [k] => (cells.lookup k).getD .null
  | _ => .null

def HasNumber (cells : List (String × Value)) (k : String) : Prop :=
  ∃ v, cells.lookup k = some v ∧ isFiniteDouble v

/-- The fields below a path are number columns: they are named by the entry or, if the path leads to
a field, are that one. -/
def Covers (cells : List (String × Value)) (fields : List String) : Path → Prop
  | [] => ∀ k ∈ fields, HasNumber cells k
  | seg :: _ => ∃ k, seg = .key k ∧ isUndotted k ∧ HasNumber cells k

variable {ty : Ty} {cells : List (String × Value)}

theorem Covers.mono {fields more : List String} {P : Path} (covers : Covers cells more P)
    (subset : fields ⊆ more) : Covers cells fields P := by
  cases P with
  | nil => exact fun k member => covers k (subset member)
  | cons seg P => exact covers

theorem Covers.below {key : String} {P : Path} (undotted : isUndotted key)
    (covers : Covers cells [key] P) (fields : List String) :
    Covers cells fields (P ++ [Segment.key key]) := by
  cases P with
  | nil => exact ⟨key, rfl, undotted, covers key List.mem_cons_self⟩
  | cons seg P => exact covers

theorem fields_object {k : String} {v : Value} (found : cells.lookup k = some v) :
    (Value.object ty cells).fields [.key k] = ([some v], false) := by
  have entry : (Value.object ty cells).entryAt? k = some v := found
  have step : Reached.step (.key k) (.value (.object ty cells) true) = ([.value v true], false) := by
    have direct : (Value.object ty cells).stepDirect (.key k) = .value v true := by
      rw [← Reached.ofOption, ← entry]
      rfl
    rw [← direct]
    rfl
  simp only [Value.fields, Reached.walk, List.map_cons, List.map_nil, List.flatMap_cons, step]
  rfl

theorem fieldPath_undotted {k : String} (undotted : isUndotted k) :
    fieldPath [.key k] = [.key k] := by
  have plain : '.' ∉ k.toList := by simpa [isUndotted] using undotted
  simp [fieldPath, plain]

/-! ### Answers -/

theorem allM_ok {ε κ : Type} {f : κ → Except ε Bool} {xs : List κ} {bs : List Bool}
    (each : List.Forall₂ (fun x b => f x = .ok b) xs bs) : xs.allM f = .ok (bs.all id) := by
  induction each with
  | nil => rfl
  | @cons _ b _ _ first _ ih =>
    rw [List.allM, first, List.all_cons]
    cases b with
    | true => exact ih
    | false => rfl

theorem anyM_ok {ε κ : Type} {f : κ → Except ε Bool} {xs : List κ} {bs : List Bool}
    (each : List.Forall₂ (fun x b => f x = .ok b) xs bs) : xs.anyM f = .ok (bs.any id) := by
  induction each with
  | nil => rfl
  | @cons _ b _ _ first _ ih =>
    rw [List.anyM, first, List.any_cons]
    cases b with
    | true => rfl
    | false => exact ih

/-- The predicate answers for the item as the expression does on its row. -/
structure Agree (ty : Ty) (cells : List (String × Value)) (p : Predicate Incomparable) (e : Expr)
    (vs : List Value) : Prop where
  arity_eq : e.arity = vs.length
  same : ∃ b, p (.object ty cells) = .ok b ∧ e.eval (rowOf cells) vs = some b

/-- As `Agree`, for the members of a group. -/
structure AgreeEach (ty : Ty) (cells : List (String × Value)) (ps : List (Predicate Incomparable))
    (es : List Expr) (vs : List Value) : Prop where
  arity_eq : Expr.arityEach es = vs.length
  same : ∃ bs, List.Forall₂ (fun p b => p (.object ty cells) = .ok b) ps bs ∧
    Expr.evalEach (rowOf cells) es vs = bs.map some

theorem agreeEach_of_forall₂ {ι : Type} {expr : ι → Expr} {args : ι → List Value} {φ : ι → Prop}
    {xs : List ι} {ps : List (Predicate Incomparable)}
    (each : List.Forall₂ (fun x p => φ x → Agree ty cells p (expr x) (args x)) xs ps)
    (all : ∀ x ∈ xs, φ x) : AgreeEach ty cells ps (xs.map expr) (xs.flatMap args) := by
  induction each with
  | nil => exact ⟨rfl, [], .nil, rfl⟩
  | cons first _ ih =>
    obtain ⟨here, others⟩ := List.forall_mem_cons.mp all
    obtain ⟨arity, b, answer, value⟩ := first here
    obtain ⟨arities, bs, answers, values⟩ := ih others
    refine ⟨?_, b :: bs, .cons answer answers, ?_⟩
    · rw [List.map_cons, Expr.arityEach, arity, arities, List.flatMap_cons, List.length_append]
    · rw [List.map_cons, List.flatMap_cons, Expr.evalEach_append _ arity, value, values,
        List.map_cons]

section Groups

variable {ps : List (Predicate Incomparable)} {es : List Expr} {vs : List Value}

theorem AgreeEach.all (each : AgreeEach ty cells ps es vs) :
    Agree ty cells (allOf ps) (.all es) vs := by
  obtain ⟨arity, bs, answers, values⟩ := each
  refine ⟨arity, bs.all id, allM_ok answers, ?_⟩
  rw [Expr.eval, values, Truth.all_map_some]

theorem AgreeEach.any (each : AgreeEach ty cells ps es vs) :
    Agree ty cells (anyOf ps) (.any es) vs := by
  obtain ⟨arity, bs, answers, values⟩ := each
  refine ⟨arity, bs.any id, anyM_ok answers, ?_⟩
  rw [Expr.eval, values, Truth.any_map_some]

theorem Agree.negate {p : Predicate Incomparable} {e : Expr} (agree : Agree ty cells p e vs) :
    Agree ty cells (negate p) (.not e) vs := by
  obtain ⟨arity, b, answer, value⟩ := agree
  refine ⟨arity, !b, ?_, ?_⟩
  · rw [Predicate.negate, answer]
    rfl
  · rw [Expr.eval, value]
    rfl

/-- Constants stand for empty groups. -/
theorem Agree.of_eval {p : Predicate Incomparable} {e e' : Expr} (agree : Agree ty cells p e vs)
    (arity : e'.arity = e.arity)
    (value : e'.eval (rowOf cells) vs = e.eval (rowOf cells) vs) : Agree ty cells p e' vs := by
  obtain ⟨b, answer, original⟩ := agree.same
  exact ⟨arity.trans agree.arity_eq, b, answer, value.trans original⟩

theorem AgreeEach.allOf (each : AgreeEach ty cells ps es vs) :
    Agree ty cells (allOf ps) (.allOf es) vs := by
  cases es with
  | nil => exact each.all.of_eval rfl rfl
  | cons e es => exact each.all

theorem AgreeEach.anyOf (each : AgreeEach ty cells ps es vs) :
    Agree ty cells (anyOf ps) (.anyOf es) vs := by
  cases es with
  | nil => exact each.any.of_eval rfl rfl
  | cons e es => exact each.any

theorem AgreeEach.noneOf (each : AgreeEach ty cells ps es vs) :
    Agree ty cells (Predicate.negate (Predicate.anyOf ps)) (.noneOf es) vs := by
  cases es with
  | nil => exact each.any.negate.of_eval rfl rfl
  | cons e es => exact each.any.negate

theorem AgreeEach.notAllOf (each : AgreeEach ty cells ps es vs) :
    Agree ty cells (Predicate.negate (Predicate.allOf ps)) (.notAllOf es) vs := by
  cases es with
  | nil => exact each.all.negate.of_eval rfl rfl
  | cons e es => exact each.all.negate

end Groups

/-! ### Comparisons -/

/-- Whether a sign admits the order of two numbers. -/
def Sign.admits : Sign → Ordering → Bool
  | .eq, o => o == .eq
  | .ne, o => o != .eq
  | .gt, o => o == .gt
  | .gte, o => o != .lt
  | .lt, o => o == .lt
  | .lte, o => o != .gt

theorem Sign.holds_eq (sign : Sign) (x y : ℚ) : sign.holds x y = sign.admits (Ord.compare x y) := by
  rcases lt_trichotomy x y with less | same | greater
  · rw [compare_lt_iff_lt.mpr less]
    cases sign <;> simp [holds, admits, less, less.le, less.ne, less.not_gt]
  · rw [compare_eq_iff_eq.mpr same]
    cases sign <;> simp [holds, admits, same]
  · rw [compare_gt_iff_gt.mpr greater]
    cases sign <;> simp [holds, admits, greater, greater.le, greater.ne', greater.not_gt]

theorem sortKey_double {v : Value} (finite : isFiniteDouble v) :
    ∃ x a, number? v = some x ∧ v.sortKey = .number a ∧ a.Represents x := by
  cases v with
  | double b =>
    cases b with
    | finite neg m e =>
      have finite : (Binary.finite neg m e).isFiniteIn .double := finite
      exact ⟨_, _, rfl, rfl, Extended.represents_ofScaledRatio neg e (Binary.significand_lt finite)⟩
    | nan => cases finite
    | infinite neg => cases finite
  | _ => cases finite

theorem numeric_double {v : Value} (finite : isFiniteDouble v) : numeric v = v := by
  cases v with
  | double b => rfl
  | _ => cases finite

theorem regex?_double {v : Value} (finite : isFiniteDouble v) : v.regex? = none := by
  cases v with
  | double b => rfl
  | _ => cases finite

variable {v w : Value}

theorem compare_doubles (left : isFiniteDouble v) (right : isFiniteDouble w) :
    ∃ x y, number? v = some x ∧ number? w = some y ∧ v.comparable w ∧
      v.compare w = .ok (Ord.compare x y) := by
  obtain ⟨x, a, valued, key, represents⟩ := sortKey_double left
  obtain ⟨y, b, valued', key', represents'⟩ := sortKey_double right
  refine ⟨x, y, valued, valued', ?_, ?_⟩
  · rw [Value.comparable, key, key']
  · rw [Value.compare, key, key', SortKey.compare, Extended.compare_represents represents represents']

theorem compare_eq (sign : Sign) (left : isFiniteDouble v) (right : isFiniteDouble w) :
    ∃ o, v.comparable w ∧ v.compare w = .ok o ∧ sign.compare v w = some (sign.admits o) := by
  obtain ⟨x, y, valued, valued', comparable, compared⟩ := compare_doubles left right
  refine ⟨_, comparable, compared, ?_⟩
  rw [Sign.compare, valued, valued', ← sign.holds_eq]
  rfl

theorem equal_eq (left : isFiniteDouble v) (right : isFiniteDouble w) :
    ∃ b, equal Engine.standard w v = .ok b ∧ Sign.compare .eq v w = some b := by
  obtain ⟨o, _, compared, value⟩ := compare_eq .eq left right
  refine ⟨_, ?_, value⟩
  unfold equal
  rw [regex?_double right, numeric_double left, numeric_double right]
  simp only [Predicate.compare, Engine.standard, compared]
  rfl

theorem equal_each (left : isFiniteDouble v) {ws : List Value} (right : ∀ w ∈ ws, isFiniteDouble w) :
    ∃ bs, List.Forall₂ (fun w b => equal Engine.standard w v = .ok b) ws bs ∧
      ws.map (Sign.compare .eq v) = bs.map some := by
  induction ws with
  | nil => exact ⟨[], .nil, rfl⟩
  | cons w ws ih =>
    obtain ⟨first, others⟩ := List.forall_mem_cons.mp right
    obtain ⟨b, tested, value⟩ := equal_eq left first
    obtain ⟨bs, tests, values⟩ := ih others
    exact ⟨b :: bs, .cons tested tests, by rw [List.map_cons, value, values, List.map_cons]⟩

/-! ### Tests of a column -/

section Column

variable {k : String}

theorem anyValue_number {test : Value → Except (MatchError Incomparable) Bool} {b : Bool}
    (undotted : isUndotted k) (found : cells.lookup k = some v) (finite : isFiniteDouble v)
    (tested : test v = .ok b) :
    anyValue Engine.standard [.key k] test (.object ty cells) = .ok b := by
  have read : values Engine.standard (fieldPath [.key k]) (.object ty cells) = .ok [v] := by
    rw [fieldPath_undotted undotted]
    simp only [values, Engine.standard, fields_object found]
    cases v with
    | double x => rfl
    | _ => cases finite
  have lone : [v].anyM test = .ok ([b].any id) := anyM_ok (.cons tested .nil)
  rw [anyValue, read]
  exact lone.trans (by simp)

theorem rowOf_column (found : cells.lookup k = some v) : rowOf cells (columnOf [.key k]) = v := by
  simp [rowOf, columnOf, Segment.text, found]

theorem eval_compare (sign : Sign) (found : cells.lookup k = some v) :
    (Expr.test (columnOf [.key k]) (.compare sign)).eval (rowOf cells) [w] = sign.compare v w := by
  rw [Expr.eval, rowOf_column found, Test.eval]

theorem isNull_number (finite : isFiniteDouble v) : v.isNull = false := by
  cases v with
  | double x => rfl
  | _ => cases finite

theorem eval_isNull (found : cells.lookup k = some v) (finite : isFiniteDouble v) :
    (Expr.test (columnOf [.key k]) .isNull).eval (rowOf cells) [] = some false := by
  rw [Expr.eval, rowOf_column found, Test.eval, isNull_number finite]

theorem eval_isNotNull (found : cells.lookup k = some v) (finite : isFiniteDouble v) :
    (Expr.test (columnOf [.key k]) .isNotNull).eval (rowOf cells) [] = some true := by
  rw [Expr.eval, rowOf_column found, Test.eval, isNull_number finite]
  rfl

variable {op : Operation (Predicate Incomparable)} (undotted : isUndotted k)
  (number : HasNumber cells k) (onField : op.data = [.key k])

include undotted number onField

theorem agree_range (sign : Sign) (operand : op.operand = .scalar w) (right : isFiniteDouble w) :
    Agree ty cells (range Engine.standard sign.admits op)
      (.test (columnOf [.key k]) (.compare sign)) [w] := by
  obtain ⟨v, found, finite⟩ := number
  obtain ⟨o, comparable, compared, value⟩ := compare_eq sign finite right
  have tested : inRange Engine.standard sign.admits (numeric w) v = .ok (sign.admits o) := by
    rw [numeric_double right, inRange, numeric_double finite, ite_self]
    simp only [Predicate.compare, Engine.standard, compared, comparable, if_true]
    rfl
  refine ⟨rfl, sign.admits o, ?_, (eval_compare sign found).trans value⟩
  rw [range, onField, operand]
  exact anyValue_number undotted found finite tested

theorem agree_equal (operand : op.operand = .scalar w) (right : isFiniteDouble w) :
    Agree ty cells (isEqual Engine.standard op) (.test (columnOf [.key k]) (.compare .eq)) [w] := by
  obtain ⟨v, found, finite⟩ := number
  obtain ⟨b, tested, value⟩ := equal_eq finite right
  refine ⟨rfl, b, ?_, (eval_compare .eq found).trans value⟩
  rw [isEqual, onField, operand]
  exact anyValue_number undotted found finite tested

theorem agree_null (operand : op.operand = .scalar .null) :
    Agree ty cells (isEqual Engine.standard op) (.test (columnOf [.key k]) .isNull) [] := by
  obtain ⟨v, found, finite⟩ := number
  have tested : equal Engine.standard .null v = .ok false := by
    obtain ⟨x, a, _, key, _⟩ := sortKey_double finite
    have compared : v.compare .null = .ok .gt := by
      rw [Value.compare, key]
      rfl
    have nothing : numeric .null = .null := rfl
    simp only [equal, numeric_double finite, nothing, Predicate.compare, Engine.standard, compared]
    rfl
  refine ⟨rfl, false, ?_, eval_isNull found finite⟩
  rw [isEqual, onField, operand]
  exact anyValue_number undotted found finite tested

theorem agree_present {b : Bool} (operand : op.operand = .scalar (.bool b)) :
    Agree ty cells (isPresent Engine.standard op)
      (.test (columnOf [.key k]) (if b then .isNotNull else .isNull)) [] := by
  obtain ⟨v, found, finite⟩ := number
  refine ⟨by cases b <;> rfl, b, ?_, ?_⟩
  · rw [isPresent, onField, operand, fieldPath_undotted undotted]
    simp only [Engine.standard, fields_object found]
    cases v with
    | double x => cases b <;> rfl
    | _ => cases finite
  · cases b with
    | true => exact eval_isNotNull found finite
    | false => exact eval_isNull found finite

theorem agree_oneOf {ns : List Node} (operand : op.operand = .sequence ns)
    (numbers : ∀ w ∈ ns.map Node.plain, isFiniteDouble w) :
    Agree ty cells (isOneOf Engine.standard op)
      (.test (columnOf [.key k]) (.isIn ns.length)) (ns.map Node.plain) := by
  obtain ⟨v, found, finite⟩ := number
  obtain ⟨bs, tested, value⟩ := equal_each finite numbers
  refine ⟨by simp [Expr.arity, Test.arity], bs.any id, ?_, ?_⟩
  · rw [isOneOf, operands_eq, onField, operand]
    exact anyValue_number undotted found finite (anyM_ok tested)
  · rw [Expr.eval, rowOf_column found, Test.eval, value, Truth.any_map_some]

end Column

section Column

variable {k : String} {path : Path} {op : Operator} {p : Predicate Incomparable}

/-- The two dialects test a number column in the same way. -/
theorem agree_scalar (undotted : isUndotted k) (number : HasNumber cells k)
    (test : isNumberTest op w)
    (made : ofOperation Engine.standard ⟨op, path, [.key k], .scalar w, [], []⟩ = .ok p) :
    Agree ty cells p (scalarExpr (columnOf [.key k]) op w) (scalarOperands op w) := by
  -- the arguments of a range are found by the type of its operand
  have range_agree : ∀ sign : Sign, isFiniteDouble w → Agree ty cells
      (range Engine.standard sign.admits ⟨op, path, [.key k], .scalar w, [], []⟩)
      (.test (columnOf [.key k]) (.compare sign)) (rangeOperands w) := by
    intro sign finite
    cases w with
    | double x => exact agree_range undotted number rfl sign rfl finite
    | _ => cases finite
  cases op with
  | eq =>
    obtain rfl := Except.ok.inj made
    cases w with
    | null => exact agree_null undotted number rfl rfl
    | double x => exact agree_equal undotted number rfl rfl test
    | _ => cases test
  | ne =>
    obtain rfl := Except.ok.inj made
    -- the predicate negates the equation, where the text has a sign or a test of its own
    cases w with
    | null => exact Agree.of_eval (.negate (agree_null undotted number rfl rfl)) rfl rfl
    | double x =>
      have finite : isFiniteDouble (.double x) := test
      exact Agree.of_eval (.negate (agree_equal undotted number rfl rfl finite)) rfl
        (Sign.compare_ne _ _)
    | _ => cases test
  | gt =>
    obtain rfl := Except.ok.inj made
    exact range_agree .gt test
  | gte =>
    obtain rfl := Except.ok.inj made
    exact range_agree .gte test
  | lt =>
    obtain rfl := Except.ok.inj made
    exact range_agree .lt test
  | lte =>
    obtain rfl := Except.ok.inj made
    exact range_agree .lte test
  | present =>
    obtain rfl := Except.ok.inj made
    cases w with
    | bool b => exact agree_present undotted number rfl rfl
    | _ => cases test
  | _ => cases test

theorem agree_list {ns : List Node} {children : List (Predicate Incomparable)}
    {elements : List Node} (undotted : isUndotted k) (number : HasNumber cells k)
    (list : isNumberList op ns)
    (made : ofOperation Engine.standard ⟨op, path, [.key k], .sequence ns, children, elements⟩ =
      .ok p) : Agree ty cells p (listExpr (columnOf [.key k]) op ns.length) (ns.map Node.plain) := by
  rw [isNumberList, Bool.and_eq_true, List.all_eq_true] at list
  have numbers : ∀ w ∈ ns.map Node.plain, isFiniteDouble w := by
    intro w member
    obtain ⟨n, item, rfl⟩ := List.mem_map.mp member
    obtain ⟨v, scalar, finite⟩ := (Option.any_eq_true _ _).mp (list.2 n item)
    cases n with
    | scalar w => exact Option.some.inj scalar ▸ finite
    | _ => cases scalar
  cases op with
  | oneOf =>
    obtain rfl := Except.ok.inj made
    refine Agree.of_eval (agree_oneOf undotted number rfl rfl numbers) ?_ ?_ <;> cases ns <;> rfl
  | noneOf =>
    obtain rfl := Except.ok.inj made
    refine Agree.of_eval (.negate (agree_oneOf undotted number rfl rfl numbers)) ?_ ?_ <;>
      cases ns <;> rfl
  | _ => cases list.1

end Column

/-! ### Compilations -/

/-- The predicate of an entry agrees with its expression, if the entry is one on numbers. -/
def Agreeing (ty : Ty) (cells : List (String × Value)) (P : Path) (e : String × Node) (_ : Unit)
    (r : Option (Predicate Incomparable)) (_ : Unit) : Prop :=
  ∃ p, r = some p ∧ (isNumberEntry e.1 e.2 ∧ Covers cells (entryFields e.1 e.2) P →
    Agree ty cells p (entryExpr P e.1 e.2) (entryOperands e.1 e.2))

theorem column_of_covers {fields : List String} {P : Path} (onField : P ≠ [])
    (within : ((Predicate.compiler Engine.standard).withDepth 1).language.Within P)
    (covers : Covers cells fields P) :
    ∃ k, P = [.key k] ∧ isUndotted k ∧ HasNumber cells k := by
  cases P with
  | nil => exact absurd rfl onField
  | cons seg rest =>
    obtain ⟨k, rfl, undotted, number⟩ := covers
    have short : ((Segment.key k :: rest).length : Int) ≤ 1 :=
      within.resolve_left (by decide)
    cases rest with
    | nil => exact ⟨k, rfl, undotted, number⟩
    | cons _ _ => simp at short; omega

theorem entries_agree {P : Path} {es : List (String × Node)} {s t : Unit}
    {ps : List (Predicate Incomparable)} (chain : Chain (Agreeing ty cells P) es s ps t)
    (numbers : areNumberEntries es) (covers : Covers cells (entriesFields es) P) :
    AgreeEach ty cells ps (entryExprs P es) (entriesOperands es) := by
  rw [entryExprs_eq, entriesOperands_eq]
  refine agreeEach_of_forall₂ (chain.forall₂ id) fun e member => ?_
  refine ⟨areNumberEntries_iff.mp numbers e member, covers.mono fun k field => ?_⟩
  exact mem_entriesFields.mpr ⟨e, member, field⟩

theorem filter_agree {P : Path} {n : Node} {s t : Unit} {r : Option (Predicate Incomparable)}
    (h : ((Predicate.compiler Engine.standard).withDepth 1).FilterOf (Agreeing ty cells) P n s r t) :
    ∃ p, r = some p ∧ (isNumberFilter n ∧ Covers cells (fieldsOf n) P →
      Agree ty cells p (filterExpr P n) (operands n)) := by
  obtain ⟨es, path, ps, _, rfl, chain, generated⟩ := h
  obtain ⟨p, made, rfl⟩ := Predicate.yields_generator (generator?_and _) generated
  obtain rfl := Except.ok.inj made
  refine ⟨_, rfl, ?_⟩
  rintro ⟨numbers, covers⟩
  exact (entries_agree chain numbers covers).allOf

theorem closed_agreeing (ty : Ty) (cells : List (String × Value)) :
    ((Predicate.compiler Engine.standard).withDepth 1).Closed (Agreeing ty cells) where
  field {P _ key es _ _ _ ps r} isField entries generated := by
    obtain ⟨p, made, rfl⟩ := Predicate.yields_generator (generator?_and _) generated
    obtain rfl := Except.ok.inj made
    refine ⟨_, rfl, ?_⟩
    rintro ⟨numbers, covers⟩
    rw [isNumberEntry, Bool.and_eq_true] at numbers
    rw [entryFields, isField, if_neg Bool.false_ne_true] at covers
    rw [entryExpr, Operator.ofName?_of_field isField]
    exact (entries_agree entries numbers.2 (covers.below numbers.1 _)).allOf
  equals {P _ key v _ _ r} isField within generated := by
    obtain ⟨p, made, rfl⟩ := Predicate.yields_generator (generator?_eq _) generated
    refine ⟨p, rfl, ?_⟩
    rintro ⟨numbers, covers⟩
    rw [isNumberEntry, Bool.and_eq_true, Operator.ofName?_of_field isField] at numbers
    rw [entryFields, isField, if_neg Bool.false_ne_true] at covers
    rw [entryExpr, entryOperands, Operator.ofName?_of_field isField]
    obtain ⟨k, same, undotted, number⟩ :=
      column_of_covers (by simp) within (covers.below numbers.1 [])
    rw [same] at made ⊢
    exact agree_scalar undotted number numbers.2 made
  combine {P _ key op g ns _ _ _ ps r} named found combinator _ filters generated := by
    obtain ⟨p, made, rfl⟩ := Predicate.yields_generator found generated
    refine ⟨p, rfl, ?_⟩
    rintro ⟨numbers, covers⟩
    rw [isNumberEntry, named] at numbers
    dsimp only at numbers
    rw [if_pos combinator, areNumberFilters_iff] at numbers
    rw [entryFields] at covers
    have each : AgreeEach ty cells ps (filterExprs P ns) (itemsOperands ns) := by
      rw [filterExprs_eq, itemsOperands_eq]
      refine agreeEach_of_forall₂ (filters.forall₂ fun h => filter_agree h) fun n member => ?_
      exact ⟨numbers n member, covers.mono fun k field => mem_itemsFields.mpr ⟨n, member, field⟩⟩
    rw [entryExpr, entryOperands, named]
    cases op with
    | and =>
      obtain rfl := Except.ok.inj made
      exact each.allOf
    | or =>
      obtain rfl := Except.ok.inj made
      exact each.anyOf
    | nor =>
      obtain rfl := Except.ok.inj made
      exact each.noneOf
    | _ => cases combinator
  negate {P _ key g es _ _ _ ps r} named found onField within entries generated := by
    obtain ⟨p, made, rfl⟩ := Predicate.yields_generator found generated
    obtain rfl := Except.ok.inj made
    refine ⟨_, rfl, ?_⟩
    rintro ⟨numbers, covers⟩
    rw [isNumberEntry, Bool.and_eq_true] at numbers
    rw [entryExpr, named]
    obtain ⟨k, rfl, undotted, number⟩ := column_of_covers onField within covers
    exact (entries_agree entries numbers.2 ⟨k, rfl, undotted, number⟩).notAllOf
  values {P _ key op g ns _ _ _ parts r} named found list onField within _ generated := by
    obtain ⟨p, made, rfl⟩ := Predicate.yields_generator found generated
    refine ⟨p, rfl, ?_⟩
    rintro ⟨numbers, covers⟩
    obtain ⟨k, rfl, undotted, number⟩ := column_of_covers onField within covers
    rw [isNumberEntry, named] at numbers
    rw [entryExpr, entryOperands, named, Option.any_some, if_pos list]
    cases op with
    | oneOf | noneOf => exact agree_list undotted number numbers made
    | allOf => cases numbers
    | _ => cases list
  scalar {P _ key op g v _ _ r} named found _ onField within generated := by
    obtain ⟨p, made, rfl⟩ := Predicate.yields_generator found generated
    refine ⟨p, rfl, ?_⟩
    rintro ⟨numbers, covers⟩
    obtain ⟨k, rfl, undotted, number⟩ := column_of_covers onField within covers
    rw [isNumberEntry, Bool.and_eq_true, named] at numbers
    rw [entryExpr, entryOperands, named]
    exact agree_scalar undotted number numbers.2 made

/-- A filter on numbers, with data paths of one segment, has one answer for an item with numbers in
the fields of the filter: the predicate answers as the SQL text of every style does, read as an
expression and evaluated on the row of the item with the arguments for the placeholders. -/
theorem compile_agrees_on_numbers {style : Style} {q : Node} {f : Fragment}
    {p : Predicate Incomparable} (compiled : ((compiler style).withDepth 1).compile q = .ok f)
    (matcher : ((Predicate.compiler Engine.standard).withDepth 1).compile q = .ok p)
    (numbers : isNumberFilter q) (covers : ∀ k ∈ fieldsOf q, HasNumber cells k) :
    Aligned style (f.text style) f.args ∧ ∃ e b, parse (f.text style) = some e ∧
      p (.object ty cells) = .ok b ∧ e.eval (rowOf cells) f.args = some b := by
  obtain ⟨bound, placeholders⟩ := compile_args compiled
  obtain ⟨proper, same, arity⟩ := compile_filterExpr compiled
  obtain ⟨a, s, t, generated, resolved⟩ := compile_eq_ok_iff.mp matcher
  obtain ⟨rfl, _⟩ := yields_pure.mp resolved
  obtain ⟨r, filter, rfl⟩ := (closed_agreeing ty cells).generate generated
  obtain ⟨p, rfl, agrees⟩ := filter_agree filter
  obtain ⟨b, answer, value⟩ := (agrees ⟨numbers, covers⟩).same
  refine ⟨?_, (filterExpr [] q).unwrap, b, ?_, answer, ?_⟩
  · rw [Aligned, ← placeholders]
    exact f.condition.hasPlaceholders style
  · have numbering := Expr.numbers 1 proper
    rw [same, Fragment.text, Condition.parse_text style numbering.wellFormed, numbering.expr_eq]
  · rw [bound, Expr.eval_unwrap (rowOf cells) _ arity.ge, value]

theorem compile_agrees_on_numbers_negated :
    let two := Value.double (.finite false 2 0)
    let half := Value.double (.finite true 1 (-1))
    let q := Node.mapping [("a", .mapping [("$not", .mapping [("$gt", .scalar two)])]),
      ("$or", .sequence [.mapping [("b", .scalar .null)],
        .mapping [("b", .mapping [("$in", .sequence [.scalar half, .scalar two])])]])]
    let cells := [("a", half), ("b", two), ("c", .text "x")]
    ∃ f p, ((compiler .dollar).withDepth 1).compile q = .ok f ∧
      ((Predicate.compiler Engine.standard).withDepth 1).compile q = .ok p ∧ isNumberFilter q ∧
        (∀ k ∈ fieldsOf q, HasNumber cells k) ∧ ∃ e b, parse (f.text .dollar) = some e ∧
          p (.object .any cells) = .ok b ∧ e.eval (rowOf cells) f.args = some b := by
  intro two half q cells
  obtain ⟨f, compiled⟩ : ∃ f, ((compiler .dollar).withDepth 1).compile q = .ok f := ⟨_, rfl⟩
  obtain ⟨p, matcher⟩ : ∃ p,
      ((Predicate.compiler Engine.standard).withDepth 1).compile q = .ok p := ⟨_, rfl⟩
  have covers : ∀ k ∈ fieldsOf q, HasNumber cells k := by
    have fields : fieldsOf q = ["a", "b", "b"] := rfl
    rw [fields]
    intro k member
    simp only [List.mem_cons, List.not_mem_nil, or_false, or_self] at member
    rcases member with rfl | rfl
    · exact ⟨half, rfl, rfl⟩
    · exact ⟨two, rfl, rfl⟩
  exact ⟨f, p, compiled, matcher, rfl, covers,
    (compile_agrees_on_numbers compiled matcher rfl covers).2⟩

end FilterQuery.Sql
