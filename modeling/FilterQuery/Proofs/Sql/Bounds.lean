import FilterQuery.Proofs.Compile.Condition
import FilterQuery.Proofs.Sql.Evaluation
import FilterQuery.Proofs.Value.Exact

/-!
# Numbers as operands

A number that is tested for equality is bound as it is. The bound of a range is bound as a double, which
keeps floats and rounds integers to 53 significant bits (`compile_binds_numbers`). So the ranges from and
up to an integer meet in it exactly if it has no more bits than that.
-/

namespace FilterQuery

def Operator.isRange : Operator → Bool
  | .gt | .gte | .lt | .lte => true
  | _ => false

namespace Sql

open Compiler

/-! ### The tests of a filter -/

mutual

/-- The operators of a filter with their operands, in document order; an operator on a list stands
with each item. -/
def tests : Node → List (Operator × Value)
  | .mapping es => entriesTests es
  | _ => []

def entriesTests : List (String × Node) → List (Operator × Value)
  | [] => []
  | (key, n) :: es => entryTests key n ++ entriesTests es

def entryTests (key : String) : Node → List (Operator × Value)
  | .mapping es => entriesTests es
  | .sequence ns =>
    if (Operator.ofName? key).any Operator.takesValues then
      ns.map fun n => ((Operator.ofName? key).getD .eq, n.plain)
    else itemsTests ns
  | .scalar v => [((Operator.ofName? key).getD .eq, v)]

def itemsTests : List Node → List (Operator × Value)
  | [] => []
  | n :: ns => tests n ++ itemsTests ns

end

/-- What a test binds. -/
def testOperands (t : Operator × Value) : List Value := scalarOperands t.1 t.2

theorem scalarOperands_item {op : Operator} (list : op.takesValues) (v : Value) :
    scalarOperands op v = [v] := by
  cases op with
  | oneOf | noneOf | allOf => rfl
  | _ => cases list

mutual

theorem operands_tests : ∀ q : Node, operands q = (tests q).flatMap testOperands
  | .mapping es => by rw [operands, tests, entriesOperands_tests es]
  | .scalar _ | .sequence _ => rfl

theorem entriesOperands_tests : ∀ es : List (String × Node),
    entriesOperands es = (entriesTests es).flatMap testOperands
  | [] => rfl
  | (key, n) :: es => by
    rw [entriesOperands, entriesTests, List.flatMap_append, entryOperands_tests key n,
      entriesOperands_tests es]

theorem entryOperands_tests (key : String) : ∀ n : Node,
    entryOperands key n = (entryTests key n).flatMap testOperands
  | .mapping es => by rw [entryOperands, entryTests, entriesOperands_tests es]
  | .sequence ns => by
    rw [entryOperands, entryTests]
    split
    · rename_i list
      obtain ⟨op, named, takes⟩ := (Option.any_eq_true _ _).mp list
      rw [named, List.flatMap_map, List.map_eq_flatMap]
      congr 1
      funext n
      exact (scalarOperands_item takes n.plain).symm
    · exact itemsOperands_tests ns
  | .scalar v => by rw [entryOperands, entryTests, List.flatMap_singleton, testOperands]

theorem itemsOperands_tests : ∀ ns : List Node,
    itemsOperands ns = (itemsTests ns).flatMap testOperands
  | [] => rfl
  | n :: ns => by
    rw [itemsOperands, itemsTests, List.flatMap_append, operands_tests n, itemsOperands_tests ns]

end

/-! ### What a number binds -/

/-- What an operand that is a finite number binds: itself, or the nearest double as the bound of a
range. -/
structure BindsNumber (op : Operator) (v a : Value) : Prop where
  unchanged : op.isRange = false → a = v
  rounded : op.isRange = true → a.rational? = v.exactDouble?

theorem rangeOperands_number {v : Value} (finite : v.isFiniteNumber) :
    ∃ a, rangeOperands v = [a] ∧ a.rational? = v.exactDouble? := by
  obtain ⟨x, read, -, value⟩ := Value.exact_asDouble finite
  have builtIn : rangeOperands v = (v.asDouble?.map Value.double).toList := by
    cases v with
    | int _ | single _ | double _ => rfl
    | _ => cases finite
  refine ⟨.double x, ?_, value⟩
  rw [builtIn, read]
  rfl

theorem scalarOperands_range {op : Operator} (range : op.isRange = true) (v : Value) :
    scalarOperands op v = rangeOperands v := by
  cases op with
  | gt | gte | lt | lte => cases v <;> rfl
  | _ => cases range

theorem scalarOperands_unchanged {op : Operator} {v : Value} (finite : v.isFiniteNumber)
    (noRange : op.isRange = false) (other : op ≠ .present) : scalarOperands op v = [v] := by
  cases op with
  | gt | gte | lt | lte => cases noRange
  | present => exact absurd rfl other
  | _ =>
    cases v with
    | int _ | single _ | double _ => rfl
    | _ => cases finite

theorem scalarOperands_number {op : Operator} {v : Value} (finite : v.isFiniteNumber)
    (other : op ≠ .present) : ∃ a, scalarOperands op v = [a] ∧ BindsNumber op v a := by
  cases range : op.isRange with
  | false =>
    refine ⟨v, scalarOperands_unchanged finite range other, fun _ => rfl, fun isRange => ?_⟩
    rw [range] at isRange
    cases isRange
  | true =>
    obtain ⟨a, bound, value⟩ := rangeOperands_number finite
    refine ⟨a, (scalarOperands_range range v).trans bound, fun noRange => ?_, fun _ => value⟩
    rw [range] at noRange
    cases noRange

/-- The number that is left of an operand is the operand, unless an integer of more than 53 significant
bits is the bound of a range. -/
theorem BindsNumber.exact_iff {op : Operator} {v a : Value} (binds : BindsNumber op v a) :
    a.rational? = v.rational? ↔ (op.isRange → ∀ n, v = .int n → Extended.isShort n.val) := by
  cases order : op.isRange with
  | false => simp [binds.unchanged order]
  | true =>
    rw [binds.rounded order]
    cases v with
    | int n =>
      rw [Value.exactDouble?, Value.rational?, Option.some_inj, Int.cast_inj, Extended.nearest_eq_iff]
      simp
    | _ => simp [Value.exactDouble?]

/-! ### Filters of one test -/

/-- The comparison that an operator on a number makes. -/
def signOf? : Operator → Option Sign
  | .eq => some .eq
  | .ne => some .ne
  | .gt => some .gt
  | .gte => some .gte
  | .lt => some .lt
  | .lte => some .lte
  | _ => none

/-- A row whose column holds the number passes the text of a filter that compares the column with one
argument. -/
def Fragment.Admits (style : Style) (f : Fragment) (c : Column) (x : ℚ) : Prop :=
  ∃ sign a y, parse (f.text style) = some (.test c (.compare sign)) ∧ f.args = [a] ∧
    a.rational? = some y ∧ sign.holds x y

section Condition

variable {op : Operator} {n q : Node} {keys : List String}

theorem filterExpr_condition (condition : Node.IsCondition op n keys q) :
    (filterExpr [] q).unwrap = (entryExpr (keys.map Segment.key) op.name n).unwrap := by
  refine condition.descend (F := fun P q => (filterExpr P q).unwrap)
    (E := fun P key n => (entryExpr P key n).unwrap) ?_ ?_ ?_ []
  · intro P key n
    rfl
  · intro P key v isField
    simp only [entryExpr, Operator.ofName?_of_field isField, Operator.ofName?_name]
  · intro P key es isField
    simp only [entryExpr, filterExpr, Operator.ofName?_of_field isField]

theorem operands_condition (condition : Node.IsCondition op n keys q) :
    operands q = entryOperands op.name n := by
  refine condition.descend (F := fun _ q => operands q) (E := fun _ key n => entryOperands key n)
    ?_ ?_ ?_ []
  · intro _ key n
    exact List.append_nil _
  · intro _ key v isField
    simp only [entryOperands, Operator.ofName?_of_field isField, Operator.ofName?_name]
    rfl
  · intro _ key es isField
    rfl

theorem columnOf_keys (keys : List String) : columnOf (keys.map Segment.key) = keys := by
  simp [columnOf, Segment.text, Function.comp_def]

variable {style : Style} {depth : Int} {f : Fragment}

theorem admits_iff {n : SizedInt} {sign : Sign} (comparison : signOf? op = some sign)
    (condition : Node.IsCondition op (.scalar (.int n)) keys q)
    (compiled : ((compiler style).withDepth depth).compile q = .ok f) (x : ℚ) :
    f.Admits style keys x ↔
      sign.holds x ((if op.isRange then Extended.nearest n.val else n.val : Int) : ℚ) := by
  have other : op ≠ .present := by
    rintro rfl
    cases comparison
  have text : parse (f.text style) = some (.test keys (.compare sign)) := by
    rw [parse_of_compile compiled, filterExpr_condition condition, entryExpr,
      Operator.ofName?_name, columnOf_keys]
    cases op <;> first | cases comparison; rfl | cases comparison
  obtain ⟨a, bound, binds⟩ := scalarOperands_number (v := .int n) rfl other
  have args : f.args = [a] := by
    obtain ⟨-, rfl, -⟩ := compile_filterExpr compiled
    rw [operands_condition condition, entryOperands, Operator.ofName?_name]
    exact bound
  have value : a.rational? =
      some ((if op.isRange then Extended.nearest n.val else n.val : Int) : ℚ) := by
    cases range : op.isRange with
    | false => rw [binds.unchanged range]; rfl
    | true => rw [binds.rounded range]; rfl
  constructor
  · rintro ⟨sign', a', y, text', args', value', holds⟩
    rw [text] at text'
    cases text'
    rw [args] at args'
    cases args'
    rw [value] at value'
    cases value'
    exact holds
  · intro holds
    exact ⟨sign, a, _, text, args, value, holds⟩

end Condition

/-- Of the operands of a filter that compiles, each finite number is bound as one argument, which is
that number unless it is an integer of more than 53 significant bits and the bound of a range. A column
passes the text of a comparison if it passes that with the argument; so an integer lies in the range
from it and in that up to it exactly if it has no more bits. -/
theorem compile_binds_numbers (style : Style) (depth : Int) :
    (∀ {q : Node} {f : Fragment}, ((compiler style).withDepth depth).compile q = .ok f →
      ∃ bound : List (List Value), f.args = bound.flatten ∧
        List.Forall₂ (fun t args => t.2.isFiniteNumber → t.1 ≠ .present → ∃ a, args = [a] ∧
          BindsNumber t.1 t.2 a ∧
          (a.rational? = t.2.rational? ↔
            (t.1.isRange → ∀ n, t.2 = .int n → Extended.isShort n.val))) (tests q) bound) ∧
    (∀ {op : Operator} {sign : Sign} {n : SizedInt} {keys : List String} {q : Node} {f : Fragment},
      signOf? op = some sign → Node.IsCondition op (.scalar (.int n)) keys q →
      ((compiler style).withDepth depth).compile q = .ok f → ∀ x : ℚ,
        (f.Admits style keys x ↔
          sign.holds x ((if op.isRange then Extended.nearest n.val else n.val : Int) : ℚ))) ∧
    (∀ {n : SizedInt} {keys : List String} {q q' : Node} {f f' : Fragment},
      Node.IsCondition .gte (.scalar (.int n)) keys q →
      Node.IsCondition .lte (.scalar (.int n)) keys q' →
      ((compiler style).withDepth depth).compile q = .ok f →
      ((compiler style).withDepth depth).compile q' = .ok f' →
        (f.Admits style keys n.val ∧ f'.Admits style keys n.val ↔ Extended.isShort n.val)) := by
  refine ⟨fun {q f} compiled => ?_, fun comparison condition compiled =>
    admits_iff comparison condition compiled, fun {n keys q q' f f'} least greatest compiled compiled' => ?_⟩
  · obtain ⟨-, rfl, -⟩ := compile_filterExpr compiled
    refine ⟨(tests q).map testOperands, ?_, ?_⟩
    · rw [operands_tests, List.flatMap_def]
    · rw [List.forall₂_map_right_iff, List.forall₂_same]
      intro t _ finite other
      obtain ⟨a, bound, binds⟩ := scalarOperands_number finite other
      exact ⟨a, bound, binds, binds.exact_iff⟩
  · rw [admits_iff rfl least compiled, admits_iff rfl greatest compiled', ← Extended.nearest_eq_iff]
    simp only [Operator.isRange, if_true, Sign.holds, decide_eq_true_eq, ge_iff_le, Int.cast_le]
    omega

/-- The bounds of a range are kept if they have 53 bits or are floats. -/
theorem compile_binds_numbers_bounds :
    let low := Value.int ⟨.int64, 9007199254740994, by decide, by decide⟩
    let high := Value.single (.finite false 3 60)
    ∃ f, ((compiler .question).withDepth 2).compile
        (.mapping [("a", .mapping [("$gte", .scalar low), ("$lt", .scalar high)])]) = .ok f ∧
      f.args.map Value.rational? = [low.rational?, high.rational?] := by
  intro low high
  obtain ⟨f, compiled⟩ : ∃ f, ((compiler .question).withDepth 2).compile
      (.mapping [("a", .mapping [("$gte", .scalar low), ("$lt", .scalar high)])]) = .ok f := ⟨_, rfl⟩
  refine ⟨f, compiled, ?_⟩
  obtain ⟨bound, args, each⟩ := (compile_binds_numbers .question 2).1 compiled
  have tested : tests (.mapping [("a", .mapping [("$gte", .scalar low), ("$lt", .scalar high)])]) =
      [(.gte, low), (.lt, high)] := rfl
  have short : Extended.isShort 9007199254740994 := ⟨4503599627370497, 1, by decide, by decide⟩
  rw [tested] at each
  obtain ⟨ofLow, _, first, rest, rfl⟩ := List.forall₂_cons_left_iff.mp each
  obtain ⟨ofHigh, _, second, none, rfl⟩ := List.forall₂_cons_left_iff.mp rest
  obtain rfl := List.forall₂_nil_left_iff.mp none
  obtain ⟨a, rfl, -, exact⟩ := first rfl (by decide)
  obtain ⟨b, rfl, -, exact'⟩ := second rfl (by decide)
  have kept : a.rational? = low.rational? := exact.mpr fun _ n same => by
    obtain rfl := Value.int.inj same
    exact short
  have kept' : b.rational? = high.rational? := exact'.mpr fun _ n same => by cases same
  rw [args]
  simp only [List.flatten_cons, List.flatten_nil, List.append_nil, List.singleton_append,
    List.map_cons, List.map_nil, kept, kept']

/-- The integer after `2 ^ 53` is bound as another number if it is the bound of a range. -/
theorem compile_bound_rounded :
    let n := Value.int ⟨.int64, 9007199254740993, by decide, by decide⟩
    (∃ f, ((compiler .question).withDepth 2).compile
        (.mapping [("a", .mapping [("$lte", .scalar n)])]) = .ok f ∧
      f.args.map Value.rational? = [some 9007199254740992] ∧
      ¬ f.Admits .question ["a"] 9007199254740993) ∧
    (∃ f, ((compiler .question).withDepth 2).compile (.mapping [("a", .scalar n)]) = .ok f ∧
      f.args = [n]) := by
  intro n
  refine ⟨?_, _, rfl, rfl⟩
  obtain ⟨f, compiled⟩ : ∃ f, ((compiler .question).withDepth 2).compile
      (.mapping [("a", .mapping [("$lte", .scalar n)])]) = .ok f := ⟨_, rfl⟩
  have rounded : Extended.nearest 9007199254740993 = 9007199254740992 := by decide
  obtain ⟨a, bound, value⟩ := rangeOperands_number (v := n) rfl
  have args : f.args = [a] := by
    obtain ⟨-, rfl, -⟩ := compile_filterExpr compiled
    exact (List.append_nil _).trans ((List.append_nil _).trans bound)
  refine ⟨f, compiled, ?_, ?_⟩
  · have exact : n.exactDouble? = some ((Extended.nearest 9007199254740993 : Int) : ℚ) := rfl
    rw [args, List.map_singleton, value, exact, rounded]
    norm_num
  · have comparison : signOf? .lte = some .lte := rfl
    rw [admits_iff comparison (.field rfl .operator) compiled]
    simp only [Operator.isRange, if_true, rounded, Sign.holds]
    norm_num

end Sql

end FilterQuery
