import FilterQuery.Proofs.Compile.Induction
import FilterQuery.Proofs.Value.Plain

/-!
# The meaning of filters

`Satisfies` says top-down, with the path of the field as context, when an item satisfies a filter.
It has no errors and no artifacts. A compiled predicate answers for every plain item, and its answer
is that of `Satisfies`.
-/

namespace FilterQuery.Predicate

open Generation Compiler

/-! ### Conditions on a field -/

/-- The values at a data path of an item that are there, lists replaced by their items. -/
def valuesAt (item : Value) (P : Path) : List Value :=
  ((item.fields (fieldPath P)).1.filterMap id).flatMap flatten

/-- A value equals an operand: a regular expression matches it, or the two compare as equal where
texts that hold numbers are numbers. -/
def Equals (v want : Value) : Prop :=
  match want.regex? with
  | some re => matchesValue re v
  | none => (numeric v).compare (numeric want) = .ok .eq

/-- A value and an operand are comparable and stand in a relation. A text that holds a number is a
number as operand, and as value if the operand then is a built-in number. -/
def Compares (holds : Ordering → Bool) (v want : Value) : Prop :=
  let w := numeric want
  let v := if w.asDouble?.isSome then numeric v else v
  v.comparable w ∧ ∃ o, v.compare w = .ok o ∧ holds o

def wants : Node → List Value
  | .sequence ns => ns.map Node.plain
  | _ => []

/-- An item satisfies the condition of an operator with an operand on the field at a path. -/
def Satisfied (item : Value) (P : Path) (op : Operator) (n : Node) : Prop :=
  match op with
  | .eq => ∃ v ∈ valuesAt item P, Equals v n.plain
  | .ne => ¬∃ v ∈ valuesAt item P, Equals v n.plain
  | .gt => ∃ v ∈ valuesAt item P, Compares Ordering.isGT v n.plain
  | .gte => ∃ v ∈ valuesAt item P, Compares Ordering.isGE v n.plain
  | .lt => ∃ v ∈ valuesAt item P, Compares Ordering.isLT v n.plain
  | .lte => ∃ v ∈ valuesAt item P, Compares Ordering.isLE v n.plain
  | .oneOf => ∃ v ∈ valuesAt item P, ∃ w ∈ wants n, Equals v w
  | .noneOf => ¬∃ v ∈ valuesAt item P, ∃ w ∈ wants n, Equals v w
  | .allOf => ∀ w ∈ wants n, ∃ v ∈ valuesAt item P, Equals v w
  | .like => ∃ re, pattern? n.plain = some re ∧ ∃ v ∈ valuesAt item P, matchesValue re v
  | .present =>
    (∃ v, some v ∈ (item.fields (fieldPath P)).1 ∧ v.isNull = false) ↔ n.plain = .bool true
  | .and | .or | .nor | .not => False

/-! ### Filters -/

mutual

/-- An item satisfies a filter on the field at a path: it satisfies all of its entries. -/
def Satisfies (item : Value) (P : Path) : Node → Prop
  | .mapping es => SatisfiesEntries item P es
  | _ => False

def SatisfiesEntries (item : Value) (P : Path) : List (String × Node) → Prop
  | [] => True
  | (key, n) :: es => SatisfiesEntry item P key n ∧ SatisfiesEntries item P es

/-- An item satisfies one entry. A key that is no operator leads to a field of the field; only
`$not` has a mapping as its operand. -/
def SatisfiesEntry (item : Value) (P : Path) (key : String) : Node → Prop
  | .mapping es =>
    match Operator.ofName? key with
    | none => SatisfiesEntries item (P ++ [.key key]) es
    | some .not => ¬SatisfiesEntries item P es
    | some _ => False
  | .sequence ns =>
    match Operator.ofName? key with
    | some .and => SatisfiesAll item P ns
    | some .or => SatisfiesAny item P ns
    | some .nor => ¬SatisfiesAny item P ns
    | some op => Satisfied item P op (.sequence ns)
    | none => False
  | .scalar v =>
    match Operator.ofName? key with
    | none => Satisfied item (P ++ [.key key]) .eq (.scalar v)
    | some op => Satisfied item P op (.scalar v)

def SatisfiesAll (item : Value) (P : Path) : List Node → Prop
  | [] => True
  | n :: ns => Satisfies item P n ∧ SatisfiesAll item P ns

def SatisfiesAny (item : Value) (P : Path) : List Node → Prop
  | [] => False
  | n :: ns => Satisfies item P n ∨ SatisfiesAny item P ns

end

variable {item : Value} {P : Path}

theorem satisfies_mapping {es : List (String × Node)} :
    Satisfies item P (.mapping es) ↔ ∀ e ∈ es, SatisfiesEntry item P e.1 e.2 := by
  rw [Satisfies]
  induction es with
  | nil => simp [SatisfiesEntries]
  | cons e es ih => simp [SatisfiesEntries, ih]

theorem satisfiesAll_iff {ns : List Node} :
    SatisfiesAll item P ns ↔ ∀ n ∈ ns, Satisfies item P n := by
  induction ns with
  | nil => simp [SatisfiesAll]
  | cons n ns ih => simp [SatisfiesAll, ih]

theorem satisfiesAny_iff {ns : List Node} :
    SatisfiesAny item P ns ↔ ∃ n ∈ ns, Satisfies item P n := by
  induction ns with
  | nil => simp [SatisfiesAny]
  | cons n ns ih => simp [SatisfiesAny, ih]

/-! ### Answers -/

section Answers

variable {ε ι κ : Type}

/-- There is an answer, and it is whether the proposition holds. -/
def Answers (x : Except ε Bool) (φ : Prop) : Prop := ∃ b, x = .ok b ∧ (b = true ↔ φ)

theorem answers_ok {b : Bool} {φ : Prop} (h : b = true ↔ φ) : Answers (.ok b : Except ε Bool) φ :=
  ⟨b, rfl, h⟩

theorem answers_negate {ε : Type} {p : Predicate ε} {item : Value} {φ : Prop}
    (h : Answers (p item) φ) : Answers (negate p item) (¬φ) := by
  obtain ⟨b, answer, meaning⟩ := h
  refine ⟨!b, by rw [negate, answer]; rfl, ?_⟩
  rw [← meaning]
  simp

theorem answers_allM {f : κ → Except ε Bool} {φ : ι → Prop} {xs : List ι} {ys : List κ}
    (each : List.Forall₂ (fun x y => Answers (f y) (φ x)) xs ys) :
    Answers (ys.allM f) (∀ x ∈ xs, φ x) := by
  induction each with
  | nil => exact answers_ok (by simp)
  | cons first _ ih =>
    obtain ⟨b, answer, meaning⟩ := first
    obtain ⟨b', answer', meaning'⟩ := ih
    rw [List.allM, answer, List.forall_mem_cons, ← meaning]
    cases b with
    | false => exact answers_ok (by simp)
    | true => exact ⟨b', answer', by simpa using meaning'⟩

theorem answers_anyM {f : κ → Except ε Bool} {φ : ι → Prop} {xs : List ι} {ys : List κ}
    (each : List.Forall₂ (fun x y => Answers (f y) (φ x)) xs ys) :
    Answers (ys.anyM f) (∃ x ∈ xs, φ x) := by
  induction each with
  | nil => exact answers_ok (by simp)
  | @cons x _ xs _ first _ ih =>
    obtain ⟨b, answer, meaning⟩ := first
    obtain ⟨b', answer', meaning'⟩ := ih
    have either : (∃ y ∈ x :: xs, φ y) ↔ φ x ∨ ∃ y ∈ xs, φ y := by simp
    rw [List.anyM, answer, either, ← meaning]
    cases b with
    | false => exact ⟨b', answer', by simpa using meaning'⟩
    | true => exact answers_ok (by simp)

end Answers

/-! ### Operators on fields -/

theorem values_eq (item : Value) (P : Path) :
    values Engine.standard (fieldPath P) item = .ok (valuesAt item P) := by
  have flattened : ∀ found : List (Option Value),
      (found.flatMap fun v? => (v?.map flatten).getD []) = (found.filterMap id).flatMap flatten := by
    intro found
    induction found with
    | nil => rfl
    | cons v? found ih => cases v? <;> simp [ih]
  simp only [values, Engine.standard, valuesAt, flattened]

theorem valuesAt_plain (plain : item.isPlain) (P : Path) : ∀ v ∈ valuesAt item P, v.isPlain := by
  intro v member
  obtain ⟨w, found, member⟩ := List.mem_flatMap.mp member
  obtain ⟨w?, found, same⟩ := List.mem_filterMap.mp found
  refine Value.flatten_plain (Value.fields_plain plain (fieldPath P) ?_) v member
  rwa [← same]

theorem equal_answers {v : Value} (plain : v.isPlain) (want : Value) :
    Answers (equal Engine.standard want v) (Equals v want) := by
  -- only the value has to be plain: a comparison fails at a part of its left side
  obtain ⟨o, compared⟩ := Value.compare_plain (Value.numeric_plain plain) (numeric want)
  unfold equal Equals
  cases want.regex? with
  | some re => exact answers_ok Iff.rfl
  | none =>
    refine ⟨o == .eq, ?_, by simp [compared]⟩
    simp only [compare, Engine.standard, compared]
    rfl

theorem comparable_answers {v : Value} (plain : v.isPlain) (holds : Ordering → Bool) (want : Value) :
    Answers (if v.comparable want then do return holds (← compare Engine.standard v want)
      else .ok false) (v.comparable want ∧ ∃ o, v.compare want = .ok o ∧ holds o) := by
  obtain ⟨o, compared⟩ := Value.compare_plain plain want
  cases v.comparable want with
  | false => exact answers_ok (by simp)
  | true =>
    refine ⟨holds o, ?_, by simp [compared]⟩
    simp only [compare, Engine.standard, compared]
    rfl

theorem inRange_answers {v : Value} (plain : v.isPlain) (holds : Ordering → Bool) (want : Value) :
    Answers (inRange Engine.standard holds (numeric want) v) (Compares holds v want) := by
  unfold inRange Compares
  dsimp only
  cases (numeric want).asDouble?.isSome with
  | true => exact comparable_answers (Value.numeric_plain plain) holds _
  | false => exact comparable_answers plain holds _

theorem anyValue_answers (plain : item.isPlain) {test : Value → Except (MatchError Incomparable) Bool}
    {φ : Value → Prop} (each : ∀ v, v.isPlain → Answers (test v) (φ v)) :
    Answers (anyValue Engine.standard P test item) (∃ v ∈ valuesAt item P, φ v) := by
  rw [anyValue, values_eq]
  exact answers_anyM (List.forall₂_same.mpr fun v member =>
    each v (valuesAt_plain plain P v member))

theorem operands_eq (n : Node) : operands n = wants n := by
  have items : ∀ ns, Node.plainItems ns = ns.map Node.plain := by
    intro ns
    induction ns with
    | nil => rfl
    | cons n ns ih => simp [Node.plainItems, ih]
  cases n with
  | sequence ns => exact items ns
  | _ => rfl

variable {op : Operation (Predicate Incomparable)}

theorem isEqual_answers (plain : item.isPlain) :
    Answers (isEqual Engine.standard op item) (∃ v ∈ valuesAt item op.data, Equals v op.operand.plain) :=
  anyValue_answers plain fun _ value => equal_answers value _

theorem range_answers (plain : item.isPlain) (holds : Ordering → Bool) :
    Answers (range Engine.standard holds op item)
      (∃ v ∈ valuesAt item op.data, Compares holds v op.operand.plain) :=
  anyValue_answers plain fun _ value => inRange_answers value holds _

theorem isOneOf_answers (plain : item.isPlain) :
    Answers (isOneOf Engine.standard op item)
      (∃ v ∈ valuesAt item op.data, ∃ w ∈ wants op.operand, Equals v w) := by
  rw [isOneOf, operands_eq]
  exact anyValue_answers plain fun _ value =>
    answers_anyM (List.forall₂_same.mpr fun w _ => equal_answers value w)

theorem hasAll_answers (plain : item.isPlain) :
    Answers (hasAll Engine.standard op item)
      (∀ w ∈ wants op.operand, ∃ v ∈ valuesAt item op.data, Equals v w) := by
  rw [hasAll, values_eq, operands_eq]
  refine answers_allM (List.forall₂_same.mpr fun w _ => answers_anyM ?_)
  exact List.forall₂_same.mpr fun v member =>
    equal_answers (valuesAt_plain plain op.data v member) w

theorem isPresent_answers {v : Value} (operand : op.operand = .scalar v) :
    Answers (isPresent Engine.standard op item)
      ((∃ v, some v ∈ (item.fields (fieldPath op.data)).1 ∧ v.isNull = false) ↔ v = .bool true) := by
  simp only [isPresent, Engine.standard, operand]
  refine answers_ok ?_
  have there : ((item.fields (fieldPath op.data)).1.any fun v? => v?.any fun v => !v.isNull) = true ↔
      ∃ v, some v ∈ (item.fields (fieldPath op.data)).1 ∧ v.isNull = false := by
    simp only [List.any_eq_true, Option.any_eq_true]
    constructor
    · rintro ⟨_, found, v, rfl, notNull⟩
      exact ⟨v, found, by simpa using notNull⟩
    · rintro ⟨v, found, notNull⟩
      exact ⟨some v, found, v, rfl, by simpa using notNull⟩
  rw [← there]
  split
  · rename_i b same
    obtain rfl := Node.scalar.inj same
    cases b <;> simp
  · rename_i other
    have different : v ≠ .bool true := fun same => other true (by rw [same])
    simp [different]

/-- The predicate of an operator on a field answers as the operator is meant. -/
theorem ofOperation_answers {p : Predicate Incomparable} (plain : item.isPlain)
    (onField : op.operator.isCombinator = false) (notNot : op.operator ≠ .not)
    (accepted : op.operator.accepts op.operand)
    (h : ofOperation Engine.standard op = .ok p) :
    Answers (p item) (Satisfied item op.data op.operator op.operand) := by
  obtain ⟨operator, path, data, operand, children, elements⟩ := op
  have isGT : (fun o : Ordering => o == .gt) = Ordering.isGT := by funext o; cases o <;> rfl
  have isGE : (fun o : Ordering => o != .lt) = Ordering.isGE := by funext o; cases o <;> rfl
  have isLT : (fun o : Ordering => o == .lt) = Ordering.isLT := by funext o; cases o <;> rfl
  have isLE : (fun o : Ordering => o != .gt) = Ordering.isLE := by funext o; cases o <;> rfl
  cases operator with
  | and | or | nor => cases onField
  | not => exact absurd rfl notNot
  | eq =>
    obtain rfl := Except.ok.inj h
    exact isEqual_answers plain
  | ne =>
    obtain rfl := Except.ok.inj h
    exact answers_negate (isEqual_answers plain)
  | gt =>
    obtain rfl := Except.ok.inj h
    exact isGT ▸ range_answers plain _
  | gte =>
    obtain rfl := Except.ok.inj h
    exact isGE ▸ range_answers plain _
  | lt =>
    obtain rfl := Except.ok.inj h
    exact isLT ▸ range_answers plain _
  | lte =>
    obtain rfl := Except.ok.inj h
    exact isLE ▸ range_answers plain _
  | oneOf =>
    obtain rfl := Except.ok.inj h
    exact isOneOf_answers plain
  | noneOf =>
    obtain rfl := Except.ok.inj h
    exact answers_negate (isOneOf_answers plain)
  | allOf =>
    obtain rfl := Except.ok.inj h
    exact hasAll_answers plain
  | like =>
    simp only [ofOperation] at h
    cases spelled : pattern? operand.plain with
    | none => rw [spelled] at h; cases h
    | some re =>
      rw [spelled] at h
      obtain rfl := Except.ok.inj h
      simpa [Satisfied, spelled] using
        anyValue_answers plain fun v _ => answers_ok (Iff.refl (matchesValue re v = true))
  | present =>
    obtain rfl := Except.ok.inj h
    cases operand with
    | scalar v => exact isPresent_answers rfl
    | sequence ns => cases accepted
    | mapping es => cases accepted

/-! ### Compilations -/

/-- The artifact of an entry is a predicate that answers as the entry is meant. -/
def Means (P : Path) (e : String × Node) (_ : Unit) (r : Option (Predicate Incomparable))
    (_ : Unit) : Prop :=
  ∃ p, r = some p ∧ ∀ item, item.isPlain → Answers (p item) (SatisfiesEntry item P e.1 e.2)

theorem yields_generator {depth : Int} {op : Operator} {g : Generator Unit (Predicate Incomparable)}
    (found : ((compiler Engine.standard).withDepth depth).dialect.generator? op = some g)
    {o : Operation (Predicate Incomparable)} {s t : Unit} {r : Option (Predicate Incomparable)}
    (h : Yields (g o) s r t) : ∃ p, ofOperation Engine.standard o = .ok p ∧ r = some p := by
  obtain rfl := Option.some.inj found
  dsimp only at h
  cases made : ofOperation Engine.standard o with
  | ok p =>
    rw [made] at h
    exact ⟨p, rfl, (yields_pure.mp h).1.symm⟩
  | error v =>
    rw [made] at h
    exact absurd h yields_throw

theorem chain_answers {ι : Type} {R : ι → Unit → Option (Predicate Incomparable) → Unit → Prop}
    {φ : Value → ι → Prop} {xs : List ι} {s t : Unit} {ps : List (Predicate Incomparable)}
    (each : ∀ x s r t, R x s r t →
      ∃ p, r = some p ∧ ∀ item, item.isPlain → Answers (p item) (φ item x))
    (chain : Chain R xs s ps t) {item : Value} (plain : item.isPlain) :
    List.Forall₂ (fun x p => Answers (p item) (φ item x)) xs ps :=
  chain.forall₂ fun h =>
    let ⟨p, same, answers⟩ := each _ _ _ _ h
    ⟨p, same, answers item plain⟩

theorem entries_answer {es : List (String × Node)} {s t : Unit}
    {ps : List (Predicate Incomparable)} (chain : Chain (Means P) es s ps t) {item : Value}
    (plain : item.isPlain) : Answers (allOf ps item) (SatisfiesEntries item P es) := by
  have all := answers_allM (chain_answers (fun _ _ _ _ h => h) chain plain)
  rwa [← satisfies_mapping, Satisfies] at all

theorem filter_answers {depth : Int} {n : Node} {s t : Unit} {r : Option (Predicate Incomparable)}
    (h : ((compiler Engine.standard).withDepth depth).FilterOf Means P n s r t) :
    ∃ p, r = some p ∧ ∀ item, item.isPlain → Answers (p item) (Satisfies item P n) := by
  obtain ⟨es, path, ps, _, rfl, chain, generated⟩ := h
  obtain ⟨p, made, rfl⟩ := yields_generator (generator?_and _) generated
  obtain rfl := Except.ok.inj made
  refine ⟨_, rfl, fun item plain => ?_⟩
  rw [Satisfies]
  exact entries_answer chain plain

theorem closed_means (depth : Int) : ((compiler Engine.standard).withDepth depth).Closed Means where
  field {P _ key es _ _ _ ps r} isField entries generated := by
    obtain ⟨p, made, rfl⟩ := yields_generator (generator?_and _) generated
    obtain rfl := Except.ok.inj made
    refine ⟨_, rfl, fun item plain => ?_⟩
    rw [SatisfiesEntry, Operator.ofName?_of_field isField]
    exact entries_answer entries plain
  equals {P _ key v _ _ r} isField _ generated := by
    obtain ⟨p, made, rfl⟩ := yields_generator (generator?_eq _) generated
    refine ⟨p, rfl, fun item plain => ?_⟩
    rw [SatisfiesEntry, Operator.ofName?_of_field isField]
    exact ofOperation_answers plain rfl (by simp) rfl made
  combine {P _ key op g ns _ _ _ ps r} named found combinator _ filters generated := by
    obtain ⟨p, made, rfl⟩ := yields_generator found generated
    refine ⟨p, rfl, fun item plain => ?_⟩
    have each := chain_answers (fun _ _ _ _ h => filter_answers h) filters plain
    have all := answers_allM each
    have any := answers_anyM each
    rw [← satisfiesAll_iff] at all
    rw [← satisfiesAny_iff] at any
    rw [SatisfiesEntry, named]
    cases op with
    | and =>
      obtain rfl := Except.ok.inj made
      exact all
    | or =>
      obtain rfl := Except.ok.inj made
      exact any
    | nor =>
      obtain rfl := Except.ok.inj made
      exact answers_negate any
    | _ => cases combinator
  negate {P _ key g es _ _ _ ps r} named found _ _ entries generated := by
    obtain ⟨p, made, rfl⟩ := yields_generator found generated
    obtain rfl := Except.ok.inj made
    refine ⟨_, rfl, fun item plain => ?_⟩
    rw [SatisfiesEntry, named]
    exact answers_negate (entries_answer entries plain)
  values {P _ key op g ns _ _ _ parts r} named found list _ _ _ generated := by
    obtain ⟨p, made, rfl⟩ := yields_generator found generated
    refine ⟨p, rfl, fun item plain => ?_⟩
    rw [SatisfiesEntry, named]
    cases op with
    | oneOf | noneOf | allOf => exact ofOperation_answers plain rfl (by simp) rfl made
    | _ => cases list
  scalar {P _ key op g v _ _ r} named found accepted _ _ generated := by
    obtain ⟨p, made, rfl⟩ := yields_generator found generated
    refine ⟨p, rfl, fun item plain => ?_⟩
    rw [SatisfiesEntry, named]
    have scalar := Operator.takesScalar_of_accepts accepted
    refine ofOperation_answers plain ?_ ?_ accepted made
    · cases op <;> first | rfl | cases scalar
    · rintro rfl
      cases scalar

theorem generate_answers {depth : Int} {q : Node} {p : Predicate Incomparable} {s t : Unit}
    (generated : Yields (((compiler Engine.standard).withDepth depth).generate q) s p t) {item : Value}
    (plain : item.isPlain) : Answers (p item) (Satisfies item [] q) := by
  obtain ⟨r, filter, rfl⟩ := (closed_means depth).generate generated
  obtain ⟨p, rfl, answers⟩ := filter_answers filter
  exact answers item plain

/-- A filter that compiles to a predicate, with any limit of the length of data paths, is decided for
every plain item, and the answer is whether the item satisfies the filter. -/
theorem compile_answers_satisfies {depth : Int} {q : Node} {p : Predicate Incomparable}
    (compiled : ((compiler Engine.standard).withDepth depth).compile q = .ok p) {item : Value}
    (plain : item.isPlain) : ∃ b, p item = .ok b ∧ (b = true ↔ Satisfies item [] q) := by
  obtain ⟨a, s, t, generated, resolved⟩ := compile_eq_ok_iff.mp compiled
  obtain ⟨rfl, _⟩ := yields_pure.mp resolved
  obtain ⟨r, filter, rfl⟩ := (closed_means depth).generate generated
  obtain ⟨p, rfl, answers⟩ := filter_answers filter
  exact answers item plain

theorem compile_answers_satisfies_nested :
    let q := Node.mapping [("tags", .mapping [("$not", .mapping [("$eq", .scalar (.text "b"))])]),
      ("$or", .sequence [.mapping [("size", .mapping [("$exists", .scalar (.bool true))])],
        .mapping [("tags", .mapping [("$in", .sequence [.scalar (.text "a")])])]])]
    let item := Value.object .any [("tags", .list .any [.text "a", .text "c"])]
    ∃ p, ((compiler Engine.standard).withDepth 2).compile q = .ok p ∧ item.isPlain ∧
      ∃ b, p item = .ok b ∧ (b = true ↔ Satisfies item [] q) := by
  intro q item
  obtain ⟨p, compiled⟩ : ∃ p, ((compiler Engine.standard).withDepth 2).compile q = .ok p := ⟨_, rfl⟩
  exact ⟨p, compiled, rfl, compile_answers_satisfies compiled rfl⟩

end FilterQuery.Predicate
