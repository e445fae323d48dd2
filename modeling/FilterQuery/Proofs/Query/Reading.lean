import FilterQuery.Proofs.Compile.Condition
import FilterQuery.Proofs.Compile.DataPaths
import FilterQuery.Proofs.Compile.Traversal
import FilterQuery.Proofs.Query.Spelling
import FilterQuery.Query.Querier

/-!
# What queries read

Of two engines that compare values alike, the predicates of a filter are the same if both read the same
fields for the data paths of the filter (`compile_congr`), and so are the orders if both read the same
for the dotted keys of the criteria (`sortItems_congr`). A condition on a field does read there: it fails
if the field cannot be read (`fails_of_unreadable`).
-/

namespace FilterQuery

variable {ε : Type}

structure Engine.ComparesAlike (e e' : Engine ε) : Prop where
  compare : e.compare = e'.compare
  comparable : e.comparable = e'.comparable

/-- The engines read the same of every item at a path. -/
def Engine.ReadsAlike (e e' : Engine ε) (path : Path) : Prop :=
  ∀ item, e.fields item path = e'.fields item path

namespace Predicate

open Compiler Engine

variable {e e' : Engine ε}

theorem anyValue_congr {data : Path} (reads : e.ReadsAlike e' (fieldPath data))
    (test : Value → Except (MatchError ε) Bool) : anyValue e data test = anyValue e' data test := by
  funext item
  rw [anyValue, anyValue, values, values, reads item]

theorem equal_congr (compares : e.ComparesAlike e') : equal e = equal e' := by
  funext want v
  cases want <;> simp only [equal, compare, compares.compare]

theorem inRange_congr (compares : e.ComparesAlike e') : inRange e = inRange e' := by
  funext holds want v
  simp only [inRange, compare, compares.compare, compares.comparable]

section Operations

variable (compares : e.ComparesAlike e') {op : Operation (Predicate ε)}
  (reads : e.ReadsAlike e' (fieldPath op.data))
include compares reads

theorem isEqual_congr : isEqual e op = isEqual e' op := by
  rw [isEqual, isEqual, equal_congr compares, anyValue_congr reads]

theorem isOneOf_congr : isOneOf e op = isOneOf e' op := by
  simp only [isOneOf, equal_congr compares, anyValue_congr reads]

theorem hasAll_congr : hasAll e op = hasAll e' op := by
  funext item
  rw [hasAll, hasAll, values, values, reads item, equal_congr compares]

theorem range_congr (holds : Ordering → Bool) : range e holds op = range e' holds op := by
  rw [range, range, inRange_congr compares, anyValue_congr reads]

omit compares in
theorem isPresent_congr : isPresent e op = isPresent e' op := by
  funext item
  rw [isPresent, isPresent, reads item]

end Operations

theorem ofOperation_congr (compares : e.ComparesAlike e') {op : Operation (Predicate ε)}
    (reads : op.operator ≠ .and → e.ReadsAlike e' (fieldPath op.data)) :
    ofOperation e op = ofOperation e' op := by
  unfold ofOperation
  cases operator : op.operator with
  | and | or | nor | not => rfl
  | _ =>
    have same := reads (by rw [operator]; decide)
    simp only [isEqual_congr compares same, isOneOf_congr compares same, hasAll_congr compares same,
      range_congr compares same, isPresent_congr same, anyValue_congr same]

/-- Calls the generators of predicates. -/
def generatorOf (e : Engine ε) : Generator Unit (Predicate ε) := fun op =>
  match ofOperation e op with
  | .ok p => return some p
  | .error v => throw (.violation v)

theorem invoke_congr (compares : e.ComparesAlike e') {op : Operator} {data : Path}
    (v : Visit (Part (Predicate ε))) (reads : op ≠ .and → e.ReadsAlike e' (fieldPath data)) :
    invoke (generatorOf e) op data v = invoke (generatorOf e') op data v := by
  have same (children : List (Predicate ε)) (elements : List Node) :
      ofOperation e ⟨op, v.path, data, v.node, children, elements⟩ =
        ofOperation e' ⟨op, v.path, data, v.node, children, elements⟩ :=
    ofOperation_congr compares reads
  simp only [invoke, generatorOf, same]

/-- Computations are equal if the engines read alike for the nodes that generators are called for. -/
def SameReading (e e' : Engine ε) : Generation.Relation Unit Unit := fun sites g g' =>
  (∀ site ∈ sites, site.path ≠ [] → site.isCalled → e.ReadsAlike e' (fieldPath site.path.data)) →
    g = g'

theorem sameReading_sequential (e e' : Engine ε) :
    Generation.Relation.Sequential (SameReading e e') where
  pure a _ := rfl
  bind first rest reads := by
    obtain ⟨left, right⟩ := List.forall_mem_append.mp reads
    rw [first left]
    exact congrArg _ (funext fun a => rest a right)

theorem sameReading_step (compares : e.ComparesAlike e') (depth : Int)
    (v : Visit (Part (Predicate ε))) :
    SameReading e e' [⟨v.path, v.node⟩] (((compiler e).withDepth depth).step v)
      (((compiler e').withDepth depth).step v) := by
  intro reads
  have here := List.forall_mem_singleton.mp reads
  have joined (data : Path) : ((compiler e).withDepth depth).invokeAnd data v =
      ((compiler e').withDepth depth).invokeAnd data v := rfl
  unfold step
  -- at the root and at items of lists, what stands below is joined, which reads nothing
  cases last : v.path.getLast? with
  | none => exact joined []
  | some seg =>
    cases seg with
    | index i =>
      dsimp only
      rw [joined]
    | key key =>
      have there : e.ReadsAlike e' (fieldPath v.path.data) := by
        refine here (fun root => ?_) (by simp [Site.isCalled, last])
        have empty : v.path = [] := root
        rw [empty] at last
        cases last
      have checked (op : Operator) :
          ((compiler e).withDepth depth).invokeChecked (generatorOf e) op v.path.data v =
            ((compiler e').withDepth depth).invokeChecked (generatorOf e') op v.path.data v := by
        simp only [invokeChecked, invoke_congr compares v fun _ => there]
        rfl
      change ((compiler e).withDepth depth).compileKey key v.path.data v =
        ((compiler e').withDepth depth).compileKey key v.path.data v
      unfold compileKey
      cases Operator.ofName? key with
      | some op => exact checked op
      | none =>
        dsimp only
        split
        · rfl
        · unfold compileField
          split
          · exact joined _
          · rfl
          · exact checked .eq

/-- The predicate of a filter depends on what is read for its data paths. -/
theorem compile_congr (compares : e.ComparesAlike e') (depth : Int) {n : Node}
    (reads : ∀ site ∈ n.postorder, site.path ≠ [] → site.isCalled →
      e.ReadsAlike e' (fieldPath site.path.data)) :
    ((compiler e).withDepth depth).compile n = ((compiler e').withDepth depth).compile n := by
  have folded : n.fold ((compiler e).withDepth depth).step = n.fold ((compiler e').withDepth depth).step :=
    Node.foldAt_related (sameReading_sequential e e') (sameReading_step compares depth) n [] none reads
  have generated : ((compiler e).withDepth depth).generate n =
      ((compiler e').withDepth depth).generate n := by
    rw [generate_eq, generate_eq, folded]
    rfl
  rw [compile_eq, compile_eq, generated]
  rfl

end Predicate

/-! ### Orders -/

namespace ItemKey

variable {e e' : Engine ε}

theorem ofItem_congr {paths : List Path} (reads : ∀ path ∈ paths, e.ReadsAlike e' path)
    (position : Nat) (item : Value) : ofItem e paths position item = ofItem e' paths position item := by
  have each : paths.mapM (criterionValue e item) = paths.mapM (criterionValue e' item) := by
    induction paths with
    | nil => rfl
    | cons path paths ih =>
      obtain ⟨here, others⟩ := List.forall_mem_cons.mp reads
      rw [List.mapM_cons, List.mapM_cons, ih others, criterionValue, criterionValue, here item]
  rw [ofItem, ofItem, each]

theorem compareValues_congr (compares : e.ComparesAlike e') (orders : List Int) (as bs : List Value) :
    compareValues e orders as bs = compareValues e' orders as bs := by
  induction orders generalizing as bs with
  | nil => rfl
  | cons order orders ih =>
    cases as with
    | nil => rfl
    | cons a as =>
      cases bs with
      | nil => rfl
      | cons b bs => simp only [compareValues, compares.compare, ih]

theorem compare_congr (compares : e.ComparesAlike e') (orders : List Int) :
    compare e orders = compare e' orders := by
  funext a b
  rw [compare, compare, compareValues_congr compares]

theorem treeOrder_congr (compares : e.ComparesAlike e') (orders : List Int) :
    treeOrder e orders = treeOrder e' orders := by
  rw [treeOrder, treeOrder, compare_congr compares, compares.compare]

end ItemKey

section Order

variable {T : SearchTree ItemKey Value (SortError ε)} {e e' : Engine ε}
  (compares : e.ComparesAlike e')
include compares

theorem insertItems_congr {paths : List Path} (reads : ∀ path ∈ paths, e.ReadsAlike e' path)
    (orders : List Int) (position : Nat) (t : T.Tree) (items : List Value) :
    insertItems T e paths orders position t items = insertItems T e' paths orders position t items := by
  induction items generalizing position t with
  | nil => rfl
  | cons item items ih =>
    simp only [insertItems, ItemKey.ofItem_congr reads, ItemKey.treeOrder_congr compares, ih]

theorem sortItems_congr {criteria : List SortField}
    (reads : ∀ c ∈ criteria, e.ReadsAlike e' (Path.ofDotted c.key)) (items : List Value) :
    sortItems T e criteria items = sortItems T e' criteria items := by
  simp only [sortItems, insertItems_congr compares (List.forall_mem_map.mpr reads)]

end Order

/-- The answer to a query depends on what is read for the data paths of its filter and for the keys of
its criteria. -/
theorem query_congr {e e' : Engine ε} (compares : e.ComparesAlike e') (depth : Int) {doc filter : Node}
    {m : Modifiers} (separated : doc.split = .ok (filter, m))
    (filters : ∀ site ∈ filter.postorder, site.path ≠ [] → site.isCalled →
      e.ReadsAlike e' (Predicate.fieldPath site.path.data))
    (sorts : ∀ c ∈ m.sort, e.ReadsAlike e' (Path.ofDotted c.key))
    (T : SearchTree ItemKey Value (SortError ε)) (items : List Value) :
    (Querier.mk e ((Predicate.compiler e).withDepth depth) T).query items doc {} =
      (Querier.mk e' ((Predicate.compiler e').withDepth depth) T).query items doc {} := by
  have predicates := Predicate.compile_congr compares depth filters
  have ordered (found : List Value) :
      Querier.order ⟨e, (Predicate.compiler e).withDepth depth, T⟩ m.sort found =
        Querier.order ⟨e', (Predicate.compiler e').withDepth depth, T⟩ m.sort found := by
    simp only [Querier.order, sortItems_congr compares sorts]
  unfold Querier.query
  rw [separated]
  change (do
      let p ← (((Predicate.compiler e).withDepth depth).compile filter).mapError QueryError.compile
      let found ← Querier.filter p items
      let sorted ← Querier.order _ m.sort found
      Querier.cut m sorted) = _
  simp only [predicates, ordered]
  rfl

/-! ### Fields that cannot be read -/

namespace Predicate

open Compiler Generation

variable {e : Engine ε} {item : Value} {err : ε}

section Unreadable

variable {op : Operation (Predicate ε)} (unreadable : e.fields item (fieldPath op.data) = .error err)
include unreadable

theorem anyValue_fails (test : Value → Except (MatchError ε) Bool) :
    anyValue e op.data test item = .error (.reading err) := by
  rw [anyValue, values, unreadable]
  rfl

theorem hasAll_fails : hasAll e op item = .error (.reading err) := by
  rw [hasAll, values, unreadable]
  rfl

theorem isPresent_fails : isPresent e op item = .error (.reading err) := by
  rw [isPresent, unreadable]

theorem ofOperation_fails {p : Predicate ε} (simple : op.operator.isCombinator = false)
    (positive : op.operator ≠ .not) (generated : ofOperation e op = .ok p) :
    p item = .error (.reading err) := by
  have negated {q : Predicate ε} (fails : q item = .error (.reading err)) :
      negate q item = .error (.reading err) := by
    rw [negate, fails]
    rfl
  unfold ofOperation at generated
  cases operator : op.operator with
  | and | or | nor =>
    rw [operator] at simple
    cases simple
  | not => exact absurd operator positive
  | like =>
    rw [operator] at generated
    dsimp only at generated
    split at generated
    · cases generated
      exact anyValue_fails unreadable _
    · cases generated
  | allOf =>
    rw [operator] at generated
    cases generated
    exact hasAll_fails unreadable
  | present =>
    rw [operator] at generated
    cases generated
    exact isPresent_fails unreadable
  | ne | noneOf =>
    rw [operator] at generated
    cases generated
    exact negated (anyValue_fails unreadable _)
  | eq | gt | gte | lt | lte | oneOf =>
    rw [operator] at generated
    cases generated
    exact anyValue_fails unreadable _

end Unreadable

/-- The predicate of an entry that is a condition fails for an item in which its field cannot be read. -/
def EntryFails (e : Engine ε) (item : Value) (err : ε) (P : Path) (entry : String × Node) (_ : Unit)
    (r : Option (Predicate ε)) (_ : Unit) : Prop :=
  ∀ ⦃op n keys⦄, Node.IsCondition op n keys (.mapping [entry]) → op.isCombinator = false → op ≠ .not →
    e.fields item (fieldPath (P ++ keys.map Segment.key)) = .error err →
      ∃ p, r = some p ∧ p item = .error (.reading err)

theorem generated_fails {op : Operation (Predicate ε)} {r : Option (Predicate ε)}
    {s u : Unit} (generated : Yields (generatorOf e op) s r u)
    (simple : op.operator.isCombinator = false) (positive : op.operator ≠ .not)
    (unreadable : e.fields item (fieldPath op.data) = .error err) :
    ∃ p, r = some p ∧ p item = .error (.reading err) := by
  unfold generatorOf at generated
  split at generated
  · next p made =>
    obtain ⟨rfl, _⟩ := yields_pure.mp generated
    exact ⟨p, rfl, ofOperation_fails unreadable simple positive made⟩
  · exact absurd generated yields_throw

theorem entryFails_of_named {P path : Path} {key : String} {op' : Operator} {m : Node}
    {children : List (Predicate ε)} {elements : List Node} {s u : Unit} {r : Option (Predicate ε)}
    (named : Operator.ofName? key = some op')
    (generated : Yields (generatorOf e ⟨op', path, P, m, children, elements⟩) s r u) :
    EntryFails e item err P (key, m) s r u := by
  intro op n keys condition simple positive unreadable
  obtain ⟨rfl, rfl, rfl⟩ := condition.eq_of_named named
  rw [List.map_nil, List.append_nil] at unreadable
  exact generated_fails generated simple positive unreadable

theorem closed_entryFails (item : Value) (err : ε) (depth : Int) :
    ((compiler e).withDepth depth).Closed (EntryFails e item err) where
  field {P _ key es _ _ _ _ _} isField entries generated := by
    intro op n keys condition simple positive unreadable
    cases condition with
    | operator =>
      rw [Operator.isCommand_name] at isField
      cases isField
    | @field _ _ _ _ keys _ below =>
      obtain ⟨entry, rfl⟩ : ∃ entry, es = [entry] := by cases below <;> exact ⟨_, rfl⟩
      obtain ⟨rfl, _⟩ := yields_pure.mp generated
      -- a field is the conjunction of the one predicate below it
      cases entries with
      | cons first rest =>
        cases rest
        obtain ⟨p, rfl, fails⟩ := first below simple positive (by
          rwa [List.append_assoc, List.singleton_append])
        exact ⟨_, rfl, (congrFun (allOf_singleton p) item).trans fails⟩
  equals {P path key v s u r} isField _ generated := by
    intro op n keys condition simple positive unreadable
    cases condition with
    | operator =>
      rw [Operator.isCommand_name] at isField
      cases isField
    | equals =>
      have called :
          Yields (generatorOf e ⟨.eq, path, P ++ [Segment.key key], .scalar v, [], []⟩) s r u :=
        generated
      exact generated_fails called simple positive unreadable
    | field _ below => cases below
  combine named found _ _ _ generated := by
    cases found
    exact entryFails_of_named named generated
  negate named found _ _ _ generated := by
    cases found
    exact entryFails_of_named named generated
  values named found _ _ _ _ generated := by
    cases found
    exact entryFails_of_named named generated
  scalar named found _ _ _ generated := by
    cases found
    exact entryFails_of_named named generated

theorem fails_of_unreadable {depth : Int} {op : Operator} {n q : Node} {keys : List String}
    {p : Predicate ε} (condition : Node.IsCondition op n keys q) (simple : op.isCombinator = false)
    (positive : op ≠ .not) (compiled : ((compiler e).withDepth depth).compile q = .ok p)
    (unreadable : e.fields item (fieldPath (keys.map Segment.key)) = .error err) :
    p item = .error (.reading err) := by
  obtain ⟨a, s, t, generated, resolved⟩ := compile_eq_ok_iff.mp compiled
  obtain ⟨rfl, _⟩ := yields_pure.mp resolved
  obtain ⟨r, ⟨es, path, as, u, rfl, chain, joined⟩, rfl⟩ :=
    (closed_entryFails item err depth).generate generated
  obtain ⟨rfl, _⟩ := yields_pure.mp joined
  obtain ⟨entry, rfl⟩ : ∃ entry, es = [entry] := by cases condition <;> exact ⟨_, rfl⟩
  cases chain with
  | cons first rest =>
    cases rest
    obtain ⟨p, rfl, fails⟩ := first condition simple positive unreadable
    exact (congrFun (allOf_singleton p) item).trans fails

end Predicate

theorem sortItems_fails {e : Engine ε} {c : SortField} {criteria : List SortField} {item : Value} {err : ε}
    (unreadable : e.fields item (Path.ofDotted c.key) = .error err)
    (T : SearchTree ItemKey Value (SortError ε)) (items : List Value) :
    sortItems T e (c :: criteria) (item :: items) = .error (.reading err) := by
  have criterion : ItemKey.criterionValue e item (Path.ofDotted c.key) = .error (.reading err) := by
    rw [ItemKey.criterionValue, unreadable]
  rw [sortItems, List.map_cons, insertItems, ItemKey.ofItem, List.mapM_cons, criterion]
  rfl

end FilterQuery
