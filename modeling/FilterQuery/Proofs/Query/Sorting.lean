import FilterQuery.Proofs.Query.SortTree
import FilterQuery.Proofs.Value.Order
import FilterQuery.Query.Order

/-!
# Sorting is stable

`itemOrder` compares two items by criteria in sequence, and `StablySorted` says that items are put in
such an order, where items that are equal under all criteria keep the order they had. Any lawful search
tree takes in plain items (`sortItems_stable`) and gives the items so (`sortItems_stablySorted`), unless
the criteria compare times with a reading of the monotonic clock to times without: then there may be no
such order (`circle_unordered`).

The order of items is one of a family: a comparison that may fail is `Coherent` if it has opposite
answers for opposite questions and composes where it does not go down, as far as the values may be
compared. The comparison of values is, turning a comparison around keeps this, and so does using a
second one where the first finds no difference. So the order of items is coherent, and with the position
as the last criterion it is the strict order that search trees need.
-/

namespace FilterQuery

open SortKey (thenBy opposite opposite_thenBy Composes composes_ok)

/-! ### Comparisons that may fail -/

/-- Opposite questions have opposite answers, and two steps that do not go down make one, where `alike`
says what may be compared. -/
structure Coherent {α : Type} (alike : α → α → Prop) (cmp : α → α → Except Incomparable Ordering) :
    Prop where
  symm {a b : α} (pair : alike a b) : alike b a
  opposite (a b : α) : cmp b a = opposite (cmp a b)
  composes {a b c : α} (first : alike a b) (second : alike b c) :
    Composes (cmp a b) (cmp b c) (cmp a c)

/-- An answer the other way around, where that is wanted. -/
def turned (backwards : Bool) (x : Except Incomparable Ordering) : Except Incomparable Ordering :=
  if backwards then x.map Ordering.swap else x

theorem turned_eq_ok {backwards : Bool} {x : Except Incomparable Ordering} {o : Ordering} :
    turned backwards x = .ok o ↔ x = .ok (if backwards then o.swap else o) := by
  cases x with
  | error e => cases backwards <;> simp [turned, Except.map]
  | ok p => cases backwards <;> cases p <;> cases o <;> simp [turned, Except.map]

theorem turned_eq_eq {backwards : Bool} {x : Except Incomparable Ordering} :
    turned backwards x = .ok .eq ↔ x = .ok .eq := by
  rw [turned_eq_ok]
  cases backwards <;> exact Iff.rfl

namespace Coherent

variable {α β : Type} {alike alike' : α → α → Prop} {cmp cmp' : α → α → Except Incomparable Ordering}

theorem values : Coherent (fun a b => a.sameClock b) Value.compare where
  symm {a b} pair := (SortKey.sameClock_symm a.sortKey b.sortKey).trans pair
  opposite a b := SortKey.compare_opposite a.sortKey b.sortKey
  composes := SortKey.compare_composes

theorem total (cmp : α → α → Ordering) [Std.TransCmp cmp] :
    Coherent (fun _ _ => True) fun a b => .ok (cmp a b) :=
  ⟨fun _ => trivial, fun _ _ => congrArg Except.ok Std.OrientedCmp.eq_swap,
    fun _ _ => composes_ok cmp _ _ _⟩

theorem on (coherent : Coherent alike cmp) (part : β → α) :
    Coherent (fun a b => alike (part a) (part b)) fun a b => cmp (part a) (part b) :=
  ⟨coherent.symm, fun a b => coherent.opposite (part a) (part b), coherent.composes⟩

theorem swap_eq (coherent : Coherent alike cmp) {a b : α} {o : Ordering} (compared : cmp a b = .ok o) :
    cmp b a = .ok o.swap := by
  rw [coherent.opposite a b, compared]
  rfl

theorem turned (coherent : Coherent alike cmp) (backwards : Bool) :
    Coherent alike fun a b => turned backwards (cmp a b) := by
  cases backwards with
  | false => exact coherent
  | true =>
    refine ⟨coherent.symm, fun a b => ?_, fun {a b c} ab' bc' p q first second pLE qLE => ?_⟩
    · show (cmp b a).map Ordering.swap = SortKey.opposite ((cmp a b).map Ordering.swap)
      rw [coherent.opposite a b]
      cases cmp a b <;> rfl
    -- a step that does not go down is one of the comparison itself, from the second to the first
    · have ba := coherent.swap_eq (turned_eq_ok.mp first)
      have cb := coherent.swap_eq (turned_eq_ok.mp second)
      simp only [if_true, Ordering.swap_swap] at ba cb
      have ac := coherent.swap_eq
        (coherent.composes (coherent.symm bc') (coherent.symm ab') q p cb ba qLE pLE)
      refine turned_eq_ok.mpr (ac.trans ?_)
      cases p with
      | gt => cases pLE
      | _ =>
        cases q with
        | gt => cases qLE
        | _ => rfl

theorem thenBy (coherent : Coherent alike cmp) (coherent' : Coherent alike' cmp') :
    Coherent (fun a b => alike a b ∧ (cmp a b = .ok .eq → alike' a b))
      fun a b => SortKey.thenBy (cmp a b) (cmp' a b) where
  symm pair := ⟨coherent.symm pair.1, fun equal => coherent'.symm (pair.2 (coherent.swap_eq equal))⟩
  opposite a b := by rw [opposite_thenBy, coherent.opposite, coherent'.opposite]
  composes first second := (coherent.composes first.1 second.1).thenBy fun ab bc =>
    coherent'.composes (first.2 ab) (second.2 bc)

end Coherent

/-! ### The order of items -/

/-- The value by which a criterion orders an item: the one at the field, which may be undefined, or the
list of those that were found by going through a list. -/
def SortField.valueOf (c : SortField) (item : Value) : Value :=
  match item.fields (Path.ofDotted c.key) with
  | ([found], false) => ItemKey.fieldValue found
  | (found, _) => .anyList (found.map ItemKey.fieldValue)

/-- The order of two items under criteria in sequence, each of them the other way around if its sign is
negative. -/
def itemOrder : List SortField → Value → Value → Except Incomparable Ordering
  | [], _, _ => .ok .eq
  | c :: cs, a, b =>
    thenBy (turned (c.order < 0) ((c.valueOf a).compare (c.valueOf b))) (itemOrder cs a b)

/-- Two items compared by criteria in sequence never have a time with a reading of the monotonic clock
compared to a time without. -/
def clocksAgree : List SortField → Value → Value → Bool
  | [], _, _ => true
  | c :: cs, a, b => (c.valueOf a).sameClock (c.valueOf b) &&
    (!SortKey.isTie ((c.valueOf a).compare (c.valueOf b)) || clocksAgree cs a b)

theorem itemOrder_coherent (criteria : List SortField) :
    Coherent (fun a b => clocksAgree criteria a b) (itemOrder criteria) := by
  induction criteria with
  | nil =>
    refine ⟨fun _ => rfl, fun _ _ => rfl, fun _ _ => ?_⟩
    rintro p q ⟨⟩ ⟨⟩ _ _
    rfl
  | cons c cs ih =>
    have first := (Coherent.values.on c.valueOf).turned (c.order < 0)
    have parts : (fun a b : Value => clocksAgree (c :: cs) a b = true) = fun a b =>
        (c.valueOf a).sameClock (c.valueOf b) ∧
          (turned (c.order < 0) ((c.valueOf a).compare (c.valueOf b)) = .ok .eq →
            clocksAgree cs a b) := by
      funext a b
      rw [clocksAgree, Bool.and_eq_true, turned_eq_eq, SortKey.not_isTie_or]
    rw [parts]
    exact first.thenBy ih

/-- The order of two items with their positions, which decide where the criteria do not. -/
def placedOrder (criteria : List SortField) (a b : Value × Nat) : Except Incomparable Ordering :=
  thenBy (itemOrder criteria a.1 b.1) (.ok (Ord.compare a.2 b.2))

theorem placedOrder_coherent (criteria : List SortField) :
    Coherent (fun a b => clocksAgree criteria a.1 b.1 ∧ (itemOrder criteria a.1 b.1 = .ok .eq → True))
      (placedOrder criteria) :=
  ((itemOrder_coherent criteria).on Prod.fst).thenBy ((Coherent.total Ord.compare).on Prod.snd)

theorem thenBy_eq_ok {x : Except Incomparable Ordering} {o o' : Ordering} :
    thenBy x (.ok o) = .ok o' ↔ x = .ok o' ∧ o' ≠ .eq ∨ x = .ok .eq ∧ o' = o := by
  cases x with
  | error e => simp [thenBy, bind, Except.bind]
  | ok p => cases p <;> cases o <;> cases o' <;> simp [thenBy, bind, Except.bind, pure, Except.pure]

/-- The items stand in an order in which none comes after a later one, and items that are equal keep
the order they had. -/
def StablySorted (order : Value → Value → Except Incomparable Ordering) (items sorted : List Value) :
    Prop :=
  ∃ placed : List (Value × Nat), placed.Perm items.zipIdx ∧ sorted = placed.map Prod.fst ∧
    placed.Pairwise fun a b => order a.1 b.1 = .ok .lt ∨ order a.1 b.1 = .ok .eq ∧ a.2 < b.2

theorem zipIdx_ascends (items : List Value) : items.zipIdx.Pairwise fun a b => a.2 < b.2 := by
  refine List.pairwise_map.mp (show (items.zipIdx.map Prod.snd).Pairwise (· < ·) from ?_)
  rw [List.zipIdx_map_snd]
  exact List.pairwise_lt_range'

theorem stablySorted_self (items : List Value) : StablySorted (itemOrder []) items items :=
  ⟨items.zipIdx, .refl _, (List.zipIdx_map_fst 0 items).symm,
    (zipIdx_ascends items).imp fun before => .inr ⟨rfl, before⟩⟩

/-! ### Keys -/

namespace ItemKey

theorem criterionValue_standard (c : SortField) (item : Value) :
    criterionValue .standard item (Path.ofDotted c.key) = .ok (c.valueOf item) := by
  simp only [criterionValue, SortField.valueOf, Engine.standard]
  generalize item.fields (Path.ofDotted c.key) = found
  rcases found with ⟨_ | ⟨v?, _ | _⟩, _ | _⟩ <;> rfl

def placed (criteria : List SortField) (a : Value × Nat) : ItemKey :=
  ⟨criteria.map (·.valueOf a.1), a.2⟩

theorem ofItem_standard (criteria : List SortField) (position : Nat) (item : Value) :
    ofItem .standard (criteria.map fun c => Path.ofDotted c.key) position item =
      .ok (placed criteria (item, position)) := by
  have values : (criteria.map fun c => Path.ofDotted c.key).mapM (criterionValue .standard item) =
      .ok (criteria.map (·.valueOf item)) := by
    induction criteria with
    | nil => rfl
    | cons c cs ih =>
      rw [List.map_cons, List.mapM_cons, criterionValue_standard, ih]
      rfl
  rw [ofItem, values]
  rfl

theorem turned_directed {order : Int} (signed : order ≠ 0) (o : Ordering) :
    turned (order < 0) (.ok o) = .ok (directed order o) := by
  by_cases down : order < 0 <;> simp [turned, directed, down, signed, Except.map]

theorem directed_eq_iff {order : Int} (signed : order ≠ 0) {o : Ordering} :
    directed order o = .eq ↔ o = .eq := by
  by_cases down : order < 0 <;> simp [directed, down, signed]

theorem compareValues_standard {criteria : List SortField} (signed : ∀ c ∈ criteria, c.order ≠ 0)
    (a b : Value) :
    compareValues .standard (criteria.map (·.order)) (criteria.map (·.valueOf a))
        (criteria.map (·.valueOf b)) =
      (itemOrder criteria a b).map fun o => if o = .eq then none else some o := by
  induction criteria with
  | nil => rfl
  | cons c cs ih =>
    rw [List.forall_mem_cons] at signed
    rw [List.map_cons, List.map_cons, List.map_cons, compareValues, ih signed.2, itemOrder]
    rw [show Engine.standard.compare = Value.compare from rfl]
    cases (c.valueOf a).compare (c.valueOf b) with
    | error e => cases decide (c.order < 0) <;> rfl
    | ok o =>
      have equal := directed_eq_iff (o := o) signed.1
      rw [turned_directed signed.1]
      cases o with
      | eq =>
        rw [equal.mpr rfl]
        rfl
      | _ =>
        cases answer : directed c.order _ with
        | eq => cases equal.mp answer
        | _ => simp [thenBy, bind, Except.bind, pure, Except.pure, Except.map, answer]

theorem compare_placed {criteria : List SortField} (signed : ∀ c ∈ criteria, c.order ≠ 0)
    (a b : Value × Nat) :
    compare .standard (criteria.map (·.order)) (placed criteria a) (placed criteria b) =
      (placedOrder criteria a b).mapError .comparing := by
  rw [compare, placed, placed, compareValues_standard signed, placedOrder]
  cases itemOrder criteria a.1 b.1 with
  | error e => rfl
  | ok o => cases o <;> rfl

theorem compare_eq_ok {criteria : List SortField} (signed : ∀ c ∈ criteria, c.order ≠ 0)
    {a b : Value × Nat} {o : Ordering} :
    compare .standard (criteria.map (·.order)) (placed criteria a) (placed criteria b) = .ok o ↔
      placedOrder criteria a b = .ok o := by
  rw [compare_placed signed, mapError_eq_ok]

theorem placed_same {criteria : List SortField} (signed : ∀ c ∈ criteria, c.order ≠ 0)
    (items : List Value) {k k' : ItemKey} (found : ∃ a ∈ items.zipIdx, placed criteria a = k)
    (found' : ∃ b ∈ items.zipIdx, placed criteria b = k')
    (equal : compare .standard (criteria.map (·.order)) k k' = .ok .eq) : k = k' := by
  obtain ⟨a, memberA, rfl⟩ := found
  obtain ⟨b, memberB, rfl⟩ := found'
  rw [compare_eq_ok signed, placedOrder, thenBy_eq_ok] at equal
  -- no criterion tells the items apart, and so they are at one position
  obtain ⟨_, differ⟩ | ⟨_, positions⟩ := equal
  · exact absurd rfl differ
  · have position : a.2 = b.2 := Nat.compare_eq_eq.mp positions.symm
    rw [List.mem_zipIdx_iff_getElem?] at memberA memberB
    rw [position, memberB] at memberA
    rw [Prod.ext (Option.some.inj memberA).symm position]

theorem strictOn {criteria : List SortField} (signed : ∀ c ∈ criteria, c.order ≠ 0)
    {items : List Value} (clocks : ∀ a ∈ items, ∀ b ∈ items, clocksAgree criteria a b) :
    StrictOn (treeOrder .standard (criteria.map (·.order))).keys
      fun k => ∃ a ∈ items.zipIdx, placed criteria a = k where
  below := by
    rintro _ _ ⟨a, _, rfl⟩ ⟨b, _, rfl⟩ compared
    rw [treeOrder, compare_eq_ok signed] at compared ⊢
    exact (placedOrder_coherent criteria).swap_eq compared
  trans := by
    rintro _ _ _ ⟨a, memberA, rfl⟩ ⟨b, memberB, rfl⟩ ⟨c, memberC, rfl⟩ first second
    rw [treeOrder, compare_eq_ok signed] at first second ⊢
    have itemA := List.fst_mem_of_mem_zipIdx memberA
    have itemB := List.fst_mem_of_mem_zipIdx memberB
    have itemC := List.fst_mem_of_mem_zipIdx memberC
    exact (placedOrder_coherent criteria).composes ⟨clocks _ itemA _ itemB, fun _ => trivial⟩
      ⟨clocks _ itemB _ itemC, fun _ => trivial⟩ .lt .lt first second rfl rfl
  same := placed_same signed items

end ItemKey

/-! ### Sorting -/

section Sorting

variable {T : SearchTree ItemKey Value (SortError Incomparable)}

/-- The items with their keys, in the order in which they are inserted. -/
def entriesOf (criteria : List SortField) (items : List Value) : List (ItemKey × Value) :=
  items.zipIdx.map fun a => (ItemKey.placed criteria a, a.1)

theorem insertItems_standard (criteria : List SortField) (position : Nat) (t : T.Tree)
    (items : List Value) :
    insertItems T .standard (criteria.map fun c => Path.ofDotted c.key) (criteria.map (·.order)) position
        t items =
      T.insertAll (ItemKey.treeOrder .standard (criteria.map (·.order))) t
        ((items.zipIdx position).map fun a => (ItemKey.placed criteria a, a.1)) := by
  induction items generalizing position t with
  | nil => rfl
  | cons item items ih =>
    rw [insertItems, ItemKey.ofItem_standard, List.zipIdx_cons, List.map_cons, SearchTree.insertAll]
    simp only [← ih]
    rfl

theorem sortItems_eq_ok {criteria : List SortField} {items sorted : List Value} :
    sortItems T .standard criteria items = .ok sorted ↔
      ∃ t, T.insertAll (ItemKey.treeOrder .standard (criteria.map (·.order))) T.empty
        (entriesOf criteria items) = .ok t ∧ T.toList t = sorted := by
  rw [sortItems, bind_eq_ok]
  simp only [insertItems_standard]
  constructor
  · rintro ⟨t, inserted, listed⟩
    exact ⟨t, inserted, Except.ok.inj listed⟩
  · rintro ⟨t, inserted, rfl⟩
    exact ⟨t, inserted, rfl⟩

theorem entriesOf_kinds (criteria : List SortField) (items : List Value) :
    ∀ e ∈ entriesOf criteria items, ∃ a ∈ items.zipIdx, ItemKey.placed criteria a = e.1 :=
  List.forall_mem_map.mpr fun a member => ⟨a, member, rfl⟩

theorem entriesOf_different (criteria : List SortField) (items : List Value) :
    ((entriesOf criteria items).map Prod.fst).Nodup := by
  rw [entriesOf, List.map_map]
  exact List.pairwise_map.mpr ((zipIdx_ascends items).imp fun before same =>
    absurd (congrArg ItemKey.position same) (Nat.ne_of_lt before))

theorem sortItems_perm (lawful : T.Lawful) {criteria : List SortField} {items sorted : List Value}
    (h : sortItems T .standard criteria items = .ok sorted) : sorted.Perm items := by
  obtain ⟨t, inserted, rfl⟩ := sortItems_eq_ok.mp h
  have perm := lawful.keeps inserted
  rw [entriesOf, List.map_map] at perm
  simpa [Function.comp_def] using perm

theorem sortItems_stablySorted (lawful : T.Lawful) {criteria : List SortField}
    (signed : ∀ c ∈ criteria, c.order ≠ 0) {items sorted : List Value}
    (clocks : ∀ a ∈ items, ∀ b ∈ items, clocksAgree criteria a b)
    (h : sortItems T .standard criteria items = .ok sorted) :
    StablySorted (itemOrder criteria) items sorted := by
  obtain ⟨t, inserted, rfl⟩ := sortItems_eq_ok.mp h
  obtain ⟨all, perm, ascending, listed⟩ := lawful.ascends (ItemKey.strictOn signed clocks)
    (entriesOf_kinds criteria items) (entriesOf_different criteria items) inserted
  -- the entries of the tree are the items with their positions
  have placed : ∀ e ∈ all, e.1 = ItemKey.placed criteria (e.2, e.1.position) := by
    intro e member
    obtain ⟨a, _, rfl⟩ := List.mem_map.mp (perm.mem_iff.mp member)
    rfl
  refine ⟨all.map fun e => (e.2, e.1.position), ?_, ?_, ?_⟩
  · have positions := perm.map fun e => (e.2, e.1.position)
    rw [entriesOf, List.map_map] at positions
    simpa [Function.comp_def, ItemKey.placed] using positions
  · rw [listed, List.map_map]
    rfl
  · refine List.pairwise_map.mpr (ascending.imp_of_mem fun {e f} memberE memberF below => ?_)
    rw [placed e memberE, placed f memberF, ItemKey.treeOrder, ItemKey.compare_eq_ok signed,
      placedOrder, thenBy_eq_ok] at below
    rcases below with ⟨first, _⟩ | ⟨same, positions⟩
    · exact .inl first
    · exact .inr ⟨same, Nat.compare_eq_lt.mp positions.symm⟩

end Sorting

/-! ### Plain items -/

theorem keyOf_plain {v : Value} (plain : v.isPlain) (outer : Bool) :
    v.keyOf outer = v.keyOf true := by
  cases v with
  | undefined => cases plain
  | defined v => cases plain
  | nilOf t =>
    cases t with
    | list elem =>
      cases elem with
      | int size => cases size <;> rfl
      | _ => rfl
    | _ => rfl
  | _ => rfl

theorem keysOf_ordered {vs : List Value} (each : ∀ v ∈ vs, v.sortKey.isOrdered) :
    SortKey.areOrdered (Value.keysOf vs) := by
  induction vs with
  | nil => rfl
  | cons v vs ih =>
    rw [List.forall_mem_cons] at each
    rw [Value.keysOf, SortKey.areOrdered, Bool.and_eq_true]
    exact ⟨each.1, ih each.2⟩

theorem fieldValue_ordered {v? : Option Value} (plain : ∀ v, v? = some v → v.isPlain) :
    (ItemKey.fieldValue v?).sortKey.isOrdered := by
  cases v? with
  | none => rfl
  | some v =>
    have same : (ItemKey.fieldValue (some v)).sortKey = v.keyOf false := rfl
    rw [same, keyOf_plain (plain v rfl)]
    exact Value.keyOf_ordered (plain v rfl)

theorem valueOf_ordered (c : SortField) {item : Value} (plain : item.isPlain) :
    (c.valueOf item).sortKey.isOrdered := by
  have each : ∀ v? ∈ (item.fields (Path.ofDotted c.key)).1,
      (ItemKey.fieldValue v?).sortKey.isOrdered :=
    fun v? member => fieldValue_ordered fun v same => Value.fields_plain plain _ (same ▸ member)
  unfold SortField.valueOf
  split
  · rename_i v? found
    exact each v? (by rw [found]; exact List.mem_singleton_self v?)
  · rename_i found expanded _ read
    rw [read] at each
    exact keysOf_ordered (List.forall_mem_map.mpr each)

theorem itemOrder_plain (criteria : List SortField) {a : Value} (plain : a.isPlain) (b : Value) :
    ∃ o, itemOrder criteria a b = .ok o := by
  induction criteria with
  | nil => exact ⟨_, rfl⟩
  | cons c cs ih =>
    obtain ⟨o, compared⟩ := SortKey.compare_total _ (c.valueOf b).sortKey (valueOf_ordered c plain)
    obtain ⟨o', rest⟩ := ih
    rw [itemOrder, Value.compare, compared, rest]
    cases decide (c.order < 0) <;> cases o <;> exact ⟨_, rfl⟩

theorem sortItems_plain {T : SearchTree ItemKey Value (SortError Incomparable)} (lawful : T.Lawful)
    {criteria : List SortField} (signed : ∀ c ∈ criteria, c.order ≠ 0) {items : List Value}
    (plain : ∀ item ∈ items, item.isPlain) :
    ∃ sorted, sortItems T .standard criteria items = .ok sorted := by
  have comparable : ∀ k k' : ItemKey, (∃ a ∈ items.zipIdx, ItemKey.placed criteria a = k) →
      (∃ b ∈ items.zipIdx, ItemKey.placed criteria b = k') →
        ∃ o, (ItemKey.treeOrder .standard (criteria.map (·.order))).keys k k' = .ok o := by
    rintro _ _ ⟨a, member, rfl⟩ ⟨b, _, rfl⟩
    have item := plain a.1 (List.fst_mem_of_mem_zipIdx member)
    obtain ⟨o, compared⟩ := itemOrder_plain criteria item b.1
    refine ⟨o.then (Ord.compare a.2 b.2), (ItemKey.compare_eq_ok signed).mpr ?_⟩
    rw [placedOrder, compared]
    cases o <;> rfl
  obtain ⟨t, inserted⟩ := lawful.inserts (entriesOf_kinds criteria items)
    (entriesOf_different criteria items) comparable fun k k' => ItemKey.placed_same signed items
  exact ⟨T.toList t, sortItems_eq_ok.mpr ⟨t, inserted, rfl⟩⟩

/-- Plain items can be sorted by any criteria with a sign: the result has the same items. As long as these
criteria compare times with a reading of the clock only with such times, none of the items comes after a
later one under the criteria in sequence, and items that are equal under all criteria keep the order they
had. -/
theorem sortItems_stable {T : SearchTree ItemKey Value (SortError Incomparable)} (lawful : T.Lawful)
    (criteria : List SortField) (signed : ∀ c ∈ criteria, c.order ≠ 0) (items : List Value)
    (plain : ∀ item ∈ items, item.isPlain) :
    ∃ sorted, sortItems T .standard criteria items = .ok sorted ∧ sorted.Perm items ∧
      ((∀ a ∈ items, ∀ b ∈ items, clocksAgree criteria a b) →
        StablySorted (itemOrder criteria) items sorted) := by
  obtain ⟨sorted, succeeds⟩ := sortItems_plain lawful signed plain
  exact ⟨sorted, succeeds, sortItems_perm lawful succeeds,
    fun clocks => sortItems_stablySorted lawful signed clocks succeeds⟩

theorem sortItems_stable_mixed :
    let T : SearchTree ItemKey Value (SortError Incomparable) := .balanced
    let criteria := [SortField.mk "v.w" (-1), ⟨"n", 7⟩]
    let listed := Value.object .any [("n", .int (.wrap .int 2)),
      ("v", .list .any [.object .any [("w", .bool true)], .null])]
    let other := Value.object .any [("n", .double (.finite false 1 0)),
      ("v", .list .any [.object .any [("w", .bool true)], .null])]
    let missing := Value.object .any [("n", .null)]
    let items := [missing, listed, .null, other, listed, missing]
    T.Lawful ∧ (∀ c ∈ criteria, c.order ≠ 0) ∧ (∀ item ∈ items, item.isPlain) ∧
      (∀ a ∈ items, ∀ b ∈ items, clocksAgree criteria a b) ∧
      sortItems T .standard criteria items = .ok [other, listed, listed, .null, missing, missing] ∧
      StablySorted (itemOrder criteria) items [other, listed, listed, .null, missing, missing] := by
  intro T criteria listed other missing items
  have lawful : T.Lawful := SortTree.balanced_lawful
  have signed : ∀ c ∈ criteria, c.order ≠ 0 := by decide
  have plain : ∀ item ∈ items, item.isPlain := Value.arePlain_iff.mp rfl
  have clocks : ∀ a ∈ items, ∀ b ∈ items, clocksAgree criteria a b := by decide
  have result : sortItems T .standard criteria items =
      .ok [other, listed, listed, .null, missing, missing] := by rfl
  obtain ⟨sorted, succeeds, _, stable⟩ := sortItems_stable lawful criteria signed items plain
  cases result.symm.trans succeeds
  exact ⟨lawful, signed, plain, clocks, result, stable clocks⟩

/-! ### Times that go round in a circle -/

def dated (t : Instant) : Value := .object .any [("t", .time t)]

/-- The clock was put back between the first and the last time, and the one in the middle was not taken
from the clock. -/
def circle : List Value :=
  [dated ⟨1, 0, 0, some 20⟩, dated ⟨2, 0, 0, none⟩, dated ⟨3, 0, 0, some 10⟩]

/-- Whichever item comes first, it comes after another one. -/
theorem circle_unordered {sorted : List Value} (perm : sorted.Perm circle) :
    ¬sorted.Pairwise fun a b => itemOrder [⟨"t", 1⟩] a b ≠ .ok .gt := by
  intro ordered
  have after : ∀ x ∈ circle, ∃ y ∈ circle, itemOrder [⟨"t", 1⟩] x y = .ok .gt := by
    simp only [circle, List.mem_cons, List.not_mem_nil, or_false, forall_eq_or_imp, forall_eq]
    exact ⟨⟨_, .inr (.inr rfl), rfl⟩, ⟨_, .inl rfl, rfl⟩, ⟨_, .inr (.inl rfl), rfl⟩⟩
  have equal : ∀ x ∈ circle, itemOrder [⟨"t", 1⟩] x x = .ok .eq := by
    simp only [circle, List.mem_cons, List.not_mem_nil, or_false, forall_eq_or_imp, forall_eq]
    exact ⟨rfl, rfl, rfl⟩
  cases sorted with
  | nil => cases perm.length_eq
  | cons x rest =>
    obtain ⟨y, member, greater⟩ := after x (perm.subset List.mem_cons_self)
    rcases List.mem_cons.mp (perm.mem_iff.mpr member) with rfl | later
    · rw [equal y member] at greater
      cases greater
    · exact (List.pairwise_cons.mp ordered).1 y later greater

/-- Times with and without readings of the clock may have no order in which none comes after a later
one. -/
theorem sortItems_circle :
    (∀ c ∈ [SortField.mk "t" 1], c.order ≠ 0) ∧ (∀ item ∈ circle, item.isPlain) ∧
      ∀ sorted : List Value, sorted.Perm circle →
        ¬sorted.Pairwise fun a b => itemOrder [⟨"t", 1⟩] a b ≠ .ok .gt :=
  ⟨by decide, Value.arePlain_iff.mp rfl, fun _ => circle_unordered⟩

end FilterQuery
