import FilterQuery.Proofs.Query.Sorting
import FilterQuery.Query.Querier

/-!
# Pages of results

`window` is the page that a skip and a limit mean. A page is this window unless its end is beyond what
64 bits can count, and then there is none (`page?_eq_window`). The pages of a query, read one after the
other up to the first empty one, are the whole result, and that has the items that satisfy the filter in
the order that the query asks for (`pages_tile`).
-/

namespace FilterQuery

/-! ### One page -/

section Page

variable {α : Type}

/-- The items after the first `skip`, and of them the first `limit` if that is positive. -/
def window (skip limit : Int) (items : List α) : List α :=
  let rest := items.drop (max skip 0).toNat
  if 0 < limit then rest.take limit.toNat else rest

/-- The end of the page is beyond the integers of 64 bits. -/
def EndsBeyond (skip limit : Int) (length : Nat) : Prop :=
  0 < limit ∧ signedLimit ≤ min (max skip 0) length + limit

instance (skip limit : Int) (length : Nat) : Decidable (EndsBeyond skip limit length) :=
  inferInstanceAs (Decidable (_ ∧ _))

theorem signedLimit_eq : (signedLimit : Int) = 9223372036854775808 := by decide

theorem add64_eq {a b : Int} (nonneg : 0 ≤ a) (nonneg' : 0 ≤ b) (below : a + b < signedLimit) :
    add64 a b = a + b := by
  rw [signedLimit_eq] at below
  have limit : unsignedLimit = 18446744073709551616 := by decide
  unfold add64
  rw [limit, Int.bmod_def]
  omega

theorem add64_neg {a b : Int} (left : a < signedLimit) (right : b < signedLimit)
    (above : signedLimit ≤ a + b) : add64 a b < 0 := by
  rw [signedLimit_eq] at left right above
  have limit : unsignedLimit = 18446744073709551616 := by decide
  unfold add64
  rw [limit, Int.bmod_def]
  omega

theorem drop_min_length (items : List α) (n : Nat) :
    items.drop (min n items.length) = items.drop n := by
  rcases Nat.le_total n items.length with within | past
  · rw [Nat.min_eq_left within]
  · rw [Nat.min_eq_right past, List.drop_of_length_le past, List.drop_length]

theorem page?_eq_some {skip limit : Int} {items : List α}
    (within : ¬EndsBeyond skip limit items.length) :
    page? skip limit items = some (window skip limit items) := by
  have start : (min (max skip 0) (items.length : Int)).toNat =
      min (max skip 0).toNat items.length := by omega
  unfold page? window
  dsimp only
  rw [start, drop_min_length]
  by_cases positive : 0 < limit
  · have sum := add64_eq (a := min (max skip 0) items.length) (b := limit) (by omega) (by omega)
      (by unfold EndsBeyond at within; omega)
    rw [if_pos positive, if_pos positive, sum, if_pos (by omega)]
    congr 1
    rw [List.take_eq_take_iff, List.length_drop]
    omega
  · rw [if_neg positive, if_neg positive, if_pos (by omega)]
    congr 1
    refine List.take_of_length_le ?_
    rw [List.length_drop]
    omega

theorem page?_eq_none {skip limit : Int} {items : List α} (skipFits : skip < signedLimit)
    (limitFits : limit < signedLimit) (beyond : EndsBeyond skip limit items.length) :
    page? skip limit items = none := by
  obtain ⟨positive, above⟩ := beyond
  have start : min (max skip 0) (items.length : Int) < signedLimit := by
    rw [signedLimit_eq] at *
    omega
  have negative := add64_neg start limitFits above
  unfold page?
  dsimp only
  rw [if_pos positive, if_neg (by omega)]

/-- For all integers of 64 bits a page is the window of the skip and the limit, unless it ends beyond
what can be counted. -/
theorem page?_eq_window (skip limit : Int) (items : List α) (skipFits : fitsSigned skip)
    (limitFits : fitsSigned limit) :
    page? skip limit items =
      if EndsBeyond skip limit items.length then none else some (window skip limit items) := by
  simp only [fitsSigned, Bool.and_eq_true, decide_eq_true_eq] at skipFits limitFits
  split
  · exact page?_eq_none skipFits.2 limitFits.2 ‹_›
  · exact page?_eq_some ‹_›

/-- A page that ends at the last number that can be counted is there. -/
theorem page?_eq_window_boundary :
    let items := [0, 1, 2, 3, 4]
    fitsSigned 4 ∧ fitsSigned 9223372036854775803 ∧ page? 4 9223372036854775803 items = some [4] := by
  intro items
  have within : ¬EndsBeyond 4 9223372036854775803 items.length := by decide
  exact ⟨by decide, by decide,
    (page?_eq_window 4 9223372036854775803 items (by decide) (by decide)).trans (if_neg within)⟩

/-- One item is to be left out and no others, but there is no such page. -/
theorem page?_ends_beyond :
    let items := [0, 1, 2, 3, 4]
    fitsSigned 1 ∧ fitsSigned 9223372036854775807 ∧ page? 1 9223372036854775807 items = none ∧
      window 1 9223372036854775807 items = [1, 2, 3, 4] := by
  decide

end Page

/-! ### Page after page -/

section Pages

variable {α ε : Type}

/-- The pages from one on, up to the first that is empty, taken together. -/
inductive PagesFrom (page : Nat → Except ε (List α)) : Nat → List α → Prop
  | last {k : Nat} (empty : page k = .ok []) : PagesFrom page k []
  | next {k : Nat} {here behind : List α} (read : page k = .ok here) (filled : here ≠ [])
    (rest : PagesFrom page (k + 1) behind) : PagesFrom page k (here ++ behind)

variable {page : Nat → Except ε (List α)} {size : Nat} {whole : List α}

/-- The pages are pieces of a list, one after the other and all of a size. -/
def Tiles (page : Nat → Except ε (List α)) (size : Nat) (whole : List α) : Prop :=
  ∀ k, k * size < whole.length + size → page k = .ok ((whole.drop (k * size)).take size)

theorem Tiles.complete (tiles : Tiles page size whole) (positive : 0 < size) {k : Nat}
    (near : k * size < whole.length + size) : PagesFrom page k (whole.drop (k * size)) := by
  by_cases past : whole.length ≤ k * size
  · have rest : whole.drop (k * size) = [] := List.drop_of_length_le past
    rw [rest]
    refine .last ((tiles k near).trans ?_)
    rw [rest, List.take_nil]
  · have next : (k + 1) * size = k * size + size := Nat.succ_mul k size
    have behind := tiles.complete positive (k := k + 1) (by omega)
    have parts := List.take_append_drop size (whole.drop (k * size))
    rw [List.drop_drop, ← next] at parts
    rw [← parts]
    refine .next (tiles k near) (fun empty => ?_) behind
    have length := congrArg List.length empty
    rw [List.length_take, List.length_drop, List.length_nil] at length
    omega
termination_by whole.length - k * size

theorem Tiles.sound (tiles : Tiles page size whole) (positive : 0 < size) {k : Nat} {all : List α}
    (near : k * size < whole.length + size) (pages : PagesFrom page k all) :
    all = whole.drop (k * size) := by
  induction pages with
  | @last k empty =>
    have here := Except.ok.inj ((tiles k near).symm.trans empty)
    have length := congrArg List.length here
    rw [List.length_take, List.length_drop, List.length_nil] at length
    exact (List.drop_of_length_le (by omega)).symm
  | @next k here behind read filled _ ih =>
    obtain rfl := Except.ok.inj ((tiles k near).symm.trans read)
    have next : (k + 1) * size = k * size + size := Nat.succ_mul k size
    have inside : k * size < whole.length := by
      by_contra past
      rw [List.drop_of_length_le (by omega), List.take_nil] at filled
      exact filled rfl
    rw [ih (by omega), next, ← List.drop_drop, List.take_append_drop]

/-- Read page by page, a list comes out whole. -/
theorem Tiles.pagesFrom_iff (tiles : Tiles page size whole) (positive : 0 < size) (all : List α) :
    PagesFrom page 0 all ↔ all = whole := by
  have near : 0 * size < whole.length + size := by omega
  have start : whole.drop (0 * size) = whole := by rw [Nat.zero_mul, List.drop_zero]
  constructor
  · intro pages
    exact (tiles.sound positive near pages).trans start
  · rintro rfl
    have pages := tiles.complete positive near
    rwa [start] at pages

end Pages

/-! ### Modifiers of a document -/

namespace Modifiers

theorem readCriteria_signed {path : Path} {es : List (String × Node)} {criteria : List SortField}
    (read : readCriteria path es = .ok criteria) : ∀ c ∈ criteria, c.order ≠ 0 := by
  induction es generalizing criteria with
  | nil =>
    cases read
    exact List.forall_mem_nil _
  | cons e es ih =>
    rw [readCriteria] at read
    split at read
    · split at read
      · rename_i direction
        obtain ⟨rest, others, made⟩ := bind_eq_ok.mp read
        cases made
        exact List.forall_mem_cons.mpr ⟨by dsimp only; omega, ih others⟩
      · cases read
    · cases read

theorem readSort_signed {path : Path} {n : Node} {criteria : List SortField}
    (read : readSort path n = .ok criteria) : ∀ c ∈ criteria, c.order ≠ 0 := by
  cases n with
  | mapping es => exact readCriteria_signed read
  | _ => cases read

theorem splitEntries_signed {m m' : Modifiers} {es filter : List (String × Node)}
    (signed : ∀ c ∈ m.sort, c.order ≠ 0) (split : splitEntries m es = .ok (filter, m')) :
    ∀ c ∈ m'.sort, c.order ≠ 0 := by
  induction es generalizing m filter with
  | nil =>
    cases split
    exact signed
  | cons e es ih =>
    rw [splitEntries] at split
    split at split
    · obtain ⟨criteria, read, rest⟩ := bind_eq_ok.mp split
      exact ih (readSort_signed read) rest
    split at split
    · obtain ⟨_, _, rest⟩ := bind_eq_ok.mp split
      refine ih ?_ rest
      exact signed
    split at split
    · obtain ⟨_, _, rest⟩ := bind_eq_ok.mp split
      refine ih ?_ rest
      exact signed
    · obtain ⟨_, rest, made⟩ := bind_eq_ok.mp split
      cases made
      exact ih signed rest

end Modifiers

theorem Node.split_signed {n filter : Node} {m : Modifiers} (split : n.split = .ok (filter, m)) :
    ∀ c ∈ m.sort, c.order ≠ 0 := by
  cases n with
  | mapping es =>
    obtain ⟨_, read, made⟩ := bind_eq_ok.mp split
    cases made
    exact Modifiers.splitEntries_signed (List.forall_mem_nil _) read
  | _ =>
    cases split
    exact List.forall_mem_nil _

/-! ### Queries -/

namespace Querier

variable {ε : Type}

def kept (p : Predicate ε) (items : List Value) : List Value :=
  items.filter fun item => (p item).toOption == some true

theorem filterFrom_eq_ok {p : Predicate ε} {position : Nat} {items found : List Value} :
    filterFrom p position items = .ok found ↔
      (∀ item ∈ items, ∃ b, p item = .ok b) ∧ found = kept p items := by
  induction items generalizing position found with
  | nil => simp [filterFrom, kept, eq_comm]
  | cons item items ih =>
    rw [filterFrom, List.forall_mem_cons]
    cases answer : p item with
    | error e => simp
    | ok b =>
      have first : kept p (item :: items) = if b then item :: kept p items else kept p items := by
        cases b <;> simp [kept, answer, Except.toOption]
      rw [first, bind_eq_ok]
      simp only [ih]
      constructor
      · rintro ⟨_, ⟨rest, rfl⟩, made⟩
        exact ⟨⟨⟨b, rfl⟩, rest⟩, (Except.ok.inj made).symm⟩
      · rintro ⟨⟨_, rest⟩, rfl⟩
        exact ⟨_, ⟨rest, rfl⟩, rfl⟩

/-- What a query finds with the filter and the modifiers of a document, in order, before a page of it
is cut. -/
structure Finds (q : Querier ε) (items : List Value) (n : Node) (p : Predicate ε) (m : Modifiers)
    (whole : List Value) : Prop where
  compiled : ∃ filterNode, n.split = .ok (filterNode, m) ∧ q.predicate filterNode = .ok p
  decided : ∀ item ∈ items, ∃ b, p item = .ok b
  ordered : q.order m.sort (kept p items) = .ok whole

theorem cut_eq_ok {m : Modifiers} {whole page : List Value} :
    (cut m whole : Except (QueryError ε) (List Value)) = .ok page ↔
      page? m.skip m.limit whole = some page := by
  unfold cut
  cases page? m.skip m.limit whole <;> simp

theorem query_eq_ok {q : Querier ε} {items page : List Value} {n : Node} {skip limit : Option Int} :
    q.query items n { skip := skip, limit := limit } = .ok page ↔
      ∃ p m whole, q.Finds items n p m whole ∧
        page? (skip.getD m.skip) (limit.getD m.limit) whole = some page := by
  simp only [query, bind_eq_ok, mapError_eq_ok]
  constructor
  · rintro ⟨⟨filterNode, m⟩, split, p, compiled, found, filtered, whole, ordered, paged⟩
    obtain ⟨decided, rfl⟩ := filterFrom_eq_ok.mp filtered
    exact ⟨p, m, whole, ⟨⟨filterNode, split, compiled⟩, decided, ordered⟩, cut_eq_ok.mp paged⟩
  · rintro ⟨p, m, whole, ⟨⟨filterNode, split, compiled⟩, decided, ordered⟩, paged⟩
    exact ⟨(filterNode, m), split, p, compiled, _, filterFrom_eq_ok.mpr ⟨decided, rfl⟩, whole, ordered,
      cut_eq_ok.mpr paged⟩

section Standard

variable {c : Compiler Unit (Predicate Incomparable) (Predicate Incomparable)}
  {T : SearchTree ItemKey Value (SortError Incomparable)} {items whole : List Value} {n : Node}
  {p : Predicate Incomparable} {m : Modifiers}

theorem Finds.sorted (finds : Finds ⟨.standard, c, T⟩ items n p m whole) :
    m.sort = [] ∧ whole = kept p items ∨
      sortItems T .standard m.sort (kept p items) = .ok whole := by
  have ordered := finds.ordered
  unfold order at ordered
  split at ordered
  · rename_i none
    cases ordered
    exact .inl ⟨List.isEmpty_iff.mp none, rfl⟩
  · split at ordered
    · rename_i sorted
      cases ordered
      exact .inr sorted
    · cases ordered

theorem Finds.perm (lawful : T.Lawful) (finds : Finds ⟨.standard, c, T⟩ items n p m whole) :
    whole.Perm (kept p items) := by
  rcases finds.sorted with ⟨_, rfl⟩ | sorted
  · exact .refl _
  · exact sortItems_perm lawful sorted

/-- What a query finds stands in the order of its criteria, each of which has a sign. -/
theorem Finds.stablySorted (lawful : T.Lawful) (finds : Finds ⟨.standard, c, T⟩ items n p m whole)
    (clocks : ∀ a ∈ kept p items, ∀ b ∈ kept p items, clocksAgree m.sort a b) :
    StablySorted (itemOrder m.sort) (kept p items) whole := by
  obtain ⟨filterNode, split, _⟩ := finds.compiled
  rcases finds.sorted with ⟨none, rfl⟩ | sorted
  · rw [none]
    exact stablySorted_self _
  · exact sortItems_stablySorted lawful (Node.split_signed split) clocks sorted

end Standard

/-- Pages of a size are pieces of what the query finds, as far as their ends can be counted. -/
theorem Finds.tiles {q : Querier ε} {items whole : List Value} {n : Node} {p : Predicate ε}
    {m : Modifiers} (finds : q.Finds items n p m whole) {size : Nat} (positive : 0 < size)
    (counted : ∀ k : Nat, k * size < whole.length + size → k * size + size < signedLimit) :
    Tiles (fun k => q.query items n { skip := some (k * size : Nat), limit := some size }) size
      whole := by
  intro k near
  have fits := counted k near
  refine query_eq_ok.mpr ⟨p, m, whole, finds, ?_⟩
  rw [Option.getD_some, Option.getD_some]
  generalize k * size = start at fits ⊢
  have within : ¬EndsBeyond start size whole.length := by
    rintro ⟨_, beyond⟩
    omega
  have positive : (0 : Int) < size := by omega
  rw [page?_eq_some within, window, if_pos positive, Int.max_eq_left (by omega), Int.toNat_natCast,
    Int.toNat_natCast]

/-- Page by page a query gives all that it finds, whatever page the document itself asks for. That are
the items for which its filter holds, each as often as it is there, in the order of the criteria, as long
as these compare times with a reading of the clock only with such times. -/
theorem pages_tile {T : SearchTree ItemKey Value (SortError Incomparable)} (lawful : T.Lawful)
    (c : Compiler Unit (Predicate Incomparable) (Predicate Incomparable)) (items : List Value) (n : Node)
    {skip limit : Option Int} {page : List Value}
    (succeeds : query ⟨.standard, c, T⟩ items n { skip := skip, limit := limit } = .ok page) :
    let q : Querier Incomparable := ⟨.standard, c, T⟩
    ∃ whole, q.query items n { skip := some 0, limit := some 0 } = .ok whole ∧
      (∀ size : Nat, 0 < size →
        (∀ k : Nat, k * size < whole.length + size → k * size + size < signedLimit) →
          ∀ all, PagesFrom (fun k =>
            q.query items n { skip := some (k * size : Nat), limit := some size }) 0 all ↔ all = whole) ∧
      ∃ filterNode m p, n.split = .ok (filterNode, m) ∧ q.predicate filterNode = .ok p ∧
        (∀ item ∈ items, ∃ b, p item = .ok b) ∧ whole.Perm (kept p items) ∧
        (m.sort = [] → whole = kept p items) ∧
        ((∀ a ∈ kept p items, ∀ b ∈ kept p items, clocksAgree m.sort a b) →
          StablySorted (itemOrder m.sort) (kept p items) whole) := by
  intro q
  obtain ⟨p, m, whole, finds, _⟩ := query_eq_ok.mp succeeds
  obtain ⟨filterNode, split, compiled⟩ := finds.compiled
  refine ⟨whole, query_eq_ok.mpr ⟨p, m, whole, finds, ?_⟩, fun size positive counted all => ?_,
    filterNode, m, p, split, compiled, finds.decided, finds.perm lawful, fun unsorted => ?_,
    finds.stablySorted lawful⟩
  · have within : ¬EndsBeyond 0 0 whole.length := fun beyond => absurd beyond.1 (by decide)
    rw [Option.getD_some, Option.getD_some, page?_eq_some within]
    rfl
  · exact (finds.tiles positive counted).pagesFrom_iff positive all
  · have ordered := finds.ordered
    rw [unsorted] at ordered
    exact (Except.ok.inj ordered).symm

theorem pages_tile_descending :
    let numbered (i j : Int) : Value := .object .any [("a", .ofInt i), ("b", .ofInt j)]
    let items := [numbered 2 0, numbered 1 1, numbered 3 2, .null, numbered 2 3]
    let n := Node.mapping [("$limit", .scalar (.ofInt 1)),
      ("a", .mapping [("$gte", .scalar (.ofInt 2))]), ("$sort", .mapping [("a", .scalar (.ofInt (-1)))])]
    let q : Querier Incomparable := { engine := .standard }
    let whole := [numbered 3 2, numbered 2 0, numbered 2 3]
    q.tree.Lawful ∧ q.query items n {} = .ok [numbered 3 2] ∧
      (∀ k : Nat, k * 2 < whole.length + 2 → k * 2 + 2 < signedLimit) ∧
      q.query items n { skip := some 0, limit := some 0 } = .ok whole ∧
      PagesFrom (fun k => q.query items n { skip := some (k * 2 : Nat), limit := some (2 : Nat) }) 0 whole := by
  intro numbered items n q whole
  have lawful : q.tree.Lawful := SortTree.balanced_lawful
  have succeeds : q.query items n {} = .ok [numbered 3 2] := by rfl
  have result : q.query items n { skip := some 0, limit := some 0 } = .ok whole := by rfl
  have counted : ∀ k : Nat, k * 2 < whole.length + 2 → k * 2 + 2 < signedLimit := by
    intro k near
    have limit : signedLimit = 9223372036854775808 := by decide
    have length : whole.length = 3 := rfl
    omega
  obtain ⟨whole', result', pages, _⟩ :=
    pages_tile lawful (Predicate.compiler .standard) items n succeeds
  cases result.symm.trans result'
  exact ⟨lawful, succeeds, counted, result, (pages 2 (by decide) counted whole).mpr rfl⟩

/-- A query returns times of both kinds in an order in which one comes after a later one. -/
theorem query_circle :
    let n := Node.mapping [("$sort", .mapping [("t", .scalar (.ofInt 1))])]
    let q : Querier Incomparable := { engine := .standard }
    ∃ whole, q.query circle n { skip := some 0, limit := some 0 } = .ok whole ∧
      ¬whole.Pairwise fun a b => itemOrder [⟨"t", 1⟩] a b ≠ .ok .gt := by
  intro n q
  -- the last time goes before the first, by their readings, and stays before the second
  have result : q.query circle n { skip := some 0, limit := some 0 } =
      .ok (circle.drop 2 ++ circle.take 2) := by rfl
  exact ⟨_, result, circle_unordered List.perm_append_comm⟩

end Querier

end FilterQuery
