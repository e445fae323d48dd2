import FilterQuery.Proofs.Value.Plain
import Mathlib.Logic.Function.Basic

/-!
# The order of values is a preorder

Comparing two values the other way around gives the opposite answer, and fails where comparing them
fails. Of three values that do not go down the first is not above the last, where no time with a reading
of the monotonic clock meets one without (`sameClock`): two readings may tell another order than the
calendar, by which other times are compared. Values built from null, numbers, texts, booleans, times,
lists and objects, and looked up fields of such values, are all comparable, and their classes come in a
fixed order (`compare_preorder`).

Everything is proved of sort keys first, by induction over one key. The order of objects is brought
into the form of an order of lists for that (`compare_object`): the values of two objects are
compared like two lists, and only objects with equal values are told apart by their keys.
-/

namespace FilterQuery

/-! ### Orders of atoms -/

instance : Std.TransCmp Extended.compare :=
  inferInstanceAs (Std.TransCmp (compareLex (compareOn fun x : Extended => x.rank.1)
    (compareLex (compareOn fun x : Extended => x.rank.2.1)
      (compareOn fun x : Extended => x.rank.2.2))))

namespace Instant

instance : Std.TransCmp compareWall :=
  inferInstanceAs (Std.TransCmp (compareLex (compareOn Instant.seconds) (compareOn Instant.nanos)))

instance : Std.OrientedCmp Instant.compare where
  eq_swap := by
    intro a b
    have walls : compareWall a b = (compareWall b a).swap := Std.OrientedCmp.eq_swap
    unfold Instant.compare
    cases a.monotonic with
    | none => cases b.monotonic <;> exact walls
    | some m =>
      cases b.monotonic with
      | none => exact walls
      | some n => exact (Std.OrientedCmp.eq_swap : Ord.compare m n = _)

/-- Times of one kind, with a reading of the clock or without, have a transitive order. -/
theorem compare_eq (clock : Bool) : ∃ cmp : Instant → Instant → Ordering, Std.TransCmp cmp ∧
    ∀ a b : Instant, a.monotonic.isSome = clock → b.monotonic.isSome = clock →
      a.compare b = cmp a b := by
  cases clock with
  | false =>
    refine ⟨compareWall, inferInstance, fun a b ha hb => ?_⟩
    rw [Option.isSome_eq_false_iff, Option.isNone_iff_eq_none] at ha hb
    rw [Instant.compare, ha]
  | true =>
    refine ⟨compareOn fun t => t.monotonic.getD 0, inferInstance, fun a b ha hb => ?_⟩
    obtain ⟨m, ha⟩ := Option.isSome_iff_exists.mp ha
    obtain ⟨n, hb⟩ := Option.isSome_iff_exists.mp hb
    simp only [Instant.compare, compareOn, ha, hb, Option.getD_some]

end Instant

namespace SortKey

theorem compareLists_eq {α : Type} (cmp : α → α → Ordering) (as bs : List α) :
    compareLists cmp as bs = List.compareLex cmp as bs := by
  induction as generalizing bs with
  | nil => cases bs <;> rfl
  | cons a as ih =>
    cases bs with
    | nil => rfl
    | cons b bs =>
      rw [compareLists, ih, List.compareLex_cons_cons]

instance {α : Type} (cmp : α → α → Ordering) [Std.TransCmp cmp] : Std.TransCmp (compareLists cmp) := by
  have same : compareLists cmp = List.compareLex cmp := by
    funext as bs
    exact compareLists_eq cmp as bs
  rw [same]
  infer_instance

theorem then_of_isLE {α : Type} (cmp : α → α → Ordering) [Std.TransCmp cmp] {a b c : α}
    (first : (cmp a b).isLE) (second : (cmp b c).isLE) :
    cmp a c = (cmp a b).then (cmp b c) := by
  cases ab : cmp a b with
  | lt => exact Std.TransCmp.lt_of_lt_of_isLE ab second
  | eq => exact Std.TransCmp.congr_left ab
  | gt => rw [ab] at first; cases first

/-! ### Keys -/

/-- A key without parts. -/
def isAtom : SortKey → Bool
  | .list _ | .object _ => false
  | _ => true

theorem induct {motive : SortKey → Prop} (atom : ∀ k, k.isAtom → motive k)
    (list : ∀ ks, (∀ k ∈ ks, motive k) → motive (.list ks))
    (object : ∀ es, (∀ e ∈ es, motive e.2) → motive (.object es)) : ∀ k, motive k
  | .list ks => list ks fun k member =>
    have _smaller := List.sizeOf_lt_of_mem member
    induct atom list object k
  | .object es => object es fun (key, k) member =>
    have _smaller := List.sizeOf_lt_of_mem member
    induct atom list object k
  | .undefined => atom _ rfl
  | .null => atom _ rfl
  | .number _ => atom _ rfl
  | .text _ => atom _ rfl
  | .bool _ => atom _ rfl
  | .time _ => atom _ rfl
  | .unordered _ => atom _ rfl
termination_by k => sizeOf k
decreasing_by
  · simp only [SortKey.list.sizeOf_spec]
    omega
  · simp only [SortKey.object.sizeOf_spec, Prod.mk.sizeOf_spec] at _smaller ⊢
    omega

theorem compare_of_rank_ne {a b : SortKey} (h : a.rank ≠ b.rank) :
    a.compare b = .ok (Ord.compare a.rank b.rank) := by
  cases a <;> cases b <;> first | rfl | exact absurd rfl h

/-! Parts by which atoms of a class are compared, with an arbitrary value for other keys. -/

def numberPart : SortKey → Extended
  | .number x => x
  | _ => .zero

def textPart : SortKey → List UInt8
  | .text bs => bs
  | _ => []

def boolPart : SortKey → Bool
  | .bool x => x
  | _ => false

def timePart : SortKey → Instant
  | .time t => t
  | _ => .ofUnixMillis 0

theorem compare_atoms {r : Nat} (ordered : r ≤ 5) :
    ∃ (α : Type) (cmp : α → α → Ordering) (part : SortKey → α), Std.OrientedCmp cmp ∧
      (r ≠ 5 → Std.TransCmp cmp) ∧
      ∀ a b : SortKey, a.rank = r → b.rank = r → a.compare b = .ok (cmp (part a) (part b)) := by
  match r, ordered with
  | 0, _ | 1, _ =>
    refine ⟨Nat, Ord.compare, rank, inferInstance, fun _ => inferInstance, fun a b ha hb => ?_⟩
    cases a <;> cases ha
    cases b <;> cases hb
    rfl
  | 2, _ =>
    refine ⟨Extended, Extended.compare, numberPart, inferInstance, fun _ => inferInstance, fun a b ha hb => ?_⟩
    cases a <;> cases ha
    cases b <;> cases hb
    rfl
  | 3, _ =>
    refine ⟨List UInt8, compareLists Ord.compare, textPart, inferInstance, fun _ => inferInstance, fun a b ha hb => ?_⟩
    cases a <;> cases ha
    cases b <;> cases hb
    rfl
  | 4, _ =>
    refine ⟨Bool, Ord.compare, boolPart, inferInstance, fun _ => inferInstance, fun a b ha hb => ?_⟩
    cases a <;> cases ha
    cases b <;> cases hb
    rfl
  | 5, _ =>
    refine ⟨Instant, Instant.compare, timePart, inferInstance, fun other => absurd rfl other,
      fun a b ha hb => ?_⟩
    cases a <;> cases ha
    cases b <;> cases hb
    rfl

theorem atom_cases {a : SortKey} (atom : a.isAtom) : a.rank ≤ 5 ∨ ∃ name, a = .unordered name := by
  cases a with
  | unordered name => exact .inr ⟨name, rfl⟩
  | list _ => cases atom
  | object _ => cases atom
  | _ => exact .inl (by simp [rank])

/-- A comparison that decides only where the one before finds no difference. -/
def thenBy (x y : Except Incomparable Ordering) : Except Incomparable Ordering := do
  match ← x with
  | .eq => y
  | o => return o

theorem compareItems_cons (a b : SortKey) (as bs : List SortKey) :
    compareItems (a :: as) (b :: bs) = thenBy (a.compare b) (compareItems as bs) := by
  rw [compareItems]
  rfl

theorem compare_object (as bs : List (String × SortKey)) :
    (SortKey.object as).compare (.object bs) =
      thenBy (compareItems (as.map (·.2)) (bs.map (·.2)))
        (.ok (compareLists Ord.compare (as.map (·.1)) (bs.map (·.1)))) := by
  -- of two lists with a common part the length decides, as it does for objects
  have values : (do return (← compareValues as bs).then (Ord.compare as.length bs.length)) =
      compareItems (as.map (·.2)) (bs.map (·.2)) := by
    induction as generalizing bs with
    | nil => cases bs <;> rfl
    | cons a as ih =>
      cases bs with
      | nil => rfl
      | cons b bs =>
        have lengths : Ord.compare (a :: as).length (b :: bs).length =
            Ord.compare as.length bs.length := by
          simp [Nat.compare_eq_ite_lt]
        rw [List.map_cons, List.map_cons, compareItems, compareValues, ← ih, lengths]
        cases a.2.compare b.2 with
        | error e => rfl
        | ok o => cases o <;> rfl
  rw [compare, ← values]
  cases compareValues as bs with
  | error e => rfl
  | ok o =>
    show Except.ok _ = thenBy (.ok (o.then _)) _
    cases o.then (Ord.compare as.length bs.length) <;> rfl

/-! ### Opposite answers -/

def opposite : Except Incomparable Ordering → Except Incomparable Ordering
  | .ok o => .ok o.swap
  | .error e => .error ⟨e.right, e.left⟩

theorem opposite_thenBy (x y : Except Incomparable Ordering) :
    opposite (thenBy x y) = thenBy (opposite x) (opposite y) := by
  cases x with
  | error e => rfl
  | ok o => cases o <;> rfl

theorem compareItems_opposite {as : List SortKey}
    (each : ∀ a ∈ as, ∀ b : SortKey, b.compare a = opposite (a.compare b)) (bs : List SortKey) :
    compareItems bs as = opposite (compareItems as bs) := by
  induction as generalizing bs with
  | nil => cases bs <;> rfl
  | cons a as ih =>
    cases bs with
    | nil => rfl
    | cons b bs =>
      rw [compareItems_cons, compareItems_cons, opposite_thenBy, each a List.mem_cons_self b,
        ih fun a member => each a (List.mem_cons_of_mem _ member)]

theorem compare_opposite (a b : SortKey) : b.compare a = opposite (a.compare b) := by
  induction a using induct generalizing b with
  | atom a atom =>
    by_cases same : a.rank = b.rank
    · rcases atom_cases atom with ordered | ⟨name, rfl⟩
      · obtain ⟨_, cmp, part, _, _, compared⟩ := compare_atoms ordered
        rw [compared b a same.symm rfl, compared a b rfl same.symm]
        exact congrArg Except.ok Std.OrientedCmp.eq_swap
      · cases b <;> rfl
    · rw [compare_of_rank_ne same, compare_of_rank_ne (Ne.symm same)]
      exact congrArg Except.ok Std.OrientedCmp.eq_swap
  | list as ih =>
    cases b with
    | list bs => exact compareItems_opposite ih bs
    | _ => rfl
  | object as ih =>
    cases b with
    | object bs =>
      have values : compareItems (bs.map (·.2)) (as.map (·.2)) =
          opposite (compareItems (as.map (·.2)) (bs.map (·.2))) :=
        compareItems_opposite (List.forall_mem_map.mpr fun e member => ih e member) _
      have keys : compareLists Ord.compare (bs.map (·.1)) (as.map (·.1)) =
          (compareLists Ord.compare (as.map (·.1)) (bs.map (·.1))).swap :=
        Std.OrientedCmp.eq_swap
      rw [compare_object, compare_object, values, keys, opposite_thenBy]
      rfl
    | _ => rfl

/-! ### Clocks -/

/-- Whether a comparison finds no difference. -/
def isTie : Except Incomparable Ordering → Bool
  | .ok .eq => true
  | _ => false

theorem isTie_opposite (x : Except Incomparable Ordering) : isTie (opposite x) = isTie x := by
  cases x with
  | error e => rfl
  | ok o => cases o <;> rfl

theorem not_isTie_or (x : Except Incomparable Ordering) (b : Bool) :
    (!isTie x || b) = true ↔ (x = .ok .eq → b = true) := by
  cases x with
  | error e => simp [isTie]
  | ok o => cases o <;> simp [isTie]

mutual

/-- Whether a comparison of two keys compares times only with times of their kind: both have a reading of
the monotonic clock, or neither has. Parts behind the first difference are not compared. -/
def sameClock : SortKey → SortKey → Bool
  | .time a, .time b => a.monotonic.isSome == b.monotonic.isSome
  | .list as, .list bs => sameClocks as bs
  | .object as, .object bs => entriesSameClock as bs
  | _, _ => true

def sameClocks : List SortKey → List SortKey → Bool
  | a :: as, b :: bs => sameClock a b && (!isTie (a.compare b) || sameClocks as bs)
  | _, _ => true

def entriesSameClock : List (String × SortKey) → List (String × SortKey) → Bool
  | (_, a) :: as, (_, b) :: bs => sameClock a b && (!isTie (a.compare b) || entriesSameClock as bs)
  | _, _ => true

end

theorem entriesSameClock_eq (as bs : List (String × SortKey)) :
    entriesSameClock as bs = sameClocks (as.map (·.2)) (bs.map (·.2)) := by
  induction as generalizing bs with
  | nil => rw [entriesSameClock, List.map_nil, sameClocks] <;> simp
  | cons a as ih =>
    cases bs with
    | nil => rfl
    | cons b bs => rw [entriesSameClock, ih, List.map_cons, List.map_cons, sameClocks]

theorem sameClocks_cons {a b : SortKey} {as bs : List SortKey} :
    sameClocks (a :: as) (b :: bs) ↔
      a.sameClock b ∧ (a.compare b = .ok .eq → sameClocks as bs) := by
  rw [sameClocks, Bool.and_eq_true, not_isTie_or]

theorem sameClocks_symm {as : List SortKey} (each : ∀ a ∈ as, ∀ b, b.sameClock a = a.sameClock b)
    (bs : List SortKey) : sameClocks bs as = sameClocks as bs := by
  induction as generalizing bs with
  | nil => cases bs <;> rfl
  | cons a as ih =>
    cases bs with
    | nil => rfl
    | cons b bs =>
      rw [sameClocks, sameClocks, each a List.mem_cons_self b, compare_opposite a b, isTie_opposite,
        ih fun a member => each a (List.mem_cons_of_mem _ member)]

theorem sameClock_symm (a b : SortKey) : b.sameClock a = a.sameClock b := by
  induction a using induct generalizing b with
  | atom a atom =>
    cases a with
    | time t =>
      cases b with
      | time u => exact Bool.beq_comm
      | _ => rfl
    | list _ => cases atom
    | object _ => cases atom
    | _ => cases b <;> rfl
  | list as ih =>
    cases b with
    | list bs => exact sameClocks_symm ih bs
    | _ => rfl
  | object as ih =>
    cases b with
    | object bs =>
      rw [sameClock, sameClock, entriesSameClock_eq, entriesSameClock_eq]
      exact sameClocks_symm (List.forall_mem_map.mpr fun e member => ih e member) _
    | _ => rfl

/-! ### Steps that do not go down -/

/-- Where two comparisons do not go down, the third is the two taken together. -/
def Composes (x y z : Except Incomparable Ordering) : Prop :=
  ∀ p q, x = .ok p → y = .ok q → p.isLE → q.isLE → z = .ok (p.then q)

theorem composes_ok {α : Type} (cmp : α → α → Ordering) [Std.TransCmp cmp] (a b c : α) :
    Composes (.ok (cmp a b)) (.ok (cmp b c)) (.ok (cmp a c)) := by
  rintro p q ⟨⟩ ⟨⟩ first second
  exact congrArg Except.ok (then_of_isLE cmp first second)

theorem Composes.thenBy {x y z x' y' z' : Except Incomparable Ordering} (first : Composes x y z)
    (second : x = .ok .eq → y = .ok .eq → Composes x' y' z') :
    Composes (SortKey.thenBy x x') (SortKey.thenBy y y') (SortKey.thenBy z z') := by
  intro p q xp yq pLE qLE
  cases x with
  | error e => cases xp
  | ok o =>
    cases y with
    | error e => cases yq
    | ok o' =>
      have together : o.isLE → o'.isLE → z = .ok (o.then o') := first o o' rfl rfl
      -- the first comparison that finds a difference decides, on either step
      cases o with
      | gt => cases xp; cases pLE
      | lt =>
        cases xp
        cases o' with
        | gt => cases yq; cases qLE
        | _ => rw [together rfl rfl]; rfl
      | eq =>
        cases o' with
        | gt => cases yq; cases qLE
        | lt =>
          cases yq
          rw [together rfl rfl]
          cases p with
          | gt => cases pLE
          | _ => rfl
        | eq =>
          rw [together rfl rfl]
          exact second rfl rfl p q xp yq pLE qLE

theorem compareItems_composes {as : List SortKey}
    (each : ∀ a ∈ as, ∀ b c : SortKey, a.sameClock b → b.sameClock c →
      Composes (a.compare b) (b.compare c) (a.compare c))
    {bs cs : List SortKey} (first : sameClocks as bs) (second : sameClocks bs cs) :
    Composes (compareItems as bs) (compareItems bs cs) (compareItems as cs) := by
  induction as generalizing bs cs with
  | nil =>
    cases bs with
    | nil =>
      rintro p q ⟨⟩ second _ _
      exact second
    | cons b bs =>
      rintro p q ⟨⟩ second _ le
      cases cs with
      | nil => cases second; cases le
      | cons c cs => rfl
  | cons a as ih =>
    cases bs with
    | nil =>
      rintro p q ⟨⟩ _ le _
      cases le
    | cons b bs =>
      cases cs with
      | nil =>
        rintro p q _ ⟨⟩ _ le
        cases le
      | cons c cs =>
        rw [sameClocks_cons] at first second
        rw [compareItems_cons, compareItems_cons, compareItems_cons]
        exact (each a List.mem_cons_self b c first.1 second.1).thenBy fun ab bc =>
          ih (fun a member => each a (List.mem_cons_of_mem _ member))
            (first.2 ab) (second.2 bc)

theorem rank_le_of_compare {a b : SortKey} {p : Ordering} (h : a.compare b = .ok p) (le : p.isLE) :
    a.rank ≤ b.rank := by
  by_cases same : a.rank = b.rank
  · exact Nat.le_of_eq same
  · rw [compare_of_rank_ne same] at h
    cases h
    exact Nat.isLE_compare.mp le

theorem compare_of_rank_lt {a b : SortKey} (h : a.rank < b.rank) : a.compare b = .ok .lt := by
  rw [compare_of_rank_ne (Nat.ne_of_lt h), Nat.compare_eq_lt.mpr h]

theorem composes_of_rank_ne {a b c : SortKey} (h : a.rank ≠ b.rank ∨ b.rank ≠ c.rank) :
    Composes (a.compare b) (b.compare c) (a.compare c) := by
  intro p q first second pLE qLE
  have ab := rank_le_of_compare first pLE
  have bc := rank_le_of_compare second qLE
  rw [compare_of_rank_lt (show a.rank < c.rank by omega)]
  rcases h with h | h
  · rw [compare_of_rank_lt (show a.rank < b.rank by omega)] at first
    cases first
    rfl
  · rw [compare_of_rank_lt (show b.rank < c.rank by omega)] at second
    cases second
    cases p with
    | gt => cases pLE
    | _ => rfl

theorem composes_times {a b c : Instant} (first : (SortKey.time a).sameClock (.time b))
    (second : (SortKey.time b).sameClock (.time c)) :
    Composes ((SortKey.time a).compare (.time b)) ((SortKey.time b).compare (.time c))
      ((SortKey.time a).compare (.time c)) := by
  have ab : a.monotonic.isSome = b.monotonic.isSome := beq_iff_eq.mp first
  have bc : b.monotonic.isSome = c.monotonic.isSome := beq_iff_eq.mp second
  obtain ⟨cmp, _, compared⟩ := Instant.compare_eq b.monotonic.isSome
  rw [compare, compare, compare, compared a b ab rfl, compared b c rfl bc.symm,
    compared a c ab bc.symm]
  exact composes_ok cmp a b c

theorem composes_atoms {a b c : SortKey} (atom : a.isAtom) (ab : a.rank = b.rank)
    (bc : b.rank = c.rank) (first : a.sameClock b) (second : b.sameClock c) :
    Composes (a.compare b) (b.compare c) (a.compare c) := by
  rcases atom_cases atom with ordered | ⟨name, rfl⟩
  · by_cases times : a.rank = 5
    · cases a <;> cases times
      cases b <;> cases ab
      cases c <;> cases bc
      exact composes_times first second
    · obtain ⟨_, cmp, part, _, transitive, compared⟩ := compare_atoms ordered
      have := transitive times
      rw [compared a b rfl ab.symm, compared b c ab.symm (ab.trans bc).symm,
        compared a c rfl (ab.trans bc).symm]
      exact composes_ok cmp _ _ _
  · cases b with
    | unordered other =>
      intro p q failed
      cases failed
    | _ => cases ab

/-- Comparing is transitive, whether or not all keys have an order. -/
theorem compare_composes {a b c : SortKey} (first : a.sameClock b) (second : b.sameClock c) :
    Composes (a.compare b) (b.compare c) (a.compare c) := by
  induction a using induct generalizing b c with
  | atom a atom =>
    by_cases same : a.rank = b.rank ∧ b.rank = c.rank
    · exact composes_atoms atom same.1 same.2 first second
    · exact composes_of_rank_ne (by omega)
  | list as ih =>
    cases b with
    | list bs =>
      cases c with
      | list cs => exact compareItems_composes (fun a member _ _ => ih a member) first second
      | _ => exact composes_of_rank_ne (.inr (by simp [rank]))
    | _ => exact composes_of_rank_ne (.inl (by simp [rank]))
  | object as ih =>
    cases b with
    | object bs =>
      cases c with
      | object cs =>
        rw [sameClock, entriesSameClock_eq] at first second
        have values : Composes (compareItems (as.map (·.2)) (bs.map (·.2)))
            (compareItems (bs.map (·.2)) (cs.map (·.2)))
            (compareItems (as.map (·.2)) (cs.map (·.2))) :=
          compareItems_composes (List.forall_mem_map.mpr fun e member _ _ => ih e member) first second
        rw [compare_object, compare_object, compare_object]
        exact values.thenBy fun _ _ => composes_ok (compareLists Ord.compare) _ _ _
      | _ => exact composes_of_rank_ne (.inr (by simp [rank]))
    | _ => exact composes_of_rank_ne (.inl (by simp [rank]))

/-! ### A key and itself -/

theorem compareItems_self {as : List SortKey} (each : ∀ a ∈ as, a.isOrdered → a.compare a = .ok .eq)
    (ordered : areOrdered as) : compareItems as as = .ok .eq := by
  induction as with
  | nil => rfl
  | cons a as ih =>
    rw [areOrdered, Bool.and_eq_true] at ordered
    rw [compareItems_cons, each a List.mem_cons_self ordered.1,
      ih (fun a member => each a (List.mem_cons_of_mem _ member)) ordered.2]
    rfl

theorem areOrdered_values {es : List (String × SortKey)} (h : entriesOrdered es) :
    areOrdered (es.map (·.2)) := by
  induction es with
  | nil => rfl
  | cons e es ih =>
    rw [entriesOrdered, Bool.and_eq_true] at h
    rw [List.map_cons, areOrdered, h.1, ih h.2]
    rfl

theorem compare_self (a : SortKey) (ordered : a.isOrdered) : a.compare a = .ok .eq := by
  induction a using induct with
  | atom a atom =>
    rcases atom_cases atom with class_ | ⟨name, rfl⟩
    · obtain ⟨_, cmp, part, _, _, compared⟩ := compare_atoms class_
      rw [compared a a rfl rfl]
      exact congrArg Except.ok Std.ReflCmp.compare_self
    · cases ordered
  | list as ih => exact compareItems_self ih ordered
  | object as ih =>
    rw [isOrdered] at ordered
    rw [compare_object, compareItems_self (List.forall_mem_map.mpr fun e member => ih e member)
      (areOrdered_values ordered)]
    exact congrArg Except.ok Std.ReflCmp.compare_self

end SortKey

/-! ### Values -/

/-- The classes of values that have an order. -/
inductive OrderClass where
  | undefined
  | null
  | number
  | text
  | bool
  | time
  | list
  | object
deriving DecidableEq, Repr

/-- The place of a class among the classes, the lowest of which is the first. -/
def OrderClass.place : OrderClass → Nat
  | .undefined => 0
  | .null => 1
  | .number => 2
  | .text => 3
  | .bool => 4
  | .time => 5
  | .list => 6
  | .object => 7

namespace Value

mutual

/-- Whether a value is built from null, integers, floating point numbers other than NaN, numerals
that denote a number, texts, booleans, times, lists and objects. Everywhere in it, and where `field`
says so also in its own place, a looked up field may stand for its value, but not for another such
field. -/
def hasOrder (field : Bool) : Value → Bool
  | .undefined => field
  | .defined v => field && v.hasOrder false
  | .null | .int _ | .text _ | .rawText _ | .bool _ | .time _ => true
  | .double x | .single x => !x.isNaN
  | .numeral s => (Extended.ofNumeral? s).isSome
  | .list _ items | .array _ items => haveOrder items
  | .object _ es => entriesHaveOrder es
  | .record fields => fieldsHaveOrder fields
  | .nilOf (.list (.int .uint8)) => false
  | .nilOf (.list _) | .nilOf (.map _) => true
  | _ => false

def haveOrder : List Value → Bool
  | [] => true
  | v :: vs => v.hasOrder true && haveOrder vs

def entriesHaveOrder : List (String × Value) → Bool
  | [] => true
  | (_, v) :: es => v.hasOrder true && entriesHaveOrder es

def fieldsHaveOrder : List (Field Ty × Value) → Bool
  | [] => true
  | (_, v) :: fs => v.hasOrder true && fieldsHaveOrder fs

end

/-- The class of a value that has an order; a field belongs to the class of its value. -/
def orderClass : Value → OrderClass
  | .undefined => .undefined
  | .defined v => v.orderClass
  | .null => .null
  | .int _ | .double _ | .single _ | .numeral _ => .number
  | .text _ | .rawText _ => .text
  | .bool _ => .bool
  | .time _ => .time
  | .list .. | .array .. | .nilOf (.list _) => .list
  | _ => .object

mutual

theorem hasOrder_key : ∀ {field : Bool} {v : Value}, v.hasOrder field →
    (v.keyOf field).isOrdered ∧ (v.keyOf field).rank = v.orderClass.place
  | true, .defined v, h => @hasOrder_key false v h
  | _, .list _ items, h => ⟨haveOrder_keys h, rfl⟩
  | _, .array _ items, h => ⟨haveOrder_keys h, rfl⟩
  | _, .object _ es, h =>
    ⟨SortKey.ofEntries_ordered (SortKey.entriesOrdered_iff.mp (entriesHaveOrder_keys h)), rfl⟩
  | _, .record fields, h =>
    ⟨SortKey.ofEntries_ordered (SortKey.entriesOrdered_iff.mp (fieldsHaveOrder_keys h)), rfl⟩
  | _, .double x, h => by
    cases x with
    | nan => cases h
    | _ => exact ⟨rfl, rfl⟩
  | _, .single x, h => by
    cases x with
    | nan => cases h
    | _ => exact ⟨rfl, rfl⟩
  | _, .numeral s, h => by
    rw [hasOrder] at h
    obtain ⟨x, read⟩ := Option.isSome_iff_exists.mp h
    rw [keyOf, read]
    exact ⟨rfl, rfl⟩
  | _, .nilOf (.list elem), h => by
    cases elem with
    | int t =>
      cases t with
      | uint8 => cases h
      | _ => exact ⟨rfl, rfl⟩
    | _ => exact ⟨rfl, rfl⟩
  | true, .undefined, _ => ⟨rfl, rfl⟩
  | _, .null, _ | _, .int _, _ | _, .text _, _ | _, .rawText _, _ | _, .bool _, _ | _, .time _, _
  | _, .nilOf (.map _), _ => ⟨rfl, rfl⟩

theorem haveOrder_keys : ∀ {vs : List Value}, haveOrder vs → SortKey.areOrdered (keysOf vs)
  | [], _ => rfl
  | v :: vs, h => by
    rw [haveOrder, Bool.and_eq_true] at h
    rw [keysOf, SortKey.areOrdered, (hasOrder_key h.1).1, haveOrder_keys h.2]
    rfl

theorem entriesHaveOrder_keys : ∀ {es : List (String × Value)}, entriesHaveOrder es →
    SortKey.entriesOrdered (entryKeys es)
  | [], _ => rfl
  | (k, v) :: es, h => by
    rw [entriesHaveOrder, Bool.and_eq_true] at h
    rw [entryKeys, SortKey.entriesOrdered, (hasOrder_key h.1).1, entriesHaveOrder_keys h.2]
    rfl

theorem fieldsHaveOrder_keys : ∀ {fs : List (Field Ty × Value)}, fieldsHaveOrder fs →
    SortKey.entriesOrdered (fieldKeys fs)
  | [], _ => rfl
  | (f, v) :: fs, h => by
    rw [fieldsHaveOrder, Bool.and_eq_true] at h
    rw [fieldKeys]
    split
    · rw [SortKey.entriesOrdered, (hasOrder_key h.1).1, fieldsHaveOrder_keys h.2]
      rfl
    · exact fieldsHaveOrder_keys h.2

end

/-- Whether comparing two values compares times only with times of their kind. -/
def sameClock (a b : Value) : Bool := a.sortKey.sameClock b.sortKey

/-- Comparing any two values the other way around fails as well, or gives the opposite. Two steps that
do not go down make one that does not, and it stays if both do, where each step compares times with a
reading of the clock only with such times. Values with an order are comparable, equal to themselves, and
in the order of their classes. -/
theorem compare_preorder :
    (∀ a b : Value, (∃ e e', a.compare b = .error e ∧ b.compare a = .error e') ∨
      ∃ o, a.compare b = .ok o ∧ b.compare a = .ok o.swap) ∧
    (∀ (a b c : Value) (p q : Ordering), a.sameClock b → b.sameClock c →
      a.compare b = .ok p → b.compare c = .ok q → p.isLE → q.isLE →
        a.compare c = .ok (p.then q) ∧ (p.then q).isLE) ∧
    ∀ a b : Value, a.hasOrder true → b.hasOrder true →
      (∃ o, a.compare b = .ok o) ∧ a.compare a = .ok .eq ∧
        (a.orderClass.place < b.orderClass.place → a.compare b = .ok .lt) := by
  refine ⟨fun a b => ?_, fun a b c p q ab bc first second pLE qLE => ?_, fun a b ha hb => ?_⟩
  · have opposite : b.compare a = _ := SortKey.compare_opposite a.sortKey b.sortKey
    rw [opposite]
    unfold Value.compare
    cases a.sortKey.compare b.sortKey with
    | error e => exact .inl ⟨e, _, rfl, rfl⟩
    | ok o => exact .inr ⟨o, rfl, rfl⟩
  · refine ⟨SortKey.compare_composes ab bc p q first second pLE qLE, ?_⟩
    cases p with
    | lt => rfl
    | eq => exact qLE
    | gt => cases pLE
  · obtain ⟨aOrdered, aRank⟩ := hasOrder_key ha
    obtain ⟨_, bRank⟩ := hasOrder_key hb
    refine ⟨SortKey.compare_total a.sortKey b.sortKey aOrdered,
      SortKey.compare_self a.sortKey aOrdered, fun lower => SortKey.compare_of_rank_lt ?_⟩
    unfold sortKey
    rwa [aRank, bRank]

theorem compare_preorder_fields :
    let a := Value.list .any [.undefined, .numeral "1", .time ⟨5, 0, 0, some 7⟩]
    let b := Value.list .any [.undefined, .defined (.single (.infinite false)), .time ⟨3, 0, 0, some 8⟩]
    let c := Value.object .any [("k", .defined .null)]
    a.hasOrder true ∧ b.hasOrder true ∧ c.hasOrder true ∧ a.sameClock b ∧ b.sameClock c ∧
      a.compare b = .ok .lt ∧ b.compare c = .ok .lt ∧ a.compare c = .ok .lt := by
  intro a b c
  have ha : a.hasOrder true := rfl
  have hb : b.hasOrder true := rfl
  have hc : c.hasOrder true := rfl
  have clocks : a.sameClock b ∧ b.sameClock c := ⟨rfl, rfl⟩
  have ab : a.compare b = .ok .lt := rfl
  have bc : b.compare c = .ok .lt := (compare_preorder.2.2 b c hb hc).2.2 (by decide)
  exact ⟨ha, hb, hc, clocks.1, clocks.2, ab, bc,
    (compare_preorder.2.1 a b c _ _ clocks.1 clocks.2 ab bc rfl rfl).1⟩

/-- Between two times with readings of the clock, which was put back between them, a time without one
closes a circle. -/
theorem compare_circle :
    let a := Value.time ⟨1, 0, 0, some 20⟩
    let b := Value.time ⟨2, 0, 0, none⟩
    let c := Value.time ⟨3, 0, 0, some 10⟩
    a.hasOrder true ∧ b.hasOrder true ∧ c.hasOrder true ∧ a.compare b = .ok .lt ∧
      b.compare c = .ok .lt ∧ a.compare c = .ok .gt := by
  intro a b c
  exact ⟨rfl, rfl, rfl, rfl, rfl, rfl⟩

end Value

end FilterQuery
