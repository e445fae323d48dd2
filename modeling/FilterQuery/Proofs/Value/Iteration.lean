import FilterQuery.Proofs.Text.ByteOrder
import FilterQuery.Proofs.Value.Entries
import FilterQuery.Proofs.Value.Shape
import Mathlib.Data.List.Basic

/-!
# Iteration place by place

How the parts of a value are reached and handed to a caller: a loop goes from place to place along
references, lists and maps of common types are taken as they are, and the keys of a map are listed in an
order that nobody knows and then sorted. `seq` and `seq2` report a length besides what they yield. They
hand on the items and entries of a value, with the entries of maps sorted once more (`seq_eq`,
`seq2_eq`), and the tests of the shape go along the same places (`testsList_eq`, `testsObject_eq`).
-/

namespace FilterQuery.Iteration

open Value

/-! ### Places -/

/-- The kinds of places that iteration tells apart. -/
inductive Kind where
  | absent
  | pointer
  /-- A place that holds values of every type. -/
  | dynamic
  | record
  /-- A map with text keys. -/
  | mapping
  | sequence
  | other
deriving DecidableEq

def kindOf : Value → Kind
  | .null => .absent
  | .ref .. | .nilOf (.ref _) | .undefined | .defined _ | .regex _ => .pointer
  | .record _ | .sealed _ | .time _ | .scalarNode _ | .entryNode .. => .record
  | .object .. | .nilOf (.map _) => .mapping
  | .list .. | .array .. | .bytes _ | .sequenceNode _ | .mappingNode _ | .nilOf (.list _) => .sequence
  | _ => .other

structure Place where
  /-- Whether the place holds values of every type. -/
  isDynamic : Bool
  held : Value

namespace Place

def kind (p : Place) : Kind := if p.isDynamic then .dynamic else kindOf p.held

def typeName (p : Place) : String := if p.isDynamic then Ty.any.name else p.held.typeName

/-- The place that a place leads to. -/
def next? (p : Place) : Option Place :=
  if p.isDynamic then
    if p.held.isNull then none else some ⟨false, p.held⟩
  else match p.held with
    | .ref t v => some ⟨t.isAny, v⟩
    | .undefined | .defined _ => some ⟨false, getterCell⟩
    | .regex _ => some ⟨false, regexCell⟩
    | _ => none

/-- A bound for the number of places that follow. -/
def ahead (p : Place) : Nat := go p.held + if p.isDynamic then 1 else 0
where
  go : Value → Nat
    | .ref _ v => go v + 2
    | .undefined | .defined _ | .regex _ => 1
    | _ => 0

theorem ahead_next {p q : Place} (next : p.next? = some q) : q.ahead < p.ahead := by
  obtain ⟨isDynamic, held⟩ := p
  cases isDynamic with
  | true =>
    rw [next?, if_pos rfl] at next
    split at next
    · cases next
    · cases next
      exact Nat.lt_succ_self _
  | false =>
    rw [next?, if_neg Bool.false_ne_true] at next
    cases held with
    | ref t v =>
      cases next
      -- a reference counts two, as the place behind it may count one
      change ahead.go v + (if t.isAny then 1 else 0) < ahead.go v + 2
      split <;> omega
    | undefined | defined | regex =>
      cases next
      exact Nat.one_pos
    | _ => cases next

end Place

/-- Goes on from place to place through the given kinds. -/
def follow (through : Kind → Bool) (p : Place) : Option Place :=
  if through p.kind then
    match _next : p.next? with
    | some q => follow through q
    | none => none
  else some p
termination_by p.ahead
decreasing_by exact Place.ahead_next _next

/-- The place behind all references, if there is something. -/
def indirect (p : Place) : Option Place :=
  (follow (fun k => k == .pointer || k == .dynamic) p).filter fun q => q.kind != .absent

/-- The place behind pointers. -/
def pointed (p : Place) : Option Place := follow (· == .pointer) p

/-! ### What is handed to a caller -/

structure Handed (α : Type) where
  /-- The length that is reported. -/
  length : Nat
  /-- What a caller gets that takes all there is. -/
  yielded : List α

def Handed.whole {α : Type} (xs : List α) : Handed α := ⟨xs.length, xs⟩

/-- The items of a list, each taken by its index. -/
def byIndex (xs : List Value) : Handed Value :=
  ⟨xs.length, List.ofFn fun n : Fin xs.length => xs[n]⟩

/-- The element types of the lists and maps that are taken as they are. -/
def isCommon : Ty → Bool
  | .any | .text | .bool | .int .int | .int .int64 | .float64 | .time => true
  | _ => false

def isCommonList : Value → Bool
  | .list elem _ | .nilOf (.list elem) => isCommon elem
  | _ => false

def isCommonMap : Value → Bool
  | .object elem _ | .nilOf (.map elem) => isCommon elem
  | _ => false

def itemsIn (v : Value) : List Value := v.directItems?.getD []

def entriesIn (v : Value) : List (String × Value) := v.directEntries?.getD []

def testsList (v : Value) : Bool :=
  !(v.isNull || v.isPrimitive) && (indirect ⟨false, v⟩).any fun p => p.kind == .sequence

def testsObject (v : Value) : Bool :=
  !(v.isNull || v.isPrimitive) && (indirect ⟨false, v⟩).any fun p => p.kind == .record || p.kind == .mapping

/-- Iteration over items, through all references. -/
def seq (v : Value) : Except ShapeError (Handed Value) :=
  if v.isNull then .error .absent
  else if v.isPrimitive then .error (.notList v.typeName)
  else if isCommonList v then .ok (.whole (itemsIn v))
  else match indirect ⟨false, v⟩ with
    | none => .error .absent
    | some p =>
      if p.kind = .sequence then .ok (byIndex (itemsIn p.held))
      else .error (.notList p.typeName)

section Maps

-- the order in which maps list their keys; it may be any
variable (order : List String → List String)

/-- The keys of a map, listed and then sorted by their bytes. -/
def sortedKeys (es : List (String × Value)) : List String :=
  (order (es.map Prod.fst)).mergeSort fun k l => Utf8.encode k ≤ Utf8.encode l

/-- The entries of a map under the given keys. -/
def under (keys : List String) (es : List (String × Value)) : List (String × Value) :=
  keys.filterMap fun k => (es.lookup k).map (k, ·)

/-- A map of a common type has a length before its keys are listed. -/
def commonMap (es : List (String × Value)) : Handed (String × Value) :=
  ⟨es.length, under (sortedKeys order es) es⟩

/-- Other maps have as many entries as keys were listed. -/
def inspectedMap (es : List (String × Value)) : Handed (String × Value) :=
  ⟨(sortedKeys order es).length, under (sortedKeys order es) es⟩

/-- Iteration over entries, through pointers alone. -/
def seq2 (v : Value) : Except ShapeError (Handed (String × Value)) :=
  if v.isNull then .error .absent
  else if v.isPrimitive then .error (.notObject v.typeName)
  else if isCommonMap v then .ok (commonMap order (entriesIn v))
  else match pointed ⟨false, v⟩ with
    | none => .error .absent
    | some p =>
      match p.kind with
      | .mapping => .ok (inspectedMap order (entriesIn p.held))
      | .record => .ok (.whole (entriesIn p.held))
      | _ => .error (.notObject p.typeName)

end Maps

/-! ### The loops -/

theorem follow_eq (through : Kind → Bool) (p : Place) :
    follow through p = if through p.kind then p.next?.bind (follow through) else some p := by
  rw [follow]
  split
  · split
    · rename_i next
      rw [next]
      rfl
    · rename_i next
      rw [next]
      rfl
  · rfl

/-- The kinds that no loop goes through. -/
def Kind.isSettled : Kind → Bool
  | .absent | .pointer | .dynamic => false
  | .record | .mapping | .sequence | .other => true

theorem indirect_settled {v : Value} (settled : (kindOf v).isSettled = true) :
    indirect ⟨false, v⟩ = some ⟨false, v⟩ := by
  rw [indirect, follow_eq, Place.kind, if_neg Bool.false_ne_true]
  dsimp only
  cases kind : kindOf v with
  | absent | pointer | dynamic =>
    rw [kind] at settled
    cases settled
  | record | mapping | sequence | other =>
    rw [if_neg (by decide), Option.filter_some, Place.kind, if_neg Bool.false_ne_true, kind]
    rfl

theorem indirect_pointer {v : Value} (pointer : kindOf v = .pointer) :
    indirect ⟨false, v⟩ = (Place.next? ⟨false, v⟩).bind indirect := by
  rw [indirect, follow_eq, Place.kind, if_neg Bool.false_ne_true, pointer, if_pos (by decide)]
  cases Place.next? ⟨false, v⟩ <;> rfl

theorem indirect_null : indirect ⟨false, .null⟩ = none := by
  rw [indirect, follow_eq]
  rfl

theorem indirect_dynamic (v : Value) : indirect ⟨true, v⟩ = indirect ⟨false, v⟩ := by
  rw [indirect, follow_eq]
  cases absent : v.isNull with
  | true =>
    rw [isNull_eq absent, indirect_null]
    rfl
  | false =>
    have next : Place.next? ⟨true, v⟩ = some ⟨false, v⟩ := by
      rw [Place.next?, if_pos rfl, absent, if_neg Bool.false_ne_true]
    rw [next]
    rfl

theorem settled_of_ne {v : Value} (present : v = .null → False) (noRef : ∀ t w, v = .ref t w → False)
    (noNil : ∀ t, v = .nilOf (.ref t) → False) (found : v = .undefined → False)
    (defined : ∀ w, v = .defined w → False) (noRegex : ∀ re, v = .regex re → False) :
    (kindOf v).isSettled = true := by
  cases v with
  | null => exact (present rfl).elim
  | ref t w => exact (noRef t w rfl).elim
  | undefined => exact (found rfl).elim
  | defined w => exact (defined w rfl).elim
  | regex re => exact (noRegex re rfl).elim
  | nilOf type =>
    cases type with
    | ref t => exact (noNil t rfl).elim
    | _ => rfl
  | _ => rfl

theorem indirect_eq (v : Value) : indirect ⟨false, v⟩ = v.target?.map (Place.mk false) := by
  fun_induction target? v with
  | case1 => exact indirect_null
  | case2 t v ih =>
    rw [indirect_pointer rfl]
    change indirect ⟨t.isAny, v⟩ = _
    cases t.isAny with
    | true => rw [indirect_dynamic, ih]
    | false => exact ih
  | case3 => exact indirect_pointer rfl
  | case4 | case5 | case6 => exact (indirect_pointer rfl).trans (indirect_settled rfl)
  | case7 => exact indirect_settled (settled_of_ne ‹_› ‹_› ‹_› ‹_› ‹_› ‹_›)

theorem pointed_pointer {v : Value} (pointer : kindOf v = .pointer) :
    pointed ⟨false, v⟩ = (Place.next? ⟨false, v⟩).bind pointed := by
  rw [pointed, follow_eq, Place.kind, if_neg Bool.false_ne_true, pointer]
  rfl

theorem pointed_dynamic (v : Value) : pointed ⟨true, v⟩ = some ⟨true, v⟩ := by
  rw [pointed, follow_eq]
  rfl

theorem pointed_settled {v : Value} (settled : v = .null ∨ (kindOf v).isSettled = true) :
    pointed ⟨false, v⟩ = some ⟨false, v⟩ := by
  rw [pointed, follow_eq, Place.kind, if_neg Bool.false_ne_true]
  rcases settled with rfl | settled
  · rfl
  · cases kind : kindOf v with
    | pointer =>
      rw [kind] at settled
      cases settled
    | _ => rfl

theorem entryTarget_eq_pointed (v : Value) :
    v.entryTarget = match pointed ⟨false, v⟩ with
      | none => .error .absent
      | some p => if p.isDynamic then .error (.notObject p.typeName) else .ok p.held := by
  fun_induction entryTarget v with
  | case1 t v any =>
    have reached : pointed ⟨false, .ref t v⟩ = some ⟨true, v⟩ := by
      rw [pointed_pointer rfl]
      change pointed ⟨t.isAny, v⟩ = _
      rw [any, pointed_dynamic]
    rw [reached, eq_any any]
    rfl
  | case2 t v typed ih =>
    have reached : pointed ⟨false, .ref t v⟩ = pointed ⟨false, v⟩ := by
      rw [pointed_pointer rfl]
      change pointed ⟨t.isAny, v⟩ = _
      rw [eq_false_of_ne_true typed]
    rw [reached]
    exact ih
  | case3 => rw [pointed_pointer rfl]; rfl
  | case4 | case5 | case6 =>
    rw [pointed_pointer rfl]
    change _ = match pointed ⟨false, _⟩ with | none => _ | some p => _
    rw [pointed_settled (.inr rfl)]
    rfl
  | case7 v =>
    cases absent : v.isNull with
    | true =>
      rw [isNull_eq absent, pointed_settled (.inl rfl)]
      rfl
    | false =>
      have present : v = .null → False := by
        rintro rfl
        cases absent
      rw [pointed_settled (.inr (settled_of_ne present ‹_› ‹_› ‹_› ‹_› ‹_›))]
      rfl

/-! ### Lists -/

theorem kindOf_sequence (v : Value) : (kindOf v == .sequence) = v.directItems?.isSome := by
  rw [← hasItems_eq]
  cases v with
  | nilOf type => cases type <;> rfl
  | _ => rfl

theorem byIndex_eq (xs : List Value) : byIndex xs = .whole xs :=
  congrArg (Handed.mk xs.length) List.ofFn_getElem

theorem testsList_eq (v : Value) : testsList v = v.isList := by
  rw [testsList, isList, indirect_eq]
  cases target : v.target? with
  | none => rw [Option.map_none, Option.any_none, Option.any_none, Bool.and_false, Bool.and_false]
  | some t =>
    rw [isNull_of_target? target, Bool.false_or, Option.any_some, hasItems_eq, ← kindOf_sequence]
    rfl

theorem itemsIn_of_direct {v : Value} {items : List Value} (direct : v.directItems? = some items) :
    itemsIn v = items := by
  rw [itemsIn, direct, Option.getD_some]

theorem isCommonList_target {v : Value} (common : isCommonList v = true) :
    v.target? = some v ∧ ∃ items, v.directItems? = some items := by
  cases v with
  | list _ items => exact ⟨rfl, items, rfl⟩
  | nilOf type =>
    cases type with
    | list => exact ⟨rfl, [], rfl⟩
    | _ => cases common
  | _ => cases common

theorem seq_eq (v : Value) : seq v = v.items.map Handed.whole := by
  rw [seq, Value.items]
  cases v.isNull with
  | true => rfl
  | false =>
    cases v.isPrimitive with
    | true => rfl
    | false =>
      simp only [Bool.false_eq_true, if_false]
      split
      · rename_i common
        obtain ⟨target, items, direct⟩ := isCommonList_target common
        rw [target]
        dsimp only
        rw [direct, itemsIn_of_direct direct]
        rfl
      · rw [indirect_eq]
        cases v.target? with
        | none => rfl
        | some t =>
          have same := kindOf_sequence t
          change (if kindOf t = .sequence then _ else _) = _
          dsimp only
          cases direct : t.directItems? with
          | none =>
            rw [direct, Option.isSome_none, beq_eq_false_iff_ne] at same
            rw [if_neg same]
            rfl
          | some items =>
            rw [direct, Option.isSome_some, beq_iff_eq] at same
            rw [if_pos same, byIndex_eq, itemsIn_of_direct direct]
            rfl

/-! ### Objects -/

theorem kindOf_entries (v : Value) :
    (kindOf v == .record || kindOf v == .mapping) = v.directEntries?.isSome := by
  rw [← hasEntries_eq]
  cases v with
  | nilOf type => cases type <;> rfl
  | _ => rfl

theorem directEntries_of_kind {v : Value} (kind : kindOf v = .record ∨ kindOf v = .mapping) :
    v.directEntries? = some (entriesIn v) := by
  have some : v.directEntries?.isSome = true := by
    rw [← kindOf_entries]
    rcases kind with kind | kind <;> rw [kind] <;> rfl
  obtain ⟨es, direct⟩ := Option.isSome_iff_exists.mp some
  rw [entriesIn, direct, Option.getD_some]

theorem directEntries_none {v : Value} (noRecord : kindOf v ≠ .record)
    (noMapping : kindOf v ≠ .mapping) : v.directEntries? = none := by
  rw [← Option.not_isSome_iff_eq_none, ← kindOf_entries, Bool.or_eq_true, beq_iff_eq, beq_iff_eq]
  exact not_or_intro noRecord noMapping

theorem testsObject_eq (v : Value) : testsObject v = v.isObject := by
  rw [testsObject, isObject, indirect_eq]
  cases target : v.target? with
  | none => rw [Option.map_none, Option.any_none, Option.any_none, Bool.and_false, Bool.and_false]
  | some t =>
    rw [isNull_of_target? target, Bool.false_or, Option.any_some, hasEntries_eq, ← kindOf_entries]
    rfl

theorem isCommonMap_target {v : Value} (common : isCommonMap v = true) :
    v.entryTarget = .ok v ∧ kindOf v = .mapping := by
  cases v with
  | object => exact ⟨rfl, rfl⟩
  | nilOf type =>
    cases type with
    | map => exact ⟨rfl, rfl⟩
    | _ => cases common
  | _ => cases common

def leadsToMap (v : Value) : Bool :=
  match v.entryTarget with
  | .ok t => kindOf t == .mapping
  | .error _ => false

theorem leadsToMap_eq {v t : Value} (goes : v.entryTarget = .ok t) :
    leadsToMap v = (kindOf t == .mapping) := by
  rw [leadsToMap, goes]

/-- The map that references lead to, if they do, has each key once. -/
def KeysDistinct (v : Value) : Prop :=
  ∀ elem es, v.entryTarget = .ok (.object elem es) → (es.map Prod.fst).Nodup

theorem KeysDistinct.nodup {v : Value} (distinct : KeysDistinct v) (map : leadsToMap v = true)
    {es : List (String × Value)} (iterated : v.entries = .ok es) : (es.map Prod.fst).Nodup := by
  rw [Value.entries] at iterated
  split at iterated
  · cases iterated
  split at iterated
  · cases iterated
  cases goes : v.entryTarget with
  | error e =>
    rw [goes] at iterated
    cases iterated
  | ok t =>
    rw [goes] at iterated
    rw [leadsToMap_eq goes] at map
    cases t with
    | object elem es' =>
      cases iterated
      exact distinct elem _ goes
    | nilOf type =>
      cases type with
      | map =>
        cases iterated
        exact List.nodup_nil
      | _ => cases map
    | _ => cases map

theorem under_keys {es : List (String × Value)} (distinct : (es.map Prod.fst).Nodup) :
    under (es.map Prod.fst) es = es := by
  have found (e : String × Value) (member : e ∈ es) :
      ((fun k => (es.lookup k).map (k, ·)) ∘ Prod.fst) e = some e := by
    have here := (lookup_eq_some_iff distinct).mpr member
    rw [Function.comp_apply, here, Option.map_some]
  rw [under, List.filterMap_map, List.filterMap_congr found, List.filterMap_some]

theorem under_ascends {keys : List String} (increasing : keys.Pairwise (· < ·))
    (es : List (String × Value)) : KeysAscend (under keys es) := by
  refine List.pairwise_filterMap.mpr (increasing.imp fun {k l} below e first f second => ?_)
  obtain ⟨-, -, rfl⟩ := Option.map_eq_some_iff.mp first
  obtain ⟨-, -, rfl⟩ := Option.map_eq_some_iff.mp second
  exact below

section Maps

variable {order : List String → List String} (enumerates : ∀ keys, (order keys).Perm keys)
  {es : List (String × Value)}
include enumerates

theorem sortedKeys_perm (es : List (String × Value)) :
    (sortedKeys order es).Perm (es.map Prod.fst) :=
  (List.mergeSort_perm _ _).trans (enumerates _)

theorem sortedKeys_increase (distinct : (es.map Prod.fst).Nodup) :
    (sortedKeys order es).Pairwise (· < ·) := by
  have listed : ((order (es.map Prod.fst)).map id).Nodup := by
    rw [List.map_id]
    exact (enumerates _).nodup_iff.mpr distinct
  exact Utf8.mergeSort_increases id listed

theorem inspectedMap_eq (es : List (String × Value)) : inspectedMap order es = commonMap order es := by
  rw [inspectedMap, commonMap, (sortedKeys_perm enumerates es).length_eq, List.length_map]

theorem commonMap_perm (distinct : (es.map Prod.fst).Nodup) : (commonMap order es).yielded.Perm es := by
  have listed := (sortedKeys_perm enumerates es).filterMap fun k => (es.lookup k).map (k, ·)
  exact listed.trans (.of_eq (under_keys distinct))

theorem commonMap_ascends (distinct : (es.map Prod.fst).Nodup) :
    KeysAscend (commonMap order es).yielded :=
  under_ascends (sortedKeys_increase enumerates distinct) es

theorem seq2_eq (v : Value) :
    seq2 order v = v.entries.map fun es => if leadsToMap v then commonMap order es else .whole es := by
  rw [seq2, Value.entries]
  cases v.isNull with
  | true => rfl
  | false =>
    cases v.isPrimitive with
    | true => rfl
    | false =>
      simp only [Bool.false_eq_true, if_false]
      split
      · rename_i common
        obtain ⟨goes, mapping⟩ := isCommonMap_target common
        rw [leadsToMap_eq goes, mapping, goes, ok_bind, directEntries_of_kind (.inr mapping)]
        rfl
      · have goes := entryTarget_eq_pointed v
        cases reached : pointed ⟨false, v⟩ with
        | none =>
          rw [reached] at goes
          rw [goes]
          rfl
        | some p =>
          obtain ⟨isDynamic, t⟩ := p
          rw [reached] at goes
          cases isDynamic with
          | true =>
            -- the loop stopped at a place of every type, which is of no kind that has entries
            rw [goes]
            rfl
          | false =>
            change _ = Except.ok t at goes
            rw [leadsToMap_eq goes, goes, ok_bind]
            change (match kindOf t with | .mapping => _ | .record => _ | _ => _) = _
            cases kind : kindOf t with
            | mapping =>
              rw [directEntries_of_kind (.inr kind), inspectedMap_eq enumerates]
              rfl
            | record =>
              rw [directEntries_of_kind (.inl kind)]
              rfl
            | _ =>
              rw [directEntries_none (by rw [kind]; decide) (by rw [kind]; decide)]
              rfl

end Maps

theorem map_ok_iff {α β ε : Type} {x : Except ε α} {f : α → β} :
    (∃ b, x.map f = .ok b) ↔ ∃ a, x = .ok a := by
  cases x with
  | error => exact ⟨nofun, nofun⟩
  | ok a => exact ⟨fun _ => ⟨a, rfl⟩, fun _ => ⟨_, rfl⟩⟩

/-- The tests of the shape, which go through all references, hold for the values that can be iterated
over, except that iteration over entries stops at a place that holds values of every type. No value is
both an object and a list. As much is yielded as was reported: the items in their order, and the entries
in theirs, or by the bytes of their keys if they are those of a map, whatever the order is in which maps
list their keys. -/
theorem tests_agree {order : List String → List String} (enumerates : ∀ keys, (order keys).Perm keys)
    {v : Value} (distinct : KeysDistinct v) :
    (testsList v = v.isList ∧ testsObject v = v.isObject) ∧
      (v.isList = true ↔ ∃ s, seq v = .ok s) ∧
      (v.isObject = true ∧ v.throughAny = false ↔ ∃ s, seq2 order v = .ok s) ∧
      (v.throughAny = true → seq2 order v = .error (.notObject Ty.any.name)) ∧
      ¬(v.isObject = true ∧ v.isList = true) ∧
      (∀ s, seq v = .ok s → s.yielded.length = s.length ∧ v.items = .ok s.yielded) ∧
      ∀ s, seq2 order v = .ok s →
        s.yielded.length = s.length ∧
          (leadsToMap v = true → s.yielded.Pairwise fun e f => Utf8.encode e.1 < Utf8.encode f.1) ∧
          ∃ es, v.entries = .ok es ∧ s.yielded.Perm es ∧
            (leadsToMap v = false ∨ KeysAscend es → s.yielded = es) := by
  rw [seq_eq, seq2_eq enumerates, map_ok_iff, map_ok_iff]
  refine ⟨⟨testsList_eq v, testsObject_eq v⟩, isList_iff, entries_ok_iff.symm, fun any => ?_,
    fun ⟨first, second⟩ => ?_, fun s handed => ?_, fun s handed => ?_⟩
  · rw [entries_throughAny any]
    rfl
  · rw [not_isList_of_isObject first] at second
    cases second
  · obtain ⟨items, iterated, rfl⟩ := map_eq_ok.mp handed
    exact ⟨rfl, iterated⟩
  · obtain ⟨es, iterated, rfl⟩ := map_eq_ok.mp handed
    cases map : leadsToMap v with
    | true =>
      have keys := distinct.nodup map iterated
      have perm := commonMap_perm enumerates keys
      have ascends := commonMap_ascends enumerates keys
      rw [if_pos rfl]
      refine ⟨perm.length_eq, fun _ => ascends.imp Utf8.lt_iff_encode_lt.mp, es, iterated, perm, ?_⟩
      rintro (other | kept)
      · cases other
      · exact KeysAscend.eq_of_perm perm ascends kept
    | false => exact ⟨rfl, nofun, es, iterated, .refl es, fun _ => rfl⟩

/-- A map that is held by reference. -/
def heights : Value :=
  .ref (.map (.int .int)) (.object (.int .int) [("Hill", .ofInt 1), ("Alp", .ofInt 2)])

/-- A map that lists its keys backwards, and a list. -/
theorem tests_agree_heights :
    ((∀ keys : List String, keys.reverse.Perm keys) ∧ KeysDistinct heights ∧
      heights.isObject = true ∧ ∃ s, seq2 List.reverse heights = .ok s ∧ s.yielded.length = s.length ∧
        s.yielded.Pairwise fun e f => Utf8.encode e.1 < Utf8.encode f.1) ∧
      (KeysDistinct (.anyList [heights]) ∧ ∃ s, seq (.anyList [heights]) = .ok s ∧
        s.yielded.length = s.length) := by
  have backwards (keys : List String) : keys.reverse.Perm keys := List.reverse_perm keys
  have distinct : KeysDistinct heights := by
    intro elem es goes
    cases goes
    decide
  have distinct' : KeysDistinct (.anyList [heights]) := nofun
  obtain ⟨-, -, iterable, -, -, -, entries⟩ := tests_agree backwards distinct
  obtain ⟨-, iterable', -, -, -, items, -⟩ := tests_agree backwards distinct'
  obtain ⟨s, handed⟩ := iterable.mp ⟨rfl, rfl⟩
  obtain ⟨t, handed'⟩ := iterable'.mp rfl
  obtain ⟨same, increase, -⟩ := entries s handed
  exact ⟨⟨backwards, distinct, rfl, s, handed, same, increase rfl⟩, distinct', t, handed',
    (items t handed').1⟩

/-- An object in a place that holds values of every type passes the test, and cannot be iterated over. -/
theorem object_behind_any :
    (Value.ref .any (.object .any [])).isObject = true ∧
      (Value.ref .any (.object .any [])).entries = .error (.notObject "interface \x7b\x7d") :=
  ⟨rfl, rfl⟩

end FilterQuery.Iteration
