import FilterQuery.Query.Predicate

/-!
# Plain values

A plain value is built from null, booleans, texts, integers, floating point numbers other than NaN,
times, lists and objects. Comparing a plain value with any other value gives an answer: only values
without an order have none, and a plain value has no such part.
-/

namespace FilterQuery

namespace SortKey

mutual

/-- Whether no part of the key is without an order. -/
def isOrdered : SortKey → Bool
  | .unordered _ => false
  | .list items => areOrdered items
  | .object entries => entriesOrdered entries
  | _ => true

def areOrdered : List SortKey → Bool
  | [] => true
  | k :: ks => k.isOrdered && areOrdered ks

def entriesOrdered : List (String × SortKey) → Bool
  | [] => true
  | (_, k) :: es => k.isOrdered && entriesOrdered es

end

theorem entriesOrdered_iff {es : List (String × SortKey)} :
    entriesOrdered es = true ↔ ∀ e ∈ es, e.2.isOrdered := by
  induction es with
  | nil => simp [entriesOrdered]
  | cons e es ih => simp [entriesOrdered, ih]

mutual

theorem compare_total : ∀ (a b : SortKey), a.isOrdered → ∃ o, a.compare b = .ok o
  | .list as, b, h => by
    rw [isOrdered] at h
    cases b with
    | list bs => simpa [compare] using compareItems_total as bs h
    | _ => simp [compare]
  | .object as, b, h => by
    rw [isOrdered] at h
    cases b with
    | object bs =>
      obtain ⟨o, values⟩ := compareValues_total as bs h
      exact ⟨_, by rw [compare, values]; rfl⟩
    | _ => simp [compare]
  | .undefined, b, _ | .null, b, _ | .number _, b, _ | .text _, b, _ | .bool _, b, _
  | .time _, b, _ => by cases b <;> simp [compare]
  | .unordered _, _, h => by cases h

theorem compareItems_total : ∀ (as bs : List SortKey), areOrdered as → ∃ o, compareItems as bs = .ok o
  | [], [], _ => ⟨_, rfl⟩
  | [], _ :: _, _ => ⟨_, rfl⟩
  | _ :: _, [], _ => ⟨_, rfl⟩
  | a :: as, b :: bs, h => by
    rw [areOrdered, Bool.and_eq_true] at h
    obtain ⟨o, first⟩ := compare_total a b h.1
    rw [compareItems, first]
    cases o with
    | eq => exact compareItems_total as bs h.2
    | lt => exact ⟨_, rfl⟩
    | gt => exact ⟨_, rfl⟩

theorem compareValues_total : ∀ (as bs : List (String × SortKey)), entriesOrdered as →
    ∃ o, compareValues as bs = .ok o
  | [], [], _ => ⟨_, rfl⟩
  | [], _ :: _, _ => ⟨_, rfl⟩
  | _ :: _, [], _ => ⟨_, rfl⟩
  | (_, a) :: as, (_, b) :: bs, h => by
    rw [entriesOrdered, Bool.and_eq_true] at h
    obtain ⟨o, first⟩ := compare_total a b h.1
    rw [compareValues, first]
    cases o with
    | eq => exact compareValues_total as bs h.2
    | lt => exact ⟨_, rfl⟩
    | gt => exact ⟨_, rfl⟩

end

theorem lastValue_ordered (key : String) {fallback : SortKey} {es : List (String × SortKey)}
    (start : fallback.isOrdered) (all : ∀ e ∈ es, e.2.isOrdered) :
    (lastValue key fallback es).isOrdered := by
  induction es generalizing fallback with
  | nil => exact start
  | cons e es ih =>
    obtain ⟨k, v⟩ := e
    rw [lastValue]
    refine ih ?_ fun e member => all e (List.mem_cons_of_mem _ member)
    split
    · exact all (k, v) List.mem_cons_self
    · exact start

theorem ofEntries_ordered {es : List (String × SortKey)} (all : ∀ e ∈ es, e.2.isOrdered) :
    (ofEntries es).isOrdered := by
  rw [ofEntries, isOrdered, entriesOrdered_iff]
  -- of entries with the same key the last one counts, which is one of the entries as well
  intro e member
  obtain ⟨e, sorted, rfl⟩ := List.mem_map.mp member
  exact lastValue_ordered e.1 (all e (List.mem_mergeSort.mp sorted)) all

end SortKey

namespace Value

mutual

/-- Whether a value is built only from null, booleans, texts, integers, numbers other than NaN,
times, lists and maps. -/
def isPlain : Value → Bool
  | .null | .bool _ | .text _ | .rawText _ | .int _ | .time _ => true
  | .double x | .single x => !x.isNaN
  | .list .any items => arePlain items
  | .object .any es => entriesPlain es
  | .nilOf (.list .any) | .nilOf (.map .any) => true
  | _ => false

def arePlain : List Value → Bool
  | [] => true
  | v :: vs => v.isPlain && arePlain vs

def entriesPlain : List (String × Value) → Bool
  | [] => true
  | (_, v) :: es => v.isPlain && entriesPlain es

end

theorem arePlain_iff {vs : List Value} : arePlain vs = true ↔ ∀ v ∈ vs, v.isPlain := by
  induction vs with
  | nil => simp [arePlain]
  | cons v vs ih => simp [arePlain, ih]

theorem entriesPlain_iff {es : List (String × Value)} :
    entriesPlain es = true ↔ ∀ e ∈ es, e.2.isPlain := by
  induction es with
  | nil => simp [entriesPlain]
  | cons e es ih => simp [entriesPlain, ih]

theorem numberKey_ordered {x : Binary} (h : (!x.isNaN) = true) (name : String) :
    (numberKey (Extended.ofBinary? x) name).isOrdered := by
  cases x with
  | nan => cases h
  | infinite neg => rfl
  | finite neg m e => rfl

mutual

theorem keyOf_ordered : ∀ {v : Value}, v.isPlain → (v.keyOf true).isOrdered
  | .list .any items, h => by
    rw [isPlain] at h
    rw [keyOf, SortKey.isOrdered]
    exact keysOf_ordered h
  | .object .any es, h => by
    rw [isPlain] at h
    rw [keyOf]
    exact SortKey.ofEntries_ordered (SortKey.entriesOrdered_iff.mp (entryKeys_ordered h))
  | .double _, h => by
    rw [isPlain] at h
    exact numberKey_ordered h _
  | .single _, h => by
    rw [isPlain] at h
    exact numberKey_ordered h _
  | .null, _ | .bool _, _ | .text _, _ | .rawText _, _ | .int _, _ | .time _, _
  | .nilOf (.list .any), _ | .nilOf (.map .any), _ => rfl

theorem keysOf_ordered : ∀ {vs : List Value}, arePlain vs → SortKey.areOrdered (keysOf vs)
  | [], _ => rfl
  | v :: vs, h => by
    rw [arePlain, Bool.and_eq_true] at h
    rw [keysOf, SortKey.areOrdered, keyOf_ordered h.1, keysOf_ordered h.2]
    rfl

theorem entryKeys_ordered : ∀ {es : List (String × Value)}, entriesPlain es →
    SortKey.entriesOrdered (entryKeys es)
  | [], _ => rfl
  | (k, v) :: es, h => by
    rw [entriesPlain, Bool.and_eq_true] at h
    rw [entryKeys, SortKey.entriesOrdered, keyOf_ordered h.1, entryKeys_ordered h.2]
    rfl

end

theorem compare_plain {v : Value} (plain : v.isPlain) (w : Value) : ∃ o, v.compare w = .ok o :=
  SortKey.compare_total v.sortKey w.sortKey (keyOf_ordered plain)

/-! ### Parts of plain values -/

theorem items_plain : ∀ {v : Value}, v.isPlain → ∀ x ∈ v.items.toOption.getD [], x.isPlain
  | .list .any items, h => by
    rw [isPlain] at h
    exact arePlain_iff.mp h
  | .object .any es, _ => by
    intro x member
    cases member
  | .null, _ | .bool _, _ | .text _, _ | .rawText _, _ | .int _, _ | .time _, _ | .double _, _
  | .single _, _ | .nilOf (.list .any), _ | .nilOf (.map .any), _ => by
    intro x member
    cases member

theorem entries_plain : ∀ {v : Value}, v.isPlain → ∀ e ∈ v.entries.toOption.getD [], e.2.isPlain
  | .object .any es, h => by
    rw [isPlain] at h
    exact entriesPlain_iff.mp h
  | .list .any items, _ => by
    intro e member
    cases member
  | .null, _ | .bool _, _ | .text _, _ | .rawText _, _ | .int _, _ | .time _, _ | .double _, _
  | .single _, _ | .nilOf (.list .any), _ | .nilOf (.map .any), _ => by
    intro e member
    cases member

theorem itemAt?_plain {v w : Value} (plain : v.isPlain) {i : Int} (h : v.itemAt? i = some w) :
    w.isPlain := by
  cases i with
  | ofNat n => exact items_plain plain w (List.mem_of_getElem? h)
  | negSucc n => cases h

theorem entryAt?_plain {v w : Value} (plain : v.isPlain) {key : String}
    (h : v.entryAt? key = some w) : w.isPlain := by
  obtain ⟨before, after, split, _⟩ := List.lookup_eq_some_iff.mp h
  refine entries_plain plain (key, w) ?_
  rw [split]
  exact List.mem_append_right before List.mem_cons_self

theorem flatten_plain {v : Value} (plain : v.isPlain) : ∀ x ∈ Predicate.flatten v, x.isPlain := by
  intro x member
  unfold Predicate.flatten at member
  split at member
  · exact items_plain plain x member
  · rwa [List.mem_singleton.mp member]

theorem numeric_plain {v : Value} (plain : v.isPlain) : (Predicate.numeric v).isPlain := by
  unfold Predicate.numeric
  split
  · split
    · split
      -- a text stands for a finite number only, never for NaN
      · rename_i x _ finite
        cases x with
        | finite neg m e => rfl
        | nan => cases finite
        | infinite neg => cases finite
      · exact plain
    · exact plain
  · exact plain

end Value

/-! ### Fields of plain values -/

namespace Reached

/-- Whether a path has led nowhere or to a plain value. -/
def isPlain (r : Reached) : Prop := ∀ v, r.value? = some v → v.isPlain

theorem ofOption_plain {v? : Option Value} (h : ∀ v, v? = some v → v.isPlain) :
    (ofOption v?).isPlain := by
  cases v? with
  | none => exact fun _ same => by cases same
  | some v => exact fun w same => h w same

theorem stepDirect_plain {v : Value} (plain : v.isPlain) (seg : Segment) :
    (v.stepDirect seg).isPlain := by
  unfold Value.stepDirect
  split
  · exact fun _ same => by cases same
  split
  · refine ofOption_plain fun w found => ?_
    obtain ⟨i, _, found⟩ := Option.bind_eq_some_iff.mp found
    exact Value.itemAt?_plain plain found
  split
  · exact ofOption_plain fun w found => Value.entryAt?_plain plain found
  · exact fun _ same => by cases same

theorem step_plain {r : Reached} (plain : r.isPlain) (seg : Segment) :
    ∀ q ∈ (r.step seg).1, q.isPlain := by
  intro q member
  cases r with
  | nowhere =>
    rw [List.mem_singleton.mp member]
    exact plain
  | value v fresh =>
    have value := plain v rfl
    rw [step] at member
    split at member
    · obtain ⟨x, found, rfl⟩ := List.mem_map.mp member
      exact stepDirect_plain (Value.items_plain value x found) seg
    · rw [List.mem_singleton.mp member]
      exact stepDirect_plain value seg

theorem walk_plain {rs : List Reached} (plain : ∀ r ∈ rs, r.isPlain) (path : Path) :
    ∀ q ∈ (walk rs path).1, q.isPlain := by
  induction path generalizing rs with
  | nil => exact plain
  | cons seg path ih =>
    rw [walk]
    refine ih fun q member => ?_
    obtain ⟨_, mapped, member⟩ := List.mem_flatMap.mp member
    obtain ⟨r, found, rfl⟩ := List.mem_map.mp mapped
    exact step_plain (plain r found) seg q member

end Reached

theorem Value.fields_plain {v : Value} (plain : v.isPlain) (path : Path) {w : Value}
    (h : some w ∈ (v.fields path).1) : w.isPlain := by
  unfold fields at h
  split at h
  · simp at h
  · obtain ⟨q, member, same⟩ := List.mem_map.mp h
    refine Reached.walk_plain (fun r found => ?_) path q member w same
    rw [List.mem_singleton.mp found]
    intro _ same
    rwa [← Option.some.inj same]

end FilterQuery
