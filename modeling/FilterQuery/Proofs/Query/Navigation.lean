import FilterQuery.Proofs.Value.Shape
import FilterQuery.Query.Fields

/-!
# Paths one after the other

What a path finds behind a value does not depend on how the value was reached (`fieldsBehind_eq`): a step
leads nowhere or to a value that may be expanded again, so nothing but the value is carried from one
segment to the next. Hence a path can be gone along in two parts, and only expansions give more than one
value.
-/

namespace FilterQuery

namespace Reached

/-- Whether nothing hinders the next segment: a list that was reached may be expanded. -/
def isFresh : Reached → Bool
  | .nowhere => true
  | .value _ fresh => fresh

theorem ofOption_fresh (v? : Option Value) : (ofOption v?).isFresh = true := by
  cases v? <;> rfl

theorem stepDirect_fresh (seg : Segment) (v : Value) : (v.stepDirect seg).isFresh = true := by
  unfold Value.stepDirect
  split
  · rfl
  split
  · exact ofOption_fresh _
  split
  · exact ofOption_fresh _
  · rfl

/-- The items of an expanded list are not expanded, but what is found in them may be. -/
theorem step_fresh (seg : Segment) (r : Reached) : ∀ q ∈ (r.step seg).1, q.isFresh = true := by
  intro q member
  cases r with
  | nowhere =>
    rw [List.mem_singleton.mp member]
    rfl
  | value v fresh =>
    rw [step] at member
    split at member
    · obtain ⟨item, _, rfl⟩ := List.mem_map.mp member
      exact stepDirect_fresh seg item
    · rw [List.mem_singleton.mp member]
      exact stepDirect_fresh seg v

theorem step_unexpanded {seg : Segment} {r : Reached} (unexpanded : (r.step seg).2 = false) :
    ∃ q, (r.step seg).1 = [q] := by
  cases r with
  | nowhere => exact ⟨_, rfl⟩
  | value v fresh =>
    rw [step] at unexpanded ⊢
    split at unexpanded
    · cases unexpanded
    · rename_i direct
      rw [if_neg direct]
      exact ⟨_, rfl⟩

/-! ### Walks -/

theorem walk_cons (rs : List Reached) (seg : Segment) (path : Path) :
    walk rs (seg :: path) =
      ((walk (rs.flatMap fun r => (r.step seg).1) path).1,
        (rs.any fun r => (r.step seg).2) || (walk (rs.flatMap fun r => (r.step seg).1) path).2) := by
  rw [walk, List.flatMap_map, List.any_map]
  rfl

theorem walk_single (r : Reached) (seg : Segment) (path : Path) :
    walk [r] (seg :: path) =
      ((walk (r.step seg).1 path).1, (r.step seg).2 || (walk (r.step seg).1 path).2) := by
  rw [walk_cons, List.flatMap_singleton, List.any_cons, List.any_nil, Bool.or_false]

theorem walk_nil (path : Path) : walk [] path = ([], false) := by
  induction path with
  | nil => rfl
  | cons seg path ih =>
    rw [walk_cons]
    exact congrArg (fun w => (w.1, false || w.2)) ih

theorem walk_places (rs rs' : List Reached) (path : Path) :
    walk (rs ++ rs') path =
      ((walk rs path).1 ++ (walk rs' path).1, (walk rs path).2 || (walk rs' path).2) := by
  induction path generalizing rs rs' with
  | nil => rfl
  | cons seg path ih =>
    rw [walk_cons, walk_cons, walk_cons, List.flatMap_append, List.any_append, ih]
    simp only [Bool.or_assoc, Bool.or_left_comm]

theorem walk_each (rs : List Reached) (path : Path) :
    walk rs path = ((rs.map fun r => walk [r] path).flatMap (·.1),
      (rs.map fun r => walk [r] path).any (·.2)) := by
  induction rs with
  | nil => exact walk_nil path
  | cons r rs ih =>
    have first : walk (r :: rs) path = _ := walk_places [r] rs path
    rw [first, ih]
    rfl

theorem walk_fresh {rs : List Reached} {path : Path} (nonempty : path ≠ []) :
    ∀ q ∈ (walk rs path).1, q.isFresh = true := by
  induction path generalizing rs with
  | nil => exact absurd rfl nonempty
  | cons seg path ih =>
    rw [walk_cons]
    cases path with
    | nil =>
      intro q member
      obtain ⟨r, _, member⟩ := List.mem_flatMap.mp member
      exact step_fresh seg r q member
    | cons next path => exact ih (List.cons_ne_nil next path)

theorem walk_append (rs : List Reached) (p q : Path) :
    walk rs (p ++ q) = ((walk (walk rs p).1 q).1, (walk rs p).2 || (walk (walk rs p).1 q).2) := by
  induction p generalizing rs with
  | nil => simp [walk]
  | cons seg p ih => rw [List.cons_append, walk_cons, walk_cons, ih, Bool.or_assoc]

theorem walk_nowhere (path : Path) : walk [.nowhere] path = ([.nowhere], false) := by
  induction path with
  | nil => rfl
  | cons seg path ih =>
    rw [walk_single]
    exact congrArg (fun w => (w.1, false || w.2)) ih

theorem walk_unexpanded {r : Reached} {path : Path} (unexpanded : (walk [r] path).2 = false) :
    ∃ q, (walk [r] path).1 = [q] := by
  induction path generalizing r with
  | nil => exact ⟨r, rfl⟩
  | cons seg path ih =>
    rw [walk_single, Bool.or_eq_false_iff] at unexpanded
    obtain ⟨q, next⟩ := step_unexpanded unexpanded.1
    rw [walk_single, next]
    rw [next] at unexpanded
    exact ih unexpanded.2

end Reached

namespace Value

/-! ### Values behind values -/

/-- What a path finds behind a value that was found, or was not: nothing is behind null. -/
def fieldsBehind (path : Path) : Option Value → List (Option Value) × Bool
  | none => ([none], false)
  | some v => if v.isNull then ([none], false) else v.fields path

theorem fields_eq {v : Value} {path : Path} (present : v.isNull = false) (nonempty : path ≠ []) :
    v.fields path = ((Reached.walk [.value v true] path).1.map Reached.value?,
      (Reached.walk [.value v true] path).2) := by
  have direct : ¬(v.isNull || path.isEmpty) = true := by
    rw [present, Bool.false_or, List.isEmpty_iff]
    exact nonempty
  rw [fields, if_neg direct]

theorem step_null (seg : Segment) (fresh : Bool) :
    (Reached.value .null fresh).step seg = ([.nowhere], false) := by
  cases fresh <;> rfl

theorem fieldsBehind_eq {r : Reached} (fresh : r.isFresh = true) {path : Path} (nonempty : path ≠ []) :
    fieldsBehind path r.value? = ((Reached.walk [r] path).1.map Reached.value?,
      (Reached.walk [r] path).2) := by
  obtain ⟨seg, path, rfl⟩ := List.exists_cons_of_ne_nil nonempty
  cases r with
  | nowhere => rw [Reached.walk_nowhere]; rfl
  | value v isFresh =>
    obtain rfl : isFresh = true := fresh
    cases null : v.isNull with
    | false =>
      rw [← fields_eq null nonempty]
      exact if_neg (by rw [null]; decide)
    | true =>
      rw [isNull_eq null, Reached.walk_single, step_null, Reached.walk_nowhere]
      rfl

/-- A path in two parts: what the second one finds behind each value that the first one found. -/
theorem fields_append {v : Value} {p q : Path} (present : v.isNull = false) (hp : p ≠ [])
    (hq : q ≠ []) :
    v.fields (p ++ q) =
      (((v.fields p).1.map (fieldsBehind q)).flatMap (·.1),
        (v.fields p).2 || ((v.fields p).1.map (fieldsBehind q)).any (·.2)) := by
  have behind : ((Reached.walk [.value v true] p).1.map Reached.value?).map (fieldsBehind q) =
      (Reached.walk [.value v true] p).1.map fun r =>
        ((Reached.walk [r] q).1.map Reached.value?, (Reached.walk [r] q).2) := by
    rw [List.map_map]
    exact List.map_congr_left fun r found => fieldsBehind_eq (Reached.walk_fresh hp r found) hq
  rw [fields_eq present (List.append_ne_nil_of_left_ne_nil hp q), fields_eq present hp,
    Reached.walk_append, Reached.walk_each _ q, behind, List.map_flatMap, List.flatMap_map,
    List.flatMap_map, List.flatMap_map, List.any_map, List.any_map]
  rfl

theorem fields_unexpanded {v : Value} {path : Path} (unexpanded : (v.fields path).2 = false) :
    ∃ g, (v.fields path).1 = [g] := by
  unfold fields at unexpanded ⊢
  split at unexpanded
  · rename_i absent
    rw [if_pos absent]
    exact ⟨none, rfl⟩
  · rename_i present
    obtain ⟨q, single⟩ := Reached.walk_unexpanded unexpanded
    rw [if_neg present]
    dsimp only
    rw [single]
    exact ⟨q.value?, rfl⟩

/-! ### Keys applied to lists -/

theorem isNull_of_isList {v : Value} (list : v.isList = true) : v.isNull = false := by
  rw [← Bool.not_eq_true]
  intro null
  rw [isNull_eq null] at list
  cases list

theorem fields_list {v : Value} (list : v.isList = true) {seg : Segment}
    (noPosition : seg.position? = none) :
    ∃ items, v.items = .ok items ∧
      v.fields [seg] = (items.map fun item => (item.stepDirect seg).value?, true) := by
  obtain ⟨items, found⟩ := isList_iff.mp list
  have expands : (true && v.expandsUnder seg) = true := by
    rw [expandsUnder, list, noPosition]
    rfl
  refine ⟨items, found, ?_⟩
  rw [fields_eq (isNull_of_isList list) (List.cons_ne_nil seg []), Reached.walk_single, Reached.step,
    if_pos expands, found, Reached.walk]
  exact congrArg (·, true) List.map_map

/-- Field lookup composes: behind each value that the first part of a path finds, the second part finds
what it finds from there, and nothing behind null or behind a value that is not there. There is an
expansion if there is one anywhere; without one there is one value, and a key that is no position gives
one value for each item of a list. -/
theorem fields_compose :
    (∀ (v : Value) (p q : Path), v.isNull = false → p ≠ [] → q ≠ [] →
      v.fields (p ++ q) =
        (((v.fields p).1.map (fieldsBehind q)).flatMap (·.1),
          (v.fields p).2 || ((v.fields p).1.map (fieldsBehind q)).any (·.2))) ∧
      (∀ (v : Value) (path : Path), (v.fields path).2 = false → (v.fields path).1.length = 1) ∧
      ∀ (v : Value) (seg : Segment), v.isList = true → seg.position? = none →
        ∃ items, v.items = .ok items ∧ (v.fields [seg]).1.length = items.length ∧
          (v.fields [seg]).2 = true := by
  refine ⟨fun v p q present hp hq => fields_append present hp hq, fun v path unexpanded => ?_,
    fun v seg list noPosition => ?_⟩
  · obtain ⟨g, single⟩ := fields_unexpanded unexpanded
    rw [single]
    rfl
  · obtain ⟨items, found, looked⟩ := fields_list list noPosition
    refine ⟨items, found, ?_, ?_⟩
    · rw [looked, List.length_map]
    · rw [looked]

/-- A list of planets; the last one has no moons. -/
def planets : Value := .anyList [
  .anyObject [("moons", .anyList [.text "Moon"])],
  .anyObject [("moons", .anyList [.text "Phobos", .text "Deimos"])],
  .anyObject [("number", .ofInt 9)]]

def planetarySystem : Value := .anyObject [("planets", planets), ("star", .null)]

/-- The first moons of the planets, the star that is null, and the moons of each planet. -/
theorem fields_compose_planets :
    (planetarySystem.isNull = false ∧
      planetarySystem.fields ([.key "planets"] ++ [.key "moons", .key "0"]) =
        (((planetarySystem.fields [.key "planets"]).1.map
            (fieldsBehind [.key "moons", .key "0"])).flatMap (·.1),
          (planetarySystem.fields [.key "planets"]).2 ||
            ((planetarySystem.fields [.key "planets"]).1.map
              (fieldsBehind [.key "moons", .key "0"])).any (·.2)) ∧
      planetarySystem.fields ([.key "planets"] ++ [.key "moons", .key "0"]) =
        ([some (.text "Moon"), some (.text "Phobos"), none], true)) ∧
      ((planetarySystem.fields [.key "star", .key "name"]).2 = false ∧
        (planetarySystem.fields [.key "star", .key "name"]).1.length = 1) ∧
      planets.isList = true ∧ Segment.position? (.key "moons") = none ∧
        ∃ items, planets.items = .ok items ∧
          (planets.fields [.key "moons"]).1.length = items.length ∧
          (planets.fields [.key "moons"]).2 = true := by
  have nonempty (seg : Segment) (path : Path) : seg :: path ≠ [] := List.cons_ne_nil seg path
  refine ⟨⟨rfl, fields_compose.1 planetarySystem _ _ rfl (nonempty _ _) (nonempty _ _), rfl⟩,
    ⟨rfl, fields_compose.2.1 planetarySystem [.key "star", .key "name"] rfl⟩, rfl, rfl,
    fields_compose.2.2 planets (.key "moons") rfl rfl⟩

end Value

end FilterQuery
