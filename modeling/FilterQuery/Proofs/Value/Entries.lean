import FilterQuery.Value.Basic

/-!
# Entries in key order

Sorting entries by their keys keeps the entries, as long as no key is given twice. Then a key also has
the same value wherever its entry stands (`lookup_perm`).
-/

namespace FilterQuery.Value

variable {α : Type}

theorem insertEntry_perm {key : String} (v : α) {es : List (String × α)}
    (new : key ∉ es.map Prod.fst) : (insertEntry key v es).Perm ((key, v) :: es) := by
  induction es with
  | nil => exact .refl _
  | cons e es ih =>
    obtain ⟨k, w⟩ := e
    rw [List.map_cons, List.mem_cons, not_or] at new
    rw [insertEntry]
    split
    · exact .refl _
    · rw [if_neg new.1]
      exact ((ih new.2).cons (k, w)).trans (.swap _ _ _)

theorem foldl_insertEntry_perm (es acc : List (String × α))
    (distinct : ((acc ++ es).map Prod.fst).Nodup) :
    (es.foldl (fun acc e => insertEntry e.1 e.2 acc) acc).Perm (acc ++ es) := by
  induction es generalizing acc with
  | nil => rw [List.append_nil]; exact .refl _
  | cons e es ih =>
    have middle : (acc ++ e :: es).Perm (e :: (acc ++ es)) := List.perm_middle
    have distinct' := distinct.perm (middle.map Prod.fst)
    rw [List.map_cons, List.nodup_cons, List.map_append, List.mem_append, not_or] at distinct'
    have inserted := insertEntry_perm e.2 distinct'.1.1
    have rest := ih (insertEntry e.1 e.2 acc)
      (((inserted.append_right es).trans middle.symm |>.map Prod.fst).symm.nodup distinct)
    exact rest.trans ((inserted.append_right es).trans middle.symm)

theorem sortEntries_perm {es : List (String × α)} (distinct : (es.map Prod.fst).Nodup) :
    (sortEntries es).Perm es :=
  foldl_insertEntry_perm es [] distinct

/-- The entries stand in key order, and no key is given twice. -/
def KeysAscend (es : List (String × α)) : Prop := es.Pairwise fun e f => e.1 < f.1

theorem mem_insertEntry {key : String} {v : α} {es : List (String × α)} {e : String × α}
    (h : e ∈ insertEntry key v es) : e = (key, v) ∨ e ∈ es := by
  induction es with
  | nil => exact .inl (List.mem_singleton.mp h)
  | cons f es ih =>
    obtain ⟨k, w⟩ := f
    rw [insertEntry] at h
    split at h
    · exact List.mem_cons.mp h
    · split at h
      · rename_i same
        subst same
        exact (List.mem_cons.mp h).imp id (List.mem_cons_of_mem _)
      · rcases List.mem_cons.mp h with rfl | rest
        · exact .inr List.mem_cons_self
        · exact (ih rest).imp id (List.mem_cons_of_mem _)

theorem insertEntry_ascends (key : String) (v : α) {es : List (String × α)} (h : KeysAscend es) :
    KeysAscend (insertEntry key v es) := by
  induction es with
  | nil => exact List.pairwise_singleton _ _
  | cons f es ih =>
    obtain ⟨k, w⟩ := f
    have ⟨first, rest⟩ := List.pairwise_cons.mp h
    rw [insertEntry]
    split
    · rename_i below
      refine List.pairwise_cons.mpr ⟨fun e member => ?_, h⟩
      rcases List.mem_cons.mp member with rfl | member
      · exact below
      · exact String.lt_trans below (first e member)
    · split
      · rename_i same
        subst same
        exact List.pairwise_cons.mpr ⟨first, rest⟩
      · rename_i notBelow other
        refine List.pairwise_cons.mpr ⟨fun e member => ?_, ih rest⟩
        rcases mem_insertEntry member with rfl | member
        · exact Std.lt_of_le_of_ne (String.not_lt.mp notBelow) fun same => other same.symm
        · exact first e member

theorem sortEntries_ascends (es : List (String × α)) : KeysAscend (sortEntries es) := by
  have sorted : ∀ acc : List (String × α), KeysAscend acc →
      KeysAscend (es.foldl (fun acc e => insertEntry e.1 e.2 acc) acc) := by
    induction es with
    | nil => exact fun acc h => h
    | cons e es ih => exact fun acc h => ih _ (insertEntry_ascends e.1 e.2 h)
  exact sorted [] List.Pairwise.nil

theorem KeysAscend.nodup {es : List (String × α)} (ascending : KeysAscend es) :
    (es.map Prod.fst).Nodup :=
  List.pairwise_map.mpr (ascending.imp fun below => Std.ne_of_lt below)

theorem KeysAscend.eq_of_perm {es fs : List (String × α)} (perm : es.Perm fs)
    (left : KeysAscend es) (right : KeysAscend fs) : es = fs :=
  perm.eq_of_pairwise (fun _ _ _ _ below above =>
    absurd (String.lt_trans below above) (String.lt_irrefl _)) left right

theorem sortEntries_ascending {es : List (String × α)} (ascending : KeysAscend es) :
    sortEntries es = es :=
  KeysAscend.eq_of_perm (sortEntries_perm ascending.nodup) (sortEntries_ascends es) ascending

theorem sortEntries_eq_of_perm {es fs : List (String × α)} (perm : es.Perm fs)
    (distinct : (es.map Prod.fst).Nodup) : sortEntries es = sortEntries fs := by
  have distinct' := (perm.map Prod.fst).nodup distinct
  exact KeysAscend.eq_of_perm
    ((sortEntries_perm distinct).trans (perm.trans (sortEntries_perm distinct').symm))
    (sortEntries_ascends es) (sortEntries_ascends fs)

/-! ### Looking up keys -/

theorem lookup_eq_some_iff {es : List (String × α)} (distinct : (es.map Prod.fst).Nodup) {key : String}
    {v : α} : es.lookup key = some v ↔ (key, v) ∈ es := by
  constructor
  · intro found
    obtain ⟨before, after, split, _⟩ := List.lookup_eq_some_iff.mp found
    rw [split]
    exact List.mem_append_right before List.mem_cons_self
  · intro member
    induction es with
    | nil => cases member
    | cons e es ih =>
      obtain ⟨k, w⟩ := e
      rw [List.map_cons, List.nodup_cons] at distinct
      rw [List.lookup_cons]
      rcases List.mem_cons.mp member with same | rest
      · cases same
        rw [beq_self_eq_true]
      · have other : (key == k) = false := by
          rw [beq_eq_false_iff_ne]
          rintro rfl
          exact distinct.1 (List.mem_map.mpr ⟨_, rest, rfl⟩)
        rw [other]
        exact ih distinct.2 rest

theorem lookup_perm {es fs : List (String × α)} (perm : es.Perm fs)
    (distinct : (es.map Prod.fst).Nodup) (key : String) : es.lookup key = fs.lookup key := by
  refine Option.ext fun v => ?_
  rw [lookup_eq_some_iff distinct, lookup_eq_some_iff ((perm.map Prod.fst).nodup distinct)]
  exact perm.mem_iff

theorem lookup_map {β : Type} (f : α → β) (es : List (String × α)) (key : String) :
    (es.map fun e => (e.1, f e.2)).lookup key = (es.lookup key).map f := by
  induction es with
  | nil => rfl
  | cons e es ih =>
    obtain ⟨k, v⟩ := e
    rw [List.map_cons, List.lookup_cons, List.lookup_cons]
    dsimp only
    cases key == k with
    | true => rfl
    | false => exact ih

end FilterQuery.Value
