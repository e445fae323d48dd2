import FilterQuery.Document.Modifiers
import FilterQuery.Proofs.Results

/-!
# Addressed nodes

`Node.At` says which node stands at a path of a document. A key that occurs more than once addresses
each of its values. A violation locates a node of a document if its path addresses the node and its
value is the node; the violations of modifiers do, and what is left of a document without its modifiers
stands where it stood.
-/

namespace FilterQuery

/-- `Node.At n p m`: the path `p` leads from the document `n` to the node `m`. -/
inductive Node.At : Node → Path → Node → Prop
  | root {n : Node} : At n [] n
  | item {ns : List Node} {i : Nat} {n m : Node} {p : Path} (there : ns[i]? = some n)
    (rest : At n p m) : At (.sequence ns) (.index i :: p) m
  | entry {es : List (String × Node)} {key : String} {n m : Node} {p : Path} (there : (key, n) ∈ es)
    (rest : At n p m) : At (.mapping es) (.key key :: p) m

namespace Violation

/-- The violation locates a node of the document `n`, which itself stands at a path. -/
def Locates (v : Violation) (path : Path) (n : Node) : Prop :=
  ∃ p m, n.At p m ∧ v.path = path ++ p ∧ v.value = m.plain

theorem locates_ofNode (kind : ViolationKind) (n : Node) (path : Path) :
    (ofNode kind n path).Locates path n :=
  ⟨[], n, .root, (List.append_nil path).symm, rfl⟩

theorem Locates.item {v : Violation} {path : Path} {ns : List Node} {i : Nat} {n : Node}
    (there : ns[i]? = some n) (h : v.Locates (path ++ [Segment.index i]) n) :
    v.Locates path (.sequence ns) := by
  obtain ⟨p, m, place, same, value⟩ := h
  exact ⟨.index i :: p, m, .item there place, by rw [same, List.append_assoc]; rfl, value⟩

theorem Locates.entry {v : Violation} {path : Path} {es : List (String × Node)} {key : String}
    {n : Node} (there : (key, n) ∈ es) (h : v.Locates (path ++ [Segment.key key]) n) :
    v.Locates path (.mapping es) := by
  obtain ⟨p, m, place, same, value⟩ := h
  exact ⟨.key key :: p, m, .entry there place, by rw [same, List.append_assoc]; rfl, value⟩

end Violation

namespace Modifiers

variable {v : Violation} {path : Path}

theorem readCriteria_locates {es all : List (String × Node)} (part : es ⊆ all)
    (h : readCriteria path es = .error v) : v.Locates path (.mapping all) := by
  induction es with
  | nil => cases h
  | cons e es ih =>
    obtain ⟨key, n⟩ := e
    have here : (Violation.ofNode .unexpectedValue n (path ++ [Segment.key key])).Locates path
        (.mapping all) := .entry (part List.mem_cons_self) (Violation.locates_ofNode _ _ _)
    rw [readCriteria] at h
    split at h
    · split at h
      · cases rest : readCriteria path es with
        | ok criteria => rw [rest] at h; cases h
        | error e =>
          rw [rest] at h
          cases h
          exact ih (fun _ member => part (List.mem_cons_of_mem _ member)) rest
      · cases h
        exact here
    · cases h
      exact here

theorem readSort_locates {n : Node} (h : readSort path n = .error v) : v.Locates path n := by
  unfold readSort at h
  split at h
  · exact readCriteria_locates (List.Subset.refl _) h
  · cases h
    exact Violation.locates_ofNode _ _ _

theorem readCount_locates {n : Node} (h : readCount path n = .error v) : v.Locates path n := by
  unfold readCount at h
  split at h
  · split at h
    · cases h
    · cases h
      exact Violation.locates_ofNode _ _ _
  · cases h
    exact Violation.locates_ofNode _ _ _

theorem splitEntries_locates {es all : List (String × Node)} (part : es ⊆ all) {m : Modifiers}
    (h : splitEntries m es = .error v) : v.Locates [] (.mapping all) := by
  induction es generalizing m with
  | nil => cases h
  | cons e es ih =>
    obtain ⟨key, n⟩ := e
    have there : (key, n) ∈ all := part List.mem_cons_self
    have behind {m : Modifiers} (h : splitEntries m es = .error v) : v.Locates [] (.mapping all) :=
      ih (fun _ member => part (List.mem_cons_of_mem _ member)) h
    rw [splitEntries] at h
    split at h
    · rcases bind_eq_error.mp h with sort | ⟨_, _, rest⟩
      · exact .entry there (readSort_locates sort)
      · exact behind rest
    · split at h
      · rcases bind_eq_error.mp h with skip | ⟨_, _, rest⟩
        · exact .entry there (readCount_locates skip)
        · exact behind rest
      · split at h
        · rcases bind_eq_error.mp h with limit | ⟨_, _, rest⟩
          · exact .entry there (readCount_locates limit)
          · exact behind rest
        · rcases bind_eq_error.mp h with rest | ⟨_, _, returned⟩
          · exact behind rest
          · cases returned

theorem splitEntries_subset {es filter : List (String × Node)} {m m' : Modifiers}
    (h : splitEntries m es = .ok (filter, m')) : filter ⊆ es := by
  induction es generalizing m filter with
  | nil =>
    cases h
    exact List.Subset.refl _
  | cons e es ih =>
    obtain ⟨key, n⟩ := e
    have behind {m : Modifiers} (h : splitEntries m es = .ok (filter, m')) :
        filter ⊆ (key, n) :: es := fun _ member => List.mem_cons_of_mem _ (ih h member)
    rw [splitEntries] at h
    split at h
    · obtain ⟨_, _, rest⟩ := bind_eq_ok.mp h
      exact behind rest
    · split at h
      · obtain ⟨_, _, rest⟩ := bind_eq_ok.mp h
        exact behind rest
      · split at h
        · obtain ⟨_, _, rest⟩ := bind_eq_ok.mp h
          exact behind rest
        · obtain ⟨⟨kept, _⟩, rest, returned⟩ := bind_eq_ok.mp h
          cases returned
          exact List.cons_subset_cons _ (ih rest)

end Modifiers

end FilterQuery
