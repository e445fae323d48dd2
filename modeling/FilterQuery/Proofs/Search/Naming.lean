import FilterQuery.Proofs.Compile.Generation
import FilterQuery.Proofs.Numeric.Digits
import FilterQuery.Proofs.Search.Expression
import Mathlib.Data.List.Nodup
import Mathlib.Data.List.Perm.Subperm

/-!
# Names of parameters

The names that a compilation gives to parameters are words, and no two of them are the same. The
search for a free name ends at the first candidate that is not in use, since there is one among as
many candidates as there are names and one more.
-/

namespace FilterQuery.Search

open Generation

/-! ### Fresh names -/

theorem candidate_injective (base : String) : Function.Injective (candidate base) := by
  -- the base itself is shorter than what a number is added to
  have longer : ∀ n : Nat, base ≠ base ++ "_" ++ toString n := by
    intro n same
    have lengths := congrArg String.length same
    simp only [String.length_append] at lengths
    have mark : "_".length = 1 := rfl
    omega
  intro i j same
  unfold candidate at same
  split at same
  · rename_i zero
    subst zero
    split at same
    · rename_i zero
      exact zero.symm
    · exact absurd same (longer j)
  · split at same
    · exact absurd same.symm (longer i)
    · exact append_toString_injective (base ++ "_") same

theorem exists_free (used : List String) (base : String) :
    ∃ n < used.length + 1, candidate base n ∉ used := by
  by_contra taken
  push Not at taken
  have distinct : ((List.range (used.length + 1)).map (candidate base)).Nodup :=
    List.nodup_range.map (candidate_injective base)
  have among : (List.range (used.length + 1)).map (candidate base) ⊆ used := by
    intro name member
    obtain ⟨n, below, rfl⟩ := List.mem_map.mp member
    exact taken n (List.mem_range.mp below)
  have count := (distinct.subperm among).length_le
  rw [List.length_map, List.length_range] at count
  omega

theorem freshName_first (used : List String) (base : String) :
    ∃ n, freshName used base = candidate base n ∧ candidate base n ∉ used ∧
      ∀ m < n, candidate base m ∈ used := by
  obtain ⟨n, below, free⟩ := exists_free used base
  have found : (((List.range (used.length + 1)).map (candidate base)).find?
      (!used.contains ·)).isSome := by
    rw [List.find?_isSome]
    exact ⟨candidate base n, List.mem_map_of_mem (List.mem_range.mpr below), by simpa using free⟩
  obtain ⟨name, found⟩ := Option.isSome_iff_exists.mp found
  have fresh : freshName used base = name := by rw [freshName, found, Option.getD_some]
  obtain ⟨unused, n, inside, here, before⟩ := List.find?_eq_some_iff_getElem.mp found
  rw [List.getElem_map, List.getElem_range] at here
  subst here
  refine ⟨n, fresh, by simpa using unused, fun m earlier => ?_⟩
  have taken := before m earlier
  rw [List.getElem_map, List.getElem_range] at taken
  simpa using taken

/-! ### Words -/

def IsName (name : String) : Prop := ∀ c ∈ name.toList, isWord c

theorem IsName.append {name other : String} (left : IsName name) (right : IsName other) :
    IsName (name ++ other) := by
  intro c member
  rw [String.toList_append, List.mem_append] at member
  exact member.elim (left c) (right c)

theorem isName_toString (n : Nat) : IsName (toString n) := by
  intro c member
  simp [isWord, Char.isAlphanum, isDigit_of_mem_toString member]

theorem isName_paramBase (field : String) : IsName (paramBase field) := by
  intro c member
  rw [paramBase, String.toList_ofList] at member
  obtain ⟨d, _, rfl⟩ := List.mem_map.mp member
  split
  · assumption
  · rfl

theorem isName_candidate {base : String} (word : IsName base) (n : Nat) :
    IsName (candidate base n) := by
  unfold candidate
  split
  · exact word
  · exact (word.append (by simp [IsName, isWord])).append (isName_toString n)

/-! ### Binding -/

/-- Parameters with words as names, no two of which are the same. -/
structure Valid (ps : Params) : Prop where
  distinct : (ps.map Param.name).Nodup
  words : ∀ p ∈ ps, IsName p.name

/-- From the parameters `s` on, the parameters `ps` are bound. -/
structure Binds (s ps u : Params) : Prop where
  eq : u = s ++ ps
  valid : Valid s → Valid u

theorem Binds.nothing (s : Params) : Binds s [] s := ⟨(List.append_nil s).symm, id⟩

theorem Binds.append {s t u ps qs : Params} (first : Binds s ps t) (rest : Binds t qs u) :
    Binds s (ps ++ qs) u where
  eq := by rw [rest.eq, first.eq, List.append_assoc]
  valid valid := rest.valid (first.valid valid)

variable {base : String} {s u : Params}

theorem yields_bindParam {value : List UInt8} {name : String} (word : IsName base)
    (h : Yields (bind base value) s name u) :
    ∃ p : Param, p.name = name ∧ p.value = value ∧ Binds s [p] u := by
  have outcome_eq : outcome (bind base value) s =
      (.ok (freshName (s.map Param.name) base),
        s ++ [⟨freshName (s.map Param.name) base, value⟩]) := rfl
  rw [Yields, outcome_eq, Prod.mk.injEq, Except.ok.injEq] at h
  obtain ⟨rfl, rfl⟩ := h
  refine ⟨⟨_, value⟩, rfl, rfl, rfl, fun valid => ?_⟩
  obtain ⟨n, fresh, unused, _⟩ := freshName_first (s.map Param.name) base
  rw [fresh]
  constructor
  · rw [List.map_append, List.nodup_append]
    refine ⟨valid.distinct, List.nodup_singleton _, ?_⟩
    rintro name member _ last rfl
    obtain rfl := List.mem_singleton.mp last
    exact unused member
  · intro p member
    rcases List.mem_append.mp member with earlier | last
    · exact valid.words p earlier
    · obtain rfl := List.mem_singleton.mp last
      exact isName_candidate word n

theorem yields_bound {α : Type} {make : String → α} {value : List UInt8} {a : α} (word : IsName base)
    (h : Yields (do return make (← bind base value)) s a u) :
    ∃ p : Param, make p.name = a ∧ p.value = value ∧ Binds s [p] u := by
  obtain ⟨name, _, bound, returned⟩ := yields_bind.mp h
  obtain ⟨rfl, rfl⟩ := yields_pure.mp returned
  obtain ⟨p, rfl, valued, binds⟩ := yields_bindParam word bound
  exact ⟨p, rfl, valued, binds⟩

theorem yields_bindWords {n : Nat} {words : List (List UInt8)} {names : List String}
    (word : IsName base) (h : Yields (bindWords base n words) s names u) :
    ∃ ps : List Param, ps.map Param.name = names ∧
      ps.map Param.value = words.filter (!·.isEmpty) ∧ Binds s ps u := by
  induction words generalizing n s names with
  | nil =>
    obtain ⟨rfl, rfl⟩ := yields_pure.mp h
    exact ⟨[], rfl, rfl, .nothing s⟩
  | cons first words ih =>
    rw [bindWords] at h
    split at h
    · rename_i empty
      obtain ⟨ps, named, valued, binds⟩ := ih h
      exact ⟨ps, named, by simpa [empty] using valued, binds⟩
    · rename_i nonempty
      obtain ⟨name, t, bound, afterName⟩ := yields_bind.mp h
      obtain ⟨p, rfl, rfl, binds⟩ := yields_bindParam (word.append (isName_toString n)) bound
      obtain ⟨names, _, rest, returned⟩ := yields_bind.mp afterName
      obtain ⟨rfl, rfl⟩ := yields_pure.mp returned
      obtain ⟨ps, rfl, valued, more⟩ := ih rest
      exact ⟨p :: ps, rfl, by simp [nonempty, valued], binds.append more⟩

theorem yields_bindParts {n : Nat} {parts : List (List UInt8)} {names : List (List String)}
    (word : IsName base) (h : Yields (bindParts base n parts) s names u) :
    ∃ pss : List (List Param), pss.map (List.map Param.name) = names ∧
      pss.map (List.map Param.value) = parts.map wordsOf ∧ Binds s pss.flatten u := by
  induction parts generalizing n s names with
  | nil =>
    obtain ⟨rfl, rfl⟩ := yields_pure.mp h
    exact ⟨[], rfl, rfl, .nothing s⟩
  | cons part parts ih =>
    obtain ⟨ps, t, valued, binds, afterPart⟩ : ∃ (ps : List Param) (t : Params),
        ps.map Param.value = wordsOf part ∧ Binds s ps t ∧
          Yields (do return ps.map Param.name :: (← bindParts base (n + 1) parts)) t names u := by
      rw [bindParts] at h
      split at h
      · rename_i empty
        obtain ⟨_, _, nothing, afterPart⟩ := yields_bind.mp h
        obtain ⟨rfl, rfl⟩ := yields_pure.mp nothing
        obtain rfl := List.isEmpty_iff.mp empty
        exact ⟨[], s, rfl, .nothing s, afterPart⟩
      · obtain ⟨_, t, bound, afterPart⟩ := yields_bind.mp h
        obtain ⟨ps, rfl, valued, binds⟩ := yields_bindWords (word.append (isName_toString n)) bound
        exact ⟨ps, t, valued, binds, afterPart⟩
    obtain ⟨rest, _, others, returned⟩ := yields_bind.mp afterPart
    obtain ⟨rfl, rfl⟩ := yields_pure.mp returned
    obtain ⟨pss, rfl, values, more⟩ := ih others
    exact ⟨ps :: pss, rfl, by simp [valued, values], binds.append more⟩

end FilterQuery.Search
