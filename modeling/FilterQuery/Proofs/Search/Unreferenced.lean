import FilterQuery.Proofs.Search.References

/-!
# Parameters without a reference

A disjunction with an alternative that holds for the sake of its form is left out of the text, when the
operands of its other alternatives have been bound already. Their parameters stay, and they are the only
ones that the text has no reference to (`compile_unreferenced`).
-/

namespace FilterQuery.Search

namespace Expr

variable {α β : Type}

mutual

/-- The atoms that are not kept: those of disjunctions that hold for the sake of their form. -/
def dropped : Expr α → List α
  | .all es => droppedEach es
  | .any es => if (Expr.any es).vacuous then atomsEach es else droppedEach es
  | .not e => e.dropped
  | .atom _ => []

def droppedEach : List (Expr α) → List α
  | [] => []
  | e :: es => e.dropped ++ droppedEach es

end

mutual

theorem dropped_map (f : α → β) : ∀ e : Expr α, (e.map f).dropped = e.dropped.map f
  | .all es => by rw [map, dropped, dropped, droppedEach_map f es]
  | .any es => by
    have form := vacuous_map f (.any es)
    rw [map] at form
    rw [map, dropped, dropped, form, droppedEach_map f es, atomsEach_map f es, apply_ite (List.map f)]
  | .not e => by rw [map, dropped, dropped, dropped_map f e]
  | .atom _ => rfl

theorem droppedEach_map (f : α → β) :
    ∀ es : List (Expr α), droppedEach (mapEach f es) = (droppedEach es).map f
  | [] => rfl
  | e :: es => by
    rw [mapEach, droppedEach, droppedEach, dropped_map f e, droppedEach_map f es, List.map_append]

end

mutual

theorem kept_dropped_perm : ∀ e : Expr α, (e.kept ++ e.dropped).Perm e.atoms
  | .all es => keptEach_droppedEach_perm es
  | .any es => by
    rw [kept, dropped, atoms]
    split
    · exact .refl _
    · exact keptEach_droppedEach_perm es
  | .not e => kept_dropped_perm e
  | .atom _ => .refl _

theorem keptEach_droppedEach_perm :
    ∀ es : List (Expr α), (keptEach es ++ droppedEach es).Perm (atomsEach es)
  | [] => .refl _
  | e :: es => by
    have parts := (kept_dropped_perm e).append (keptEach_droppedEach_perm es)
    rw [keptEach, droppedEach, atomsEach]
    refine List.Perm.trans ?_ parts
    simp only [List.append_assoc]
    refine List.Perm.append_left _ ?_
    rw [← List.append_assoc, ← List.append_assoc]
    exact List.perm_append_comm.append_right _

end

section Filter

variable {f : β → Bool} {values : α → List β}

mutual

theorem filter_atoms : ∀ e : Expr α, (∀ v ∈ e.kept.flatMap values, f v = false) →
    (∀ v ∈ e.dropped.flatMap values, f v) →
      (e.atoms.flatMap values).filter f = e.dropped.flatMap values
  | .all es, out, inside => filter_atomsEach es out inside
  | .any es, out, inside => by
    rw [kept] at out
    rw [dropped] at inside ⊢
    rw [atoms]
    by_cases form : (Expr.any es).vacuous
    · rw [if_pos form] at inside ⊢
      exact List.filter_eq_self.mpr inside
    · rw [if_neg form] at out inside ⊢
      exact filter_atomsEach es out inside
  | .not e, out, inside => filter_atoms e out inside
  | .atom a, out, _ => by
    rw [dropped, List.flatMap_nil, List.filter_eq_nil_iff]
    intro v member
    rw [out v member]
    exact Bool.false_ne_true

theorem filter_atomsEach : ∀ es : List (Expr α), (∀ v ∈ (keptEach es).flatMap values, f v = false) →
    (∀ v ∈ (droppedEach es).flatMap values, f v) →
      ((atomsEach es).flatMap values).filter f = (droppedEach es).flatMap values
  | [], _, _ => rfl
  | e :: es, out, inside => by
    rw [keptEach, List.flatMap_append, List.forall_mem_append] at out
    rw [droppedEach, List.flatMap_append, List.forall_mem_append] at inside
    rw [atomsEach, droppedEach, List.flatMap_append, List.flatMap_append, List.filter_append,
      filter_atoms e out.1 inside.1, filter_atomsEach es out.2 inside.2]

end

end Filter

end Expr

/-- The names that a text has references to. -/
def referenced (s : String) : List String := (owned "" (lex s.toList)).map Prod.snd

theorem Says.mem_referenced {c : Clause} {t : Expr (Atom Param)} (clause : Says c t)
    (valid : Valid (params t)) {name : String} :
    name ∈ referenced c.text ↔ name ∈ (t.kept.flatMap (·.test.values)).map Param.name := by
  rw [referenced, clause.owned_eq valid, List.map_map]
  simp only [List.mem_map, List.mem_flatMap, Function.comp_apply]
  constructor
  · rintro ⟨_, ⟨a, kept, inside⟩, rfl⟩
    obtain ⟨p, found, rfl⟩ := List.mem_map.mp inside
    exact ⟨p, ⟨a, kept, Test.mem_references.mp found⟩, rfl⟩
  · rintro ⟨p, ⟨a, kept, found⟩, rfl⟩
    exact ⟨(a.field, p), ⟨a, kept, List.mem_map_of_mem (Test.mem_references.mpr found)⟩, rfl⟩

theorem Valid.dropped_not_kept {t : Expr (Atom Param)} (valid : Valid (params t)) {p : Param}
    (dropped : p ∈ t.dropped.flatMap (·.test.values)) :
    p.name ∉ (t.kept.flatMap (·.test.values)).map Param.name := by
  have parts := (t.kept_dropped_perm.flatMap_right (·.test.values)).map Param.name
  have distinct := parts.nodup_iff.mpr valid.distinct
  rw [List.flatMap_append, List.map_append, List.nodup_append] at distinct
  intro kept
  exact distinct.2.2 _ kept _ (List.mem_map_of_mem dropped) rfl

/-- The parameters that the text of a filter has no reference to are those of the operands of
disjunctions that hold for the sake of their form, in their order. So all parameters are referenced if and
only if no such disjunction has an operand. -/
theorem compile_unreferenced {depth : Int} {q : Node} {r : Query}
    (compiled : (compiler.withDepth depth).compile q = .ok r) :
    (r.params.filter (·.name ∉ referenced r.text)).map Param.value =
        (filterExpr [] q).dropped.flatMap (·.test.values) ∧
      ((∀ p ∈ r.params, p.name ∈ referenced r.text) ↔
        (filterExpr [] q).dropped.flatMap (·.test.values) = []) := by
  obtain ⟨t, value, bound, valid, clause⟩ := compile_filterExpr compiled
  rw [bound] at valid
  have unreferenced : r.params.filter (·.name ∉ referenced r.text) =
      t.dropped.flatMap (·.test.values) := by
    rw [bound]
    refine t.filter_atoms (fun p kept => ?_) fun p dropped => ?_
    · exact decide_eq_false fun other => other
        ((clause.mem_referenced valid).mpr (List.mem_map_of_mem kept))
    · exact decide_eq_true fun member =>
        valid.dropped_not_kept dropped ((clause.mem_referenced valid).mp member)
  have values : (r.params.filter (·.name ∉ referenced r.text)).map Param.value =
      (filterExpr [] q).dropped.flatMap (·.test.values) := by
    rw [unreferenced, ← value, Expr.dropped_map, List.map_flatMap, List.flatMap_map]
    simp only [Atom.map, Test.values_map]
  refine ⟨values, ?_⟩
  rw [← values, List.map_eq_nil_iff, List.filter_eq_nil_iff]
  simp only [decide_eq_true_eq, not_not]

/-- An alternative that everything matches stands beside one that has an operand. -/
theorem compile_unreferenced_alternative :
    let yes := Node.scalar (.bool true)
    let q := Node.mapping [("$or", .sequence [.mapping [], .mapping [("a", yes)]]), ("b", yes)]
    ∃ r, (compiler.withDepth 1).compile q = .ok r ∧
      (r.params.filter (·.name ∉ referenced r.text)).map Param.value = [Utf8.encode "true"] := by
  intro yes q
  obtain ⟨r, compiled⟩ : ∃ r, (compiler.withDepth 1).compile q = .ok r := ⟨_, rfl⟩
  exact ⟨r, compiled, (compile_unreferenced compiled).1⟩

/-- The text is `@b:{$b}`, and there is a parameter with the name `a`. -/
theorem compile_bound_in_vain :
    let yes := Node.scalar (.bool true)
    let q := Node.mapping [("$or", .sequence [.mapping [], .mapping [("a", yes)]]), ("b", yes)]
    ∃ r, (compiler.withDepth 1).compile q = .ok r ∧ ∃ p ∈ r.params, p.name ∉ referenced r.text := by
  refine ⟨⟨.field "b" (.tag "b"), [⟨"a", Utf8.encode "true"⟩, ⟨"b", Utf8.encode "true"⟩]⟩, rfl, _,
    List.mem_cons_self, ?_⟩
  decide +kernel

end FilterQuery.Search
