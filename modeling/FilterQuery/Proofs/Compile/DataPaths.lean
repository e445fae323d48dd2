import FilterQuery.Proofs.Compile.Calls
import FilterQuery.Proofs.Document.DataPath
import Mathlib.Data.List.Induction

/-!
# The fields below a key

`Node.dataPaths` are the paths of the fields that generators are called for below a key of a filter. If
the key names a field, they all begin with it.
-/

namespace FilterQuery

namespace Path

/-! ### Dotted keys -/

theorem splitDots_cons (c : Char) (cs : List Char) :
    splitDots (c :: cs) =
      match splitDots cs with
      | piece :: rest => if c = '.' then [] :: piece :: rest else (c :: piece) :: rest
      | [] => [[c]] :=
  rfl

theorem splitDots_plain {cs : List Char} (plain : '.' ∉ cs) : splitDots cs = [cs] := by
  induction cs with
  | nil => rfl
  | cons c cs ih =>
    rw [List.mem_cons, not_or] at plain
    rw [splitDots_cons, ih plain.2]
    exact if_neg (Ne.symm plain.1)

theorem splitDots_ne_nil (cs : List Char) : splitDots cs ≠ [] := by
  cases cs with
  | nil => exact List.cons_ne_nil _ _
  | cons c cs =>
    rw [splitDots_cons]
    split
    · split <;> exact List.cons_ne_nil _ _
    · exact List.cons_ne_nil _ _

theorem splitDots_dotted {cs : List Char} (dotted : '.' ∈ cs) :
    ∃ p q rest, splitDots cs = p :: q :: rest := by
  induction cs with
  | nil => cases dotted
  | cons c cs ih =>
    rw [splitDots_cons]
    by_cases dot : c = '.'
    · obtain ⟨piece, rest, parts⟩ := List.exists_cons_of_ne_nil (splitDots_ne_nil cs)
      rw [parts]
      exact ⟨[], piece, rest, if_pos dot⟩
    · obtain ⟨p, q, rest, parts⟩ := ih ((List.mem_cons.mp dotted).resolve_left (Ne.symm dot))
      rw [parts]
      exact ⟨c :: p, q, rest, if_neg dot⟩

theorem splitDots_append (cs ds : List Char) :
    splitDots (cs ++ '.' :: ds) = splitDots cs ++ splitDots ds := by
  induction cs with
  | nil =>
    obtain ⟨piece, rest, parts⟩ := List.exists_cons_of_ne_nil (splitDots_ne_nil ds)
    change splitDots ('.' :: ds) = [] :: splitDots ds
    rw [splitDots_cons, parts]
    exact if_pos rfl
  | cons c cs ih =>
    obtain ⟨piece, rest, parts⟩ := List.exists_cons_of_ne_nil (splitDots_ne_nil cs)
    rw [List.cons_append, splitDots_cons, ih, splitDots_cons, parts]
    by_cases dot : c = '.' <;> simp [dot]

theorem ofDotted_plain {key : String} (nonempty : key ≠ "") (plain : '.' ∉ key.toList) :
    ofDotted key = [.key key] := by
  have filled : key.isEmpty = false := by simpa using nonempty
  simp [ofDotted, filled, splitDots_plain plain]

theorem ofDotted_dotted {key : String} (dotted : '.' ∈ key.toList) :
    ∃ a b rest, ofDotted key = .key a :: .key b :: rest := by
  have filled : key.isEmpty = false := by
    cases empty : key.isEmpty with
    | false => rfl
    | true =>
      rw [String.isEmpty_iff.mp empty] at dotted
      cases dotted
  obtain ⟨p, q, rest, parts⟩ := splitDots_dotted dotted
  exact ⟨_, _, _, by rw [ofDotted, filled, if_neg Bool.false_ne_true, parts]; rfl⟩

end Path

theorem Path.data_extends (p q : Path) : p.data <+: data (p ++ q) := by
  induction q using List.reverseRecOn with
  | nil => exact ⟨[], by rw [List.append_nil, List.append_nil]⟩
  | append_singleton q seg ih =>
    rw [← List.append_assoc, data_append]
    exact ih.trans (List.prefix_append _ _)

namespace Node

theorem postorderItems_extends {ns : List Node} {path : Path}
    (each : ∀ n ∈ ns, ∀ path, ∀ site ∈ n.postorderAt path, path <+: site.path) (i : Nat) :
    ∀ site ∈ postorderItems path i ns, path <+: site.path := by
  induction ns generalizing i with
  | nil => exact List.forall_mem_nil _
  | cons n ns ih =>
    obtain ⟨first, rest⟩ := List.forall_mem_cons.mp each
    rw [postorderItems_cons, List.forall_mem_append]
    exact ⟨fun site member => (List.prefix_append _ _).trans (first _ site member), ih rest (i + 1)⟩

theorem postorderEntries_extends {es : List (String × Node)} {path : Path}
    (each : ∀ e ∈ es, ∀ path, ∀ site ∈ e.2.postorderAt path, path <+: site.path) :
    ∀ site ∈ postorderEntries path es, path <+: site.path := by
  induction es with
  | nil => exact List.forall_mem_nil _
  | cons e es ih =>
    obtain ⟨first, rest⟩ := List.forall_mem_cons.mp each
    rw [postorderEntries_cons, List.forall_mem_append]
    exact ⟨fun site member => (List.prefix_append _ _).trans (first _ site member), ih rest⟩

theorem postorderAt_extends (n : Node) (path : Path) :
    ∀ site ∈ n.postorderAt path, path <+: site.path := by
  induction n using Node.induct generalizing path with
  | scalar v => exact List.forall_mem_singleton.mpr (List.prefix_refl _)
  | sequence ns ih =>
    rw [postorderAt_eq, List.forall_mem_append]
    exact ⟨postorderItems_extends ih 0, List.forall_mem_singleton.mpr (List.prefix_refl _)⟩
  | mapping es ih =>
    rw [postorderAt_eq, List.forall_mem_append]
    exact ⟨postorderEntries_extends ih, List.forall_mem_singleton.mpr (List.prefix_refl _)⟩

/-- The data paths of the nodes that a generator is called for, at and below a path. -/
def dataPathsAt (path : Path) (n : Node) : List Path :=
  ((n.postorderAt path).filter Site.isCalled).map (·.path.data)

def dataPaths (key : String) (n : Node) : List Path := n.dataPathsAt [.key key]

/-- The paths of fields below a field begin with it. -/
theorem dataPaths_below {key : String} (isField : Compiler.isCommand key = false) (n : Node) :
    ∀ P ∈ n.dataPaths key, ∃ below, P = .key key :: below := by
  intro P member
  obtain ⟨site, there, rfl⟩ := List.mem_map.mp member
  obtain ⟨rest, path⟩ := n.postorderAt_extends _ _ (List.mem_filter.mp there).1
  obtain ⟨below, data⟩ := Path.data_extends [.key key] rest
  refine ⟨below, ?_⟩
  have alone : Path.data [.key key] = [.key key] :=
    Path.data_append_field [] (Operator.ofName?_of_field isField)
  rw [← path, ← data, alone]
  rfl

end Node

end FilterQuery
