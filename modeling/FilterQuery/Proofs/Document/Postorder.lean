import FilterQuery.Proofs.Document.Fold

/-!
# Nodes in post-order

`Node.postorder` lists the nodes of a document with their paths, children before their parent and in
document order. `Node.induct` is the induction over documents that proofs about folds use.
-/

namespace FilterQuery

/-- A node and where it stands. -/
structure Site where
  path : Path
  node : Node

namespace Node

theorem induct {motive : Node → Prop} (scalar : ∀ v, motive (.scalar v))
    (sequence : ∀ ns, (∀ n ∈ ns, motive n) → motive (.sequence ns))
    (mapping : ∀ es, (∀ e ∈ es, motive e.2) → motive (.mapping es)) : ∀ n, motive n
  | .scalar v => scalar v
  | .sequence ns => sequence ns fun n member =>
    have _smaller := List.sizeOf_lt_of_mem member
    induct scalar sequence mapping n
  | .mapping es => mapping es fun (key, n) member =>
    have _smaller := List.sizeOf_lt_of_mem member
    induct scalar sequence mapping n
termination_by n => sizeOf n
decreasing_by
  · simp only [Node.sequence.sizeOf_spec]
    omega
  · simp only [Node.mapping.sizeOf_spec, Prod.mk.sizeOf_spec] at _smaller ⊢
    omega

/-! ### The enumeration -/

mutual

/-- The nodes below and at a path, children before their parent. -/
def postorderAt (path : Path) : Node → List Site
  | .scalar v => [⟨path, .scalar v⟩]
  | .sequence items => postorderItems path 0 items ++ [⟨path, .sequence items⟩]
  | .mapping entries => postorderEntries path entries ++ [⟨path, .mapping entries⟩]

def postorderItems (path : Path) (i : Nat) : List Node → List Site
  | [] => []
  | n :: ns => postorderAt (path ++ [.index i]) n ++ postorderItems path (i + 1) ns

def postorderEntries (path : Path) : List (String × Node) → List Site
  | [] => []
  | (key, n) :: es => postorderAt (path ++ [.key key]) n ++ postorderEntries path es

end

def postorder (n : Node) : List Site := postorderAt [] n

def postorderParts (path : Path) : Node → List Site
  | .scalar _ => []
  | .sequence items => postorderItems path 0 items
  | .mapping entries => postorderEntries path entries

@[simp] theorem postorderParts_scalar (path : Path) (v : Value) :
    postorderParts path (.scalar v) = [] :=
  rfl

@[simp] theorem postorderParts_sequence (path : Path) (ns : List Node) :
    postorderParts path (.sequence ns) = postorderItems path 0 ns :=
  rfl

@[simp] theorem postorderParts_mapping (path : Path) (es : List (String × Node)) :
    postorderParts path (.mapping es) = postorderEntries path es :=
  rfl

theorem postorderAt_eq (path : Path) (n : Node) :
    postorderAt path n = postorderParts path n ++ [⟨path, n⟩] := by
  cases n <;> rfl

theorem postorderItems_cons (path : Path) (i : Nat) (n : Node) (ns : List Node) :
    postorderItems path i (n :: ns) =
      postorderAt (path ++ [Segment.index i]) n ++ postorderItems path (i + 1) ns :=
  rfl

theorem postorderEntries_cons (path : Path) (e : String × Node) (es : List (String × Node)) :
    postorderEntries path (e :: es) =
      postorderAt (path ++ [Segment.key e.1]) e.2 ++ postorderEntries path es :=
  rfl

end Node

end FilterQuery
