import FilterQuery.Proofs.Document.Postorder

/-!
# Properties of all nodes

`Node.Everywhere P` says that a document and each of its parts have the property `P`.
-/

namespace FilterQuery.Node

variable {P : Node → Prop}

/-- The node has the property, and so has each node in it. -/
inductive Everywhere (P : Node → Prop) : Node → Prop
  | scalar {v : Value} (here : P (.scalar v)) : Everywhere P (.scalar v)
  | sequence {ns : List Node} (here : P (.sequence ns)) (each : ∀ n ∈ ns, Everywhere P n) :
    Everywhere P (.sequence ns)
  | mapping {es : List (String × Node)} (here : P (.mapping es)) (each : ∀ e ∈ es, Everywhere P e.2) :
    Everywhere P (.mapping es)

theorem Everywhere.here {n : Node} (h : Everywhere P n) : P n := by
  cases h with
  | scalar here => exact here
  | sequence here _ => exact here
  | mapping here _ => exact here

theorem everywhere_scalar {v : Value} : Everywhere P (.scalar v) ↔ P (.scalar v) :=
  ⟨Everywhere.here, .scalar⟩

theorem everywhere_sequence {ns : List Node} :
    Everywhere P (.sequence ns) ↔ P (.sequence ns) ∧ ∀ n ∈ ns, Everywhere P n :=
  ⟨fun | .sequence here each => ⟨here, each⟩, fun ⟨here, each⟩ => .sequence here each⟩

theorem everywhere_mapping {es : List (String × Node)} :
    Everywhere P (.mapping es) ↔ P (.mapping es) ∧ ∀ e ∈ es, Everywhere P e.2 :=
  ⟨fun | .mapping here each => ⟨here, each⟩, fun ⟨here, each⟩ => .mapping here each⟩

theorem Everywhere.imp {Q : Node → Prop} {n : Node} (h : Everywhere P n) (weaker : ∀ n, P n → Q n) :
    Everywhere Q n := by
  induction h with
  | scalar here => exact .scalar (weaker _ here)
  | sequence here _ ih => exact .sequence (weaker _ here) ih
  | mapping here _ ih => exact .mapping (weaker _ here) ih

def DistinctKeys : Node → Prop := Everywhere fun
  | .mapping es => (es.map Prod.fst).Nodup
  | _ => True

/-- Each scalar is read as itself when it is given as a plain value. -/
def PlainScalars : Node → Prop := Everywhere fun
  | .scalar v => ofValue v = .scalar v
  | _ => True

/-! ### Properties of nodes under their keys -/

/-- The key that leads to the last node of a path. -/
def lastKey? (path : Path) : Option String :=
  match path.getLast? with
  | some (.key key) => some key
  | _ => none

@[simp] theorem lastKey?_key (path : Path) (key : String) :
    lastKey? (path ++ [Segment.key key]) = some key := by
  simp [lastKey?]

@[simp] theorem lastKey?_index (path : Path) (i : Int) :
    lastKey? (path ++ [Segment.index i]) = none := by
  simp [lastKey?]

/-- Each part of the node has a property that also depends on the key of the part, if it has one. -/
def PartsHave (Q : Option String → Node → Prop) : Node → Prop
  | .scalar _ => True
  | .sequence ns => ∀ n ∈ ns, Q none n
  | .mapping es => ∀ e ∈ es, Q (some e.1) e.2

variable {Q : Option String → Node → Prop}

theorem forall_postorderItems {ns : List Node}
    (each : ∀ n ∈ ns, ∀ path, (∀ s ∈ n.postorderAt path, Q (lastKey? s.path) s.node) ↔
      Q (lastKey? path) n ∧ Everywhere (PartsHave Q) n) (path : Path) (i : Nat) :
    (∀ s ∈ postorderItems path i ns, Q (lastKey? s.path) s.node) ↔
      ∀ n ∈ ns, Q none n ∧ Everywhere (PartsHave Q) n := by
  induction ns generalizing i with
  | nil => simp [postorderItems]
  | cons n ns ih =>
    rw [postorderItems_cons, List.forall_mem_append, List.forall_mem_cons, each n List.mem_cons_self,
      ih (fun n member => each n (List.mem_cons_of_mem _ member)), lastKey?_index]

theorem forall_postorderEntries {es : List (String × Node)}
    (each : ∀ e ∈ es, ∀ path, (∀ s ∈ e.2.postorderAt path, Q (lastKey? s.path) s.node) ↔
      Q (lastKey? path) e.2 ∧ Everywhere (PartsHave Q) e.2) (path : Path) :
    (∀ s ∈ postorderEntries path es, Q (lastKey? s.path) s.node) ↔
      ∀ e ∈ es, Q (some e.1) e.2 ∧ Everywhere (PartsHave Q) e.2 := by
  induction es with
  | nil => simp [postorderEntries]
  | cons e es ih =>
    rw [postorderEntries_cons, List.forall_mem_append, List.forall_mem_cons, each e List.mem_cons_self,
      ih (fun e member => each e (List.mem_cons_of_mem _ member)), lastKey?_key]

theorem forall_postorderAt (n : Node) (path : Path) :
    (∀ s ∈ n.postorderAt path, Q (lastKey? s.path) s.node) ↔
      Q (lastKey? path) n ∧ Everywhere (PartsHave Q) n := by
  induction n using Node.induct generalizing path with
  | scalar v =>
    simp only [postorderAt, List.mem_singleton, forall_eq]
    exact (and_iff_left (.scalar trivial)).symm
  | sequence ns ih =>
    rw [postorderAt, List.forall_mem_append, forall_postorderItems ih path 0, everywhere_sequence]
    simp only [List.mem_singleton, forall_eq, forall_and, PartsHave]
    exact and_comm
  | mapping es ih =>
    rw [postorderAt, List.forall_mem_append, forall_postorderEntries ih path, everywhere_mapping]
    simp only [List.mem_singleton, forall_eq, forall_and, PartsHave]
    exact and_comm

/-! ### Plain values of the parts -/

theorem plainItems_eq_map (ns : List Node) : plainItems ns = ns.map plain := by
  induction ns with
  | nil => rfl
  | cons n ns ih => rw [plainItems, ih, List.map_cons]

theorem plainEntries_eq_map (es : List (String × Node)) :
    plainEntries es = es.map fun e => (e.1, e.2.plain) := by
  induction es with
  | nil => rfl
  | cons e es ih =>
    obtain ⟨k, n⟩ := e
    rw [plainEntries, ih, List.map_cons]

theorem ofValues_eq_map (vs : List Value) : ofValues vs = vs.map ofValue := by
  induction vs with
  | nil => rfl
  | cons v vs ih => rw [ofValues, ih, List.map_cons]

theorem ofEntries_eq_map (es : List (String × Value)) :
    ofEntries es = es.map fun e => (e.1, ofValue e.2) := by
  induction es with
  | nil => rfl
  | cons e es ih =>
    obtain ⟨k, v⟩ := e
    rw [ofEntries, ih, List.map_cons]

end FilterQuery.Node
