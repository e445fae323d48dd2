import FilterQuery.Proofs.Query.SearchTree
import FilterQuery.Proofs.Results
import Mathlib.Logic.Basic

/-!
# Sort trees are search trees

An insertion puts the value into a node of its own, or behind the values of a node that is there
(`adds_insert`), and rotations leave the nodes in their order. So no value is lost (`insert_perm`), and
the insertions succeed if all keys can be compared (`insertAll_succeeds`).

Where the comparison is a strict total order of the keys, a new key gets its node between the smaller and
the greater ones (`insert_between`). So the entries of a tree that values were inserted into one after the
other are these values in ascending order of their keys (`insertAll_ascending`).
-/

namespace FilterQuery.SortTree

variable {κ ν ε : Type}

/-! ### Nodes -/

/-- The nodes in their order: keys with the values under them. -/
def nodes : SortTree κ ν → List (κ × List ν)
  | .leaf => []
  | .node _ l k vs r => l.nodes ++ (k, vs) :: r.nodes

theorem toList_eq (t : SortTree κ ν) : t.toList = t.nodes.flatMap Prod.snd := by
  induction t with
  | leaf => rfl
  | node h l k vs r ihl ihr => simp [toList, nodes, ihl, ihr]

section Balance

variable (l : SortTree κ ν) (k : κ) (vs : List ν) (r : SortTree κ ν)

theorem nodes_join : (join l k vs r).nodes = l.nodes ++ (k, vs) :: r.nodes := rfl

theorem nodes_balanceLeft : (balanceLeft l k vs r).nodes = l.nodes ++ (k, vs) :: r.nodes := by
  unfold balanceLeft
  split
  · split
    · rfl
    · split
      · split <;> simp [nodes, nodes_join]
      · simp [nodes, nodes_join]
  · rfl

theorem nodes_balanceRight : (balanceRight l k vs r).nodes = l.nodes ++ (k, vs) :: r.nodes := by
  unfold balanceRight
  split
  · split
    · rfl
    · split
      · split <;> simp [nodes, nodes_join]
      · simp [nodes, nodes_join]
  · rfl

end Balance

section Insert

variable {compare : κ → κ → Except ε Ordering} {kind : κ → Prop} {k : κ} {v : ν}
  {t t' : SortTree κ ν}

/-! ### What an insertion adds -/

/-- The second list of nodes has one more value: in a node of its own, or behind the values of another
node. -/
inductive Adds (k : κ) (v : ν) : List (κ × List ν) → List (κ × List ν) → Prop
  | own (before after : List (κ × List ν)) : Adds k v (before ++ after) (before ++ (k, [v]) :: after)
  | shared (before after : List (κ × List ν)) (k' : κ) (vs : List ν) :
    Adds k v (before ++ (k', vs) :: after) (before ++ (k', vs ++ [v]) :: after)

theorem Adds.append {ns ns' : List (κ × List ν)} (adds : Adds k v ns ns') (left right : List (κ × List ν)) :
    Adds k v (left ++ ns ++ right) (left ++ ns' ++ right) := by
  cases adds with
  | own before after => simpa using Adds.own (left ++ before) (after ++ right)
  | shared before after k' vs => simpa using Adds.shared (left ++ before) (after ++ right) k' vs

theorem adds_insert (inserted : t.insert compare k v = .ok t') : Adds k v t.nodes t'.nodes := by
  induction t generalizing t' with
  | leaf =>
    cases inserted
    exact .own [] []
  | node h l k' vs r ihl ihr =>
    rw [insert] at inserted
    obtain ⟨o, _, inserted⟩ := bind_eq_ok.mp inserted
    cases o with
    | eq =>
      cases inserted
      exact .shared l.nodes r.nodes k' vs
    | lt =>
      obtain ⟨l', deeper, rebuilt⟩ := bind_eq_ok.mp inserted
      cases rebuilt
      rw [nodes_balanceLeft]
      exact (ihl deeper).append [] _
    | gt =>
      obtain ⟨r', deeper, rebuilt⟩ := bind_eq_ok.mp inserted
      cases rebuilt
      rw [nodes_balanceRight]
      simpa [nodes] using (ihr deeper).append (l.nodes ++ [(k', vs)]) []

theorem Adds.perm {ns ns' : List (κ × List ν)} (adds : Adds k v ns ns') :
    (ns'.flatMap Prod.snd).Perm (v :: ns.flatMap Prod.snd) := by
  cases adds with
  | own before after =>
    rw [List.flatMap_append, List.flatMap_append, List.flatMap_cons]
    exact List.perm_middle
  | shared before after k' vs =>
    simp only [List.flatMap_append, List.flatMap_cons, List.append_assoc, List.singleton_append]
    rw [← List.append_assoc, ← List.append_assoc]
    exact List.perm_middle

theorem Adds.keys {ns ns' : List (κ × List ν)} (adds : Adds k v ns ns') :
    ∀ n ∈ ns', n.1 = k ∨ ∃ m ∈ ns, m.1 = n.1 := by
  intro n member
  cases adds with
  | own before after =>
    rcases List.mem_append.mp member with left | right
    · exact .inr ⟨n, List.mem_append_left _ left, rfl⟩
    · rcases List.mem_cons.mp right with rfl | right
      · exact .inl rfl
      · exact .inr ⟨n, List.mem_append_right _ right, rfl⟩
  | shared before after k' vs =>
    rcases List.mem_append.mp member with left | right
    · exact .inr ⟨n, List.mem_append_left _ left, rfl⟩
    · rcases List.mem_cons.mp right with rfl | right
      · exact .inr ⟨(k', vs), by simp, rfl⟩
      · exact .inr ⟨n, by simp [right], rfl⟩

/-! ### No value is lost -/

theorem insert_perm (inserted : t.insert compare k v = .ok t') : t'.toList.Perm (v :: t.toList) := by
  rw [toList_eq, toList_eq]
  exact (adds_insert inserted).perm

theorem insertAll_perm {order : TreeOrder κ ν ε} {es : List (κ × ν)}
    (inserted : SearchTree.balanced.insertAll order t es = .ok t') :
    t'.toList.Perm (es.map Prod.snd ++ t.toList) := by
  induction es generalizing t with
  | nil =>
    cases inserted
    exact .refl _
  | cons e es ih =>
    obtain ⟨t₁, first, rest⟩ := bind_eq_ok.mp inserted
    exact ((ih rest).trans ((insert_perm first).append_left _)).trans List.perm_middle

/-! ### Insertions that succeed -/

theorem insert_succeeds (v : ν) (comparable : ∀ n ∈ t.nodes, ∃ o, compare k n.1 = .ok o) :
    ∃ t', t.insert compare k v = .ok t' := by
  induction t with
  | leaf => exact ⟨_, rfl⟩
  | node h l k' vs r ihl ihr =>
    simp only [nodes, List.forall_mem_append, List.forall_mem_cons] at comparable
    obtain ⟨leftComparable, ⟨o, compared⟩, rightComparable⟩ := comparable
    obtain ⟨l', deeperLeft⟩ := ihl leftComparable
    obtain ⟨r', deeperRight⟩ := ihr rightComparable
    rw [insert, compared]
    cases o with
    | eq => exact ⟨_, rfl⟩
    | lt => exact ⟨_, by rw [deeperLeft]; rfl⟩
    | gt => exact ⟨_, by rw [deeperRight]; rfl⟩

theorem insertAll_succeeds {order : TreeOrder κ ν ε}
    (comparable : ∀ a b : κ, kind a → kind b → ∃ o, order.keys a b = .ok o) {es : List (κ × ν)}
    (kinds : ∀ e ∈ es, kind e.1) (held : ∀ n ∈ t.nodes, kind n.1) :
    ∃ t', SearchTree.balanced.insertAll order t es = .ok t' := by
  induction es generalizing t with
  | nil => exact ⟨t, rfl⟩
  | cons e es ih =>
    rw [List.forall_mem_cons] at kinds
    obtain ⟨t₁, first⟩ := insert_succeeds e.2 fun n member =>
      comparable e.1 n.1 kinds.1 (held n member)
    have held₁ : ∀ n ∈ t₁.nodes, kind n.1 := by
      intro n member
      rcases (adds_insert first).keys n member with same | ⟨m, there, same⟩
      · exact same ▸ kinds.1
      · exact same ▸ held m there
    obtain ⟨t', rest⟩ := ih kinds.2 held₁
    exact ⟨t', bind_eq_ok.mpr ⟨t₁, first, rest⟩⟩

/-! ### The ascending order -/

theorem insert_between (laws : StrictOn compare kind) (ascending : Ascending compare t.nodes)
    (kinds : ∀ n ∈ t.nodes, kind n.1) (isKind : kind k) (new : ∀ n ∈ t.nodes, k ≠ n.1)
    (inserted : t.insert compare k v = .ok t') :
    ∃ before after, t.nodes = before ++ after ∧ t'.nodes = before ++ (k, [v]) :: after ∧
      (∀ n ∈ before, compare n.1 k = .ok .lt) ∧ ∀ n ∈ after, compare k n.1 = .ok .lt := by
  induction t generalizing t' with
  | leaf =>
    cases inserted
    exact ⟨[], [], rfl, rfl, List.forall_mem_nil _, List.forall_mem_nil _⟩
  | node h l k' vs r ihl ihr =>
    rw [nodes] at ascending
    simp only [nodes, List.forall_mem_append, List.forall_mem_cons] at kinds new
    obtain ⟨smaller, greater, across⟩ := List.pairwise_append.mp ascending
    obtain ⟨above, greater⟩ := List.pairwise_cons.mp greater
    obtain ⟨leftKinds, isKind', rightKinds⟩ := kinds
    rw [insert] at inserted
    obtain ⟨o, compared, inserted⟩ := bind_eq_ok.mp inserted
    cases o with
    | eq => exact absurd (laws.same isKind isKind' compared) new.2.1
    | lt =>
      obtain ⟨l', deeper, rebuilt⟩ := bind_eq_ok.mp inserted
      cases rebuilt
      obtain ⟨before, after, split, placed, low, high⟩ := ihl smaller leftKinds new.1 deeper
      refine ⟨before, after ++ (k', vs) :: r.nodes, by simp [nodes, split], ?_, low, ?_⟩
      · simp [nodes_balanceLeft, placed]
      -- what is right of the node is above the node's key, and so above the new one
      · simp only [List.forall_mem_append, List.forall_mem_cons]
        exact ⟨high, compared, fun n member =>
          laws.trans isKind isKind' (rightKinds n member) compared (above n member)⟩
    | gt =>
      obtain ⟨r', deeper, rebuilt⟩ := bind_eq_ok.mp inserted
      cases rebuilt
      have compared := laws.below isKind isKind' compared
      obtain ⟨before, after, split, placed, low, high⟩ := ihr greater rightKinds new.2.2 deeper
      refine ⟨l.nodes ++ (k', vs) :: before, after, by simp [nodes, split], ?_, ?_, high⟩
      · simp [nodes_balanceRight, placed]
      · simp only [List.forall_mem_append, List.forall_mem_cons]
        exact ⟨fun n member => laws.trans (leftKinds n member) isKind' isKind
          (across n member _ List.mem_cons_self) compared, compared, low⟩

/-- The entries as nodes of their own. -/
def single (e : κ × ν) : κ × List ν := (e.1, [e.2])

/-- A tree that is being filled: it holds some entries in ascending order, each in a node of its own, and
others are still to come. -/
structure Filling (compare : κ → κ → Except ε Ordering) (kind : κ → Prop) (t : SortTree κ ν)
    (held pending : List (κ × ν)) : Prop where
  nodes_eq : t.nodes = held.map single
  ascending : Ascending compare held
  kinds : ∀ e ∈ held ++ pending, kind e.1
  distinct : ((held ++ pending).map Prod.fst).Nodup

theorem filling_leaf {es : List (κ × ν)} (kinds : ∀ e ∈ es, kind e.1)
    (distinct : (es.map Prod.fst).Nodup) : Filling compare kind .leaf [] es :=
  ⟨rfl, .nil, kinds, distinct⟩

theorem Filling.step (laws : StrictOn compare kind) {held pending : List (κ × ν)}
    (filling : Filling compare kind t held ((k, v) :: pending))
    (inserted : t.insert compare k v = .ok t') :
    ∃ held', Filling compare kind t' held' pending ∧
      (held' ++ pending).Perm (held ++ (k, v) :: pending) := by
  obtain ⟨nodes_eq, ascending, kinds, distinct⟩ := filling
  have middle : (held ++ (k, v) :: pending).Perm ((k, v) :: (held ++ pending)) := List.perm_middle
  have new : ∀ e ∈ held, k ≠ e.1 := by
    have distinct := (middle.map Prod.fst).nodup distinct
    rintro e member rfl
    exact (List.nodup_cons.mp distinct).1
      (List.mem_map.mpr ⟨e, List.mem_append_left pending member, rfl⟩)
  have ascending' : Ascending compare t.nodes := nodes_eq ▸ List.pairwise_map.mpr ascending
  have kinds' : ∀ n ∈ t.nodes, kind n.1 := by
    rw [nodes_eq]
    exact List.forall_mem_map.mpr fun e member => kinds e (List.mem_append_left _ member)
  have new' : ∀ n ∈ t.nodes, k ≠ n.1 := by
    rw [nodes_eq]
    exact List.forall_mem_map.mpr new
  obtain ⟨before, after, split, placed, smaller, greater⟩ :=
    insert_between laws ascending' kinds' (kinds (k, v) (by simp)) new' inserted
  obtain ⟨before, after, rfl, rfl, rfl⟩ := List.map_eq_append_iff.mp (nodes_eq.symm.trans split)
  rw [List.forall_mem_map] at smaller greater
  have perm : (before ++ (k, v) :: after ++ pending).Perm
      (before ++ after ++ (k, v) :: pending) :=
    (List.perm_middle.append_right pending).trans middle.symm
  exact ⟨before ++ (k, v) :: after,
    ⟨by rw [placed, List.map_append, List.map_cons, single], ascending.insert smaller greater,
      fun e member => kinds e (perm.mem_iff.mp member), (perm.map Prod.fst).symm.nodup distinct⟩, perm⟩

theorem insertAll_ascending {order : TreeOrder κ ν ε} (laws : StrictOn order.keys kind)
    {held pending : List (κ × ν)} (filling : Filling order.keys kind t held pending)
    (inserted : SearchTree.balanced.insertAll order t pending = .ok t') :
    ∃ all : List (κ × ν), t'.nodes = all.map single ∧ all.Perm (held ++ pending) ∧
      Ascending order.keys all := by
  induction pending generalizing t held with
  | nil =>
    cases inserted
    exact ⟨held, filling.nodes_eq, by rw [List.append_nil], filling.ascending⟩
  | cons e pending ih =>
    obtain ⟨t₁, first, rest⟩ := bind_eq_ok.mp inserted
    obtain ⟨held', filling, placed⟩ := filling.step laws first
    obtain ⟨all, nodes_eq, perm, ascending⟩ := ih filling rest
    exact ⟨all, nodes_eq, perm.trans placed, ascending⟩

end Insert

/-- Sort trees obey the laws of search trees. -/
theorem balanced_lawful : (SearchTree.balanced : SearchTree κ ν ε).Lawful where
  keeps filled := by
    have perm : List.Perm _ (_ ++ []) := insertAll_perm filled
    rwa [List.append_nil] at perm
  ascends strict kinds different filled := by
    obtain ⟨all, nodes_eq, perm, ascending⟩ :=
      insertAll_ascending strict (filling_leaf kinds different) filled
    refine ⟨all, perm, ascending, (toList_eq _).trans ?_⟩
    rw [nodes_eq, List.flatMap_map]
    exact List.map_eq_flatMap.symm
  inserts kinds _ comparable _ := insertAll_succeeds comparable kinds (List.forall_mem_nil _)

end FilterQuery.SortTree
