import FilterQuery.Proofs.Search.ReadBack

/-!
# The meaning of search text

The text of a filter without patterns is read as an expression that has the value of the filter,
whatever the values of the tests of fields are, and each test in it is of the field that its operator
is applied to.
-/

namespace FilterQuery.Search

/-! ### Filters without patterns -/

mutual

/-- Whether an operator is the key of an entry of the node or below. -/
def uses (op : Operator) : Node → Bool
  | .scalar _ => false
  | .sequence ns => itemsUse op ns
  | .mapping es => entriesUse op es

def itemsUse (op : Operator) : List Node → Bool
  | [] => false
  | n :: ns => uses op n || itemsUse op ns

def entriesUse (op : Operator) : List (String × Node) → Bool
  | [] => false
  | (key, n) :: es => Operator.ofName? key == some op || uses op n || entriesUse op es

end

theorem Plain.append {ν : Type} {as bs : List (Atom ν)} (left : Plain as) (right : Plain bs) :
    Plain (as ++ bs) :=
  List.forall_mem_append.mpr ⟨left, right⟩

theorem plain_nil {ν : Type} : Plain ([] : List (Atom ν)) := by simp [Plain]

theorem plain_atom {ν : Type} {a : Atom ν} (noPattern : a.test.isPattern = false) :
    Plain (Expr.atom a).atoms := by
  simpa [Plain, Expr.atoms] using noPattern

theorem plain_valueExpr {test : Indexed → Test (List UInt8)}
    (noPattern : ∀ v, (test v).isPattern = false) (P : Path) (n : Node) :
    Plain (valueExpr P test n).atoms := by
  unfold valueExpr
  split
  · exact plain_atom (noPattern _)
  · exact plain_nil

theorem plain_test (v : Indexed) : v.test.isPattern = false := by cases v <;> rfl

theorem plain_scalarExpr {op : Operator} (noPattern : op ≠ .like) (P : Path) (v : Value) :
    Plain (scalarExpr P op v).atoms := by
  cases op with
  | eq | ne => exact plain_valueExpr plain_test P _
  | gt | gte | lt | lte => exact plain_atom rfl
  | like => exact absurd rfl noPattern
  | _ => exact plain_nil

theorem plain_listExpr (op : Operator) (P : Path) (ns : List Node) :
    Plain (listExpr P op ns).atoms := by
  have each : ∀ test : Indexed → Test (List UInt8), (∀ v, (test v).isPattern = false) →
      Plain (Expr.atomsEach (ns.map (valueExpr P test))) := by
    intro test noPattern
    induction ns with
    | nil => exact plain_nil
    | cons n ns ih =>
      rw [List.map_cons, Expr.atomsEach]
      exact (plain_valueExpr noPattern P n).append ih
  cases op with
  | oneOf | noneOf => exact each _ plain_test
  | allOf => exact each _ fun _ => rfl
  | _ => exact plain_nil

/-- The atom is a test that the operator asks for at the path, of a scalar or of the items of a list. -/
def Leaf (P : Path) (op : Operator) (a : Atom (List UInt8)) : Prop :=
  (∃ v, a ∈ (scalarExpr P op v).atoms) ∨ ∃ ns, a ∈ (listExpr P op ns).atoms

/-- The atom is a test at a field, or one below it, by an operator that is in use; `$eq` is where a field
has a scalar. -/
def LeafBelow (P : Path) (used : Operator → Bool) (a : Atom (List UInt8)) : Prop :=
  ∃ keys : List String, ∃ op, (op = .eq ∨ used op) ∧ Leaf (P ++ keys.map Segment.key) op a

section Leaves

variable {P : Path} {used used' : Operator → Bool} {a : Atom (List UInt8)}

theorem Leaf.here {op : Operator} (leaf : Leaf P op a) (among : op = .eq ∨ used op) :
    LeafBelow P used a :=
  ⟨[], op, among, by rwa [List.map_nil, List.append_nil]⟩

theorem LeafBelow.imp (more : ∀ op, used op → used' op) (leaf : LeafBelow P used a) :
    LeafBelow P used' a := by
  obtain ⟨keys, op, among, leaf⟩ := leaf
  exact ⟨keys, op, among.imp_right (more op), leaf⟩

theorem LeafBelow.up {key : String} (leaf : LeafBelow (P ++ [Segment.key key]) used a) :
    LeafBelow P used a := by
  obtain ⟨keys, op, among, leaf⟩ := leaf
  rw [List.append_assoc] at leaf
  exact ⟨key :: keys, op, among, leaf⟩

mutual

theorem leaf_filterExpr (P : Path) : ∀ n : Node, a ∈ (filterExpr P n).atoms → LeafBelow P (uses · n) a
  | .mapping es, member => leaf_entryExprs P es member
  | .scalar _, member | .sequence _, member => by cases member

theorem leaf_entryExprs (P : Path) : ∀ es : List (String × Node),
    a ∈ Expr.atomsEach (entryExprs P es) → LeafBelow P (entriesUse · es) a
  | [], member => by cases member
  | (key, n) :: es, member => by
    rw [entryExprs, Expr.atomsEach, List.mem_append] at member
    rcases member with first | others
    · refine (leaf_entryExpr P key n first).imp fun op used => ?_
      rw [entriesUse, used, Bool.true_or]
    · refine (leaf_entryExprs P es others).imp fun op used => ?_
      rw [entriesUse, used, Bool.or_true]

theorem leaf_entryExpr (P : Path) (key : String) : ∀ n : Node, a ∈ (entryExpr P key n).atoms →
    LeafBelow P (fun op => Operator.ofName? key == some op || uses op n) a
  | .mapping es, member => by
    have more : ∀ op, entriesUse op es →
        (Operator.ofName? key == some op || uses op (.mapping es)) := by
      intro op used
      rw [uses, used, Bool.or_true]
    rw [entryExpr] at member
    split at member
    · exact ((leaf_entryExprs _ es member).imp more).up
    · exact (leaf_entryExprs P es member).imp more
    · cases member
  | .sequence ns, member => by
    have more : ∀ op, itemsUse op ns →
        (Operator.ofName? key == some op || uses op (.sequence ns)) := by
      intro op used
      rw [uses, used, Bool.or_true]
    rw [entryExpr] at member
    split at member
    · exact (leaf_filterExprs P ns member).imp more
    · exact (leaf_filterExprs P ns member).imp more
    · exact (leaf_filterExprs P ns member).imp more
    · rename_i op _ _ _ named
      exact Leaf.here (.inr ⟨ns, member⟩) (.inr (by simp [named]))
    · cases member
  | .scalar v, member => by
    rw [entryExpr] at member
    split at member
    · exact (Leaf.here (.inl ⟨v, member⟩) (.inl rfl)).up
    · rename_i op named
      exact Leaf.here (.inl ⟨v, member⟩) (.inr (by simp [named]))

theorem leaf_filterExprs (P : Path) : ∀ ns : List Node,
    a ∈ Expr.atomsEach (filterExprs P ns) → LeafBelow P (itemsUse · ns) a
  | [], member => by cases member
  | n :: ns, member => by
    rw [filterExprs, Expr.atomsEach, List.mem_append] at member
    rcases member with first | others
    · refine (leaf_filterExpr P n first).imp fun op used => ?_
      rw [itemsUse, used, Bool.true_or]
    · refine (leaf_filterExprs P ns others).imp fun op used => ?_
      rw [itemsUse, used, Bool.or_true]

end

end Leaves

theorem plain_filterExpr (P : Path) {n : Node} (unused : uses .like n = false) :
    Plain (filterExpr P n).atoms := by
  intro a member
  obtain ⟨keys, op, among, leaf⟩ := leaf_filterExpr P n member
  have noPattern : op ≠ .like := by
    rintro rfl
    simp [unused] at among
  rcases leaf with ⟨v, leaf⟩ | ⟨ns, leaf⟩
  · exact plain_scalarExpr noPattern _ v a leaf
  · exact plain_listExpr op _ ns a leaf

/-! ### The text of a filter -/

theorem value?_atom {t : Expr (Atom Param)} (valid : Valid (params t)) {a : Atom Param}
    (member : a ∈ t.atoms) : (a.map Param.name).map (value? (params t)) =
      (a.map Param.value).map some := by
  simp only [Atom.map, Test.map_map]
  congr 1
  refine Test.map_congr fun p operand => ?_
  exact value?_of_mem valid.distinct (List.mem_flatMap.mpr ⟨a, member, operand⟩)

/-- The text of a filter that uses no patterns is read as an expression. With the values of parameters
for their names, this has the value of the filter under every valuation of tests of fields, and its
tests are those of the filter that are kept. -/
theorem compile_text_meaning {depth : Int} {q : Node} {r : Query}
    (compiled : (compiler.withDepth depth).compile q = .ok r) (noPatterns : uses .like q = false) :
    ∃ e, parse r.text = some e ∧
      (∀ V, (e.map (Atom.map (value? r.params))).eval V =
        ((filterExpr [] q).map (Atom.map some)).eval V) ∧
      (e.map (Atom.map (value? r.params))).atoms =
        ((filterExpr [] q).map (Atom.map some)).kept := by
  obtain ⟨t, value, bound, valid, clause⟩ := compile_filterExpr compiled
  rw [bound] at valid
  -- an atom of the text is one of the filter, with names in place of operands
  have plain : Plain r.clause.expr.atoms := by
    have operands := plain_filterExpr [] noPatterns
    rw [clause.atoms_eq]
    intro a member
    obtain ⟨b, kept, rfl⟩ := List.mem_map.mp member
    have operand := operands (b.map Param.value) (by
      rw [← value, Expr.atoms_map]
      exact List.mem_map_of_mem (t.kept_subset kept))
    rwa [Atom.map, Test.isPattern_map] at operand ⊢
  rw [bound]
  refine ⟨_, r.clause.parse_text clause.wellFormed (clause.worded valid) plain, fun V => ?_, ?_⟩
  · rw [Expr.eval_map, Clause.eval_reading, clause.eval_eq, Expr.eval_map, ← value, Expr.eval_map]
    exact t.eval_congr fun a member => congrArg V (value?_atom valid member)
  · rw [Expr.atoms_map, Clause.atoms_reading, clause.atoms_eq, ← value, Expr.kept_map, Expr.kept_map,
      List.map_map, List.map_map]
    exact List.map_congr_left fun a kept => value?_atom valid (t.kept_subset kept)

theorem compile_text_meaning_dropped :
    let two := Node.scalar (.double (.finite false 2 0))
    let q := Node.mapping [("a(b", .mapping [("$ne", .scalar (.bool true)), ("$in", .sequence [two])]),
      ("$or", .sequence [.mapping [("b", .mapping [("$gt", two)])],
        .mapping [("c", .mapping [("$nin", .sequence [])])]]),
      ("$nor", .sequence [.mapping [("d", two), ("a", two)], .mapping [("b", .scalar (.bool false))]])]
    ∃ r, (compiler.withDepth 1).compile q = .ok r ∧ uses .like q = false ∧
      ∃ e, parse r.text = some e ∧ (∀ V, (e.map (Atom.map (value? r.params))).eval V =
        ((filterExpr [] q).map (Atom.map some)).eval V) := by
  intro two q
  obtain ⟨r, compiled⟩ : ∃ r, (compiler.withDepth 1).compile q = .ok r := ⟨_, rfl⟩
  obtain ⟨e, parsed, meaning, _⟩ := compile_text_meaning compiled rfl
  exact ⟨r, compiled, rfl, e, parsed, meaning⟩

end FilterQuery.Search
