import FilterQuery.Proofs.Compile.DataPaths
import FilterQuery.Proofs.Sql.Arguments

/-!
# Columns of statements

The columns in the condition of a filter are the fields that the filter is compiled for
(`columns_field`), each key one name; the column of an order is the dotted key in its parts. The two
texts are the same for a key that is not empty and has no dots (`text_ofDotted_iff`).
-/

namespace FilterQuery.Sql

namespace Expr

mutual

def columns : Expr → List Column
  | .const _ => []
  | .all es | .any es => columnsEach es
  | .not e => e.columns
  | .test c _ => [c]

def columnsEach : List Expr → List Column
  | [] => []
  | e :: es => e.columns ++ columnsEach es

end

theorem columnsEach_eq (es : List Expr) : columnsEach es = es.flatMap columns := by
  induction es with
  | nil => rfl
  | cons e es ih => rw [columnsEach, ih, List.flatMap_cons]

theorem columns_conj : ∀ es : List Expr, (conj es).columns = columnsEach es
  | [] | _ :: _ :: _ => by rw [conj, columns]; simp
  | [e] => by rw [conj, columnsEach, columnsEach, List.append_nil]

theorem columns_disj : ∀ es : List Expr, (disj es).columns = columnsEach es
  | [] | _ :: _ :: _ => by rw [disj, columns]; simp
  | [e] => by rw [disj, columnsEach, columnsEach, List.append_nil]

mutual

theorem columns_unwrap : ∀ e : Expr, e.unwrap.columns = e.columns
  | .const _ | .test _ _ => rfl
  | .all es => by rw [unwrap, columns_conj, columnsEach_unwrap es, columns]
  | .any es => by rw [unwrap, columns_disj, columnsEach_unwrap es, columns]
  | .not e => by rw [unwrap, columns, columns, columns_unwrap e]

theorem columnsEach_unwrap : ∀ es : List Expr, columnsEach (unwrapEach es) = columnsEach es
  | [] => rfl
  | e :: es => by rw [unwrapEach, columnsEach, columnsEach, columns_unwrap e, columnsEach_unwrap es]

end

variable (es : List Expr)

theorem columns_allOf : (allOf es).columns = es.flatMap columns := by
  rw [← columnsEach_eq]
  cases es <;> rfl

theorem columns_anyOf : (anyOf es).columns = es.flatMap columns := by
  rw [← columnsEach_eq]
  cases es <;> rfl

theorem columns_noneOf : (noneOf es).columns = es.flatMap columns := by
  rw [← columnsEach_eq]
  cases es <;> rfl

theorem columns_notAllOf : (notAllOf es).columns = es.flatMap columns := by
  rw [← columnsEach_eq]
  cases es <;> rfl

end Expr

theorem columns_scalarExpr (c : Column) (op : Operator) (v : Value) :
    (scalarExpr c op v).columns ⊆ [c] := by
  cases op <;> simp [scalarExpr, Expr.columns]

theorem columns_listExpr (c : Column) (op : Operator) (count : Nat) :
    (listExpr c op count).columns ⊆ [c] := by
  cases op <;> cases count <;> simp [listExpr, Expr.columns]

def columnsOf (sites : List Site) : List Column :=
  (sites.filter Site.isCalled).map fun site => columnOf site.path.data

theorem columnsOf_append (first rest : List Site) :
    columnsOf (first ++ rest) = columnsOf first ++ columnsOf rest := by
  rw [columnsOf, List.filter_append, List.map_append]
  rfl

theorem columnsOf_called {path : Path} {n : Node} (called : Site.isCalled ⟨path, n⟩ = true) :
    columnsOf [⟨path, n⟩] = [columnOf path.data] := by
  simp [columnsOf, called]

/-- An entry at a path tests columns of fields below it only. -/
def TestsBelow (n : Node) : Prop :=
  (∀ path, (filterExpr (Path.data path) n).columns ⊆ columnsOf (n.postorderAt path)) ∧
    ∀ path key, (entryExpr (Path.data path) key n).columns ⊆
      columnsOf (n.postorderAt (path ++ [.key key]))

theorem columns_entries {es : List (String × Node)} (each : ∀ e ∈ es, TestsBelow e.2) {P path : Path}
    (data : path.data = P) :
    (entryExprs P es).flatMap Expr.columns ⊆ columnsOf (Node.postorderEntries path es) := by
  subst data
  induction es with
  | nil => exact List.nil_subset _
  | cons e es ih =>
    obtain ⟨first, rest⟩ := List.forall_mem_cons.mp each
    rw [entryExprs, List.flatMap_cons, Node.postorderEntries_cons, columnsOf_append]
    exact List.append_subset.mpr ⟨List.subset_append_of_subset_left _ (first.2 path e.1),
      List.subset_append_of_subset_right _ (ih rest)⟩

theorem columns_filters {ns : List Node} (each : ∀ n ∈ ns, TestsBelow n) {P path : Path}
    (data : ∀ i : Nat, Path.data (path ++ [Segment.index i]) = P) (i : Nat) :
    (filterExprs P ns).flatMap Expr.columns ⊆ columnsOf (Node.postorderItems path i ns) := by
  induction ns generalizing i with
  | nil => exact List.nil_subset _
  | cons n ns ih =>
    obtain ⟨first, rest⟩ := List.forall_mem_cons.mp each
    have here := first.1 (path ++ [Segment.index i])
    rw [data i] at here
    rw [filterExprs, List.flatMap_cons, Node.postorderItems_cons, columnsOf_append]
    exact List.append_subset.mpr ⟨List.subset_append_of_subset_left _ here,
      List.subset_append_of_subset_right _ (ih rest (i + 1))⟩

theorem testsBelow (n : Node) : TestsBelow n := by
  induction n using Node.induct with
  | scalar v =>
    refine ⟨fun path => List.nil_subset _, fun path key => ?_⟩
    rw [Node.postorderAt, columnsOf_called (Site.isCalled_key ..), entryExpr]
    cases named : Operator.ofName? key with
    | none =>
      rw [Path.data_append_field path named]
      exact columns_scalarExpr _ _ _
    | some op =>
      rw [Path.data_append_operator path named]
      exact columns_scalarExpr _ _ _
  | sequence ns ih =>
    refine ⟨fun path => List.nil_subset _, fun path key => ?_⟩
    rw [Node.postorderAt_eq, columnsOf_append, columnsOf_called (Site.isCalled_key ..), entryExpr]
    cases named : Operator.ofName? key with
    | none => exact List.nil_subset _
    | some op =>
      -- an operator tests the field above it, and a combinator what its filters test
      rw [Path.data_append_operator path named]
      have filters (combinator : op.isCombinator) :
          (filterExprs path.data ns).flatMap Expr.columns ⊆
            columnsOf (Node.postorderItems (path ++ [Segment.key key]) 0 ns) := by
        refine columns_filters ih (fun i => ?_) 0
        rw [Path.data_append_index, Path.endsInCombinator_key, named, Option.any_some,
          if_pos combinator, Path.data_append_operator path named]
      have list : (listExpr (columnOf path.data) op ns.length).columns ⊆ [columnOf path.data] :=
        columns_listExpr _ _ _
      cases op with
      | and =>
        rw [Expr.columns_allOf]
        exact List.subset_append_of_subset_left _ (filters rfl)
      | or =>
        rw [Expr.columns_anyOf]
        exact List.subset_append_of_subset_left _ (filters rfl)
      | nor =>
        rw [Expr.columns_noneOf]
        exact List.subset_append_of_subset_left _ (filters rfl)
      | _ => exact List.subset_append_of_subset_right _ list
  | mapping es ih =>
    have entries {P path : Path} (data : path.data = P) :
        (entryExprs P es).flatMap Expr.columns ⊆ columnsOf (Node.postorderAt path (.mapping es)) := by
      rw [Node.postorderAt_eq, columnsOf_append]
      exact List.subset_append_of_subset_left _ (columns_entries ih data)
    refine ⟨fun path => ?_, fun path key => ?_⟩
    · rw [filterExpr, Expr.columns_allOf]
      exact entries rfl
    · rw [entryExpr]
      cases named : Operator.ofName? key with
      | none =>
        rw [Expr.columns_allOf]
        exact entries (Path.data_append_field path named)
      | some op =>
        cases op with
        | not =>
          rw [Expr.columns_notAllOf]
          exact entries (Path.data_append_operator path named)
        | _ => exact List.nil_subset _

theorem columns_field {style : Style} {depth : Int} {key : String} {n : Node} {f : Fragment}
    (compiled : ((compiler style).withDepth depth).compile (.mapping [(key, n)]) = .ok f) :
    ∃ e, parse (f.text style) = some e ∧ ∀ c ∈ e.columns, ∃ P ∈ n.dataPaths key, c = columnOf P := by
  refine ⟨_, parse_of_compile compiled, fun c member => ?_⟩
  rw [Expr.columns_unwrap, filterExpr, entryExprs, entryExprs, Expr.columns_allOf,
    List.flatMap_singleton] at member
  have found := (testsBelow n).2 [] key member
  obtain ⟨site, there, rfl⟩ := List.mem_map.mp found
  exact ⟨_, List.mem_map.mpr ⟨site, there, rfl⟩, rfl⟩

/-! ### Orders -/

theorem columnTokens_eq_of_text {c c' : Column} (same : c.text = c'.text) :
    columnTokens c = columnTokens c' := by
  have tokens := lex_column c
  rw [same, lex_column c'] at tokens
  exact (Option.some.inj tokens).symm

/-- The column of a dotted key is that of the key as one name if the key is not empty and has no
dots. -/
theorem text_ofDotted_iff (key : String) :
    Column.text (columnOf (Path.ofDotted key)) = Column.text [key] ↔
      key ≠ "" ∧ '.' ∉ key.toList := by
  constructor
  · intro same
    have tokens : columnTokens (columnOf (Path.ofDotted key)) = [.name key] :=
      columnTokens_eq_of_text same
    constructor
    · rintro rfl
      cases tokens
    · intro dotted
      obtain ⟨a, b, rest, parts⟩ := Path.ofDotted_dotted dotted
      rw [parts] at tokens
      cases tokens
  · rintro ⟨nonempty, plain⟩
    rw [Path.ofDotted_plain nonempty plain]
    rfl

end FilterQuery.Sql
