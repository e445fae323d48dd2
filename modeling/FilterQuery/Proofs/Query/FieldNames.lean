import FilterQuery.Proofs.Query.Reading
import FilterQuery.Proofs.Sql.Columns

/-!
# Field names in filters and orders

A document may filter by a field and order by it, as one that `FiltersAndSorts` describes. Items are read
at the same path for both, unless the name of the field is empty (`fieldPath_eq_ofDotted_iff`). The
columns of a statement for it are the same text only if the name has no dots either: a condition takes
the name as it is, and an order takes it in its parts.
-/

namespace FilterQuery

open Compiler

/-- The document filters by a field and orders by it, ascending. -/
inductive Node.FiltersAndSorts (key : String) (n : Node) : Node → Prop
  | filterFirst {v : Value} (one : v.asInteger? = some 1) :
    FiltersAndSorts key n (.mapping [(key, n), (Modifiers.sortKey, .mapping [(key, .scalar v)])])
  | sortFirst {v : Value} (one : v.asInteger? = some 1) :
    FiltersAndSorts key n (.mapping [(Modifiers.sortKey, .mapping [(key, .scalar v)]), (key, n)])

def Modifiers.ascending (key : String) : Modifiers := { sort := [⟨key, 1⟩] }

namespace Node.FiltersAndSorts

variable {key : String} {n doc : Node}

theorem split_eq (isField : isCommand key = false) (both : FiltersAndSorts key n doc) :
    doc.split = .ok (.mapping [(key, n)], .ascending key) := by
  have filters (name : String) (command : isCommand name = true) : key ≠ name := by
    rintro rfl
    rw [isField] at command
    cases command
  have noSort := filters Modifiers.sortKey (by decide)
  have noSkip := filters Modifiers.skipKey (by decide)
  have noLimit := filters Modifiers.limitKey (by decide)
  cases both with
  | filterFirst one | sortFirst one =>
    simp [Node.split, Modifiers.splitEntries, noSort, noSkip, noLimit, Modifiers.readSort,
      Modifiers.readCriteria, Node.scalar?, one, Modifiers.ascending, Bind.bind, Except.bind,
      Pure.pure, Except.pure]

end Node.FiltersAndSorts

/-! ### Statements -/

namespace Sql

variable {style : Style} {base key : String} {n doc : Node}

def orderedBy (style : Style) (base key : String) (f : Fragment) : Statement where
  text := String.ofList (Unicode.trimSpace base.toList) ++ (Clauses.whereText style f.condition ++
    (" ORDER BY " ++ (Column.text (columnOf (Path.ofDotted key)) ++ " ASC")))
  args := f.args

theorem select_field (isField : isCommand key = false) (both : Node.FiltersAndSorts key n doc)
    (c : Compiler Bindings Condition Fragment) :
    select style c base doc {} = (c.compile (.mapping [(key, n)])).map (orderedBy style base key) := by
  unfold select
  rw [both.split_eq isField]
  cases compiled : c.compile (.mapping [(key, n)]) with
  | error e => simp only [Except.mapError, Bind.bind, Except.bind, compiled, Except.map]
  | ok f =>
    have unpaged : Clauses.limitText style ((Modifiers.ascending key).override {}) = "" ∧
        Clauses.offsetText ((Modifiers.ascending key).override {}) = "" :=
      ⟨by cases style <;> rfl, rfl⟩
    have ordered : Clauses.orderText ((Modifiers.ascending key).override {}).sort =
        " ORDER BY " ++ (Column.text (columnOf (Path.ofDotted key)) ++ " ASC") := rfl
    simp only [Except.mapError, Bind.bind, Except.bind, compiled, Except.map, Clauses.text, unpaged,
      ordered, String.append_empty]
    rfl

/-- The columns of a condition begin with the name of a field. The equality with a value tests the column
of that name. -/
structure TestsField (key : String) (n : Node) (e : Expr) : Prop where
  begins : ∀ c ∈ e.columns, ∃ below, c = key :: below
  equality : ∀ v, n = .scalar v → e.columns = [[key]]

theorem compile_testsField {depth : Int} {f : Fragment} (isField : isCommand key = false)
    (compiled : ((compiler style).withDepth depth).compile (.mapping [(key, n)]) = .ok f) :
    ∃ e, parse (f.text style) = some e ∧ TestsField key n e := by
  obtain ⟨e, read, columns⟩ := columns_field compiled
  refine ⟨e, read, fun c member => ?_, ?_⟩
  · obtain ⟨P, there, rfl⟩ := columns c member
    obtain ⟨below, rfl⟩ := n.dataPaths_below isField P there
    exact ⟨columnOf below, rfl⟩
  · rintro v rfl
    rw [parse_of_compile compiled] at read
    obtain rfl := Option.some.inj read
    rw [Expr.columns_unwrap, filterExpr, entryExprs, entryExprs, Expr.columns_allOf,
      List.flatMap_singleton, entryExpr, Operator.ofName?_of_field isField]
    rfl

end Sql

/-! ### Items -/

namespace Predicate

theorem fieldPath_cons (seg : Segment) (P : Path) :
    fieldPath (seg :: P) = fieldPath [seg] ++ fieldPath P := by
  rw [fieldPath, List.flatMap_cons, fieldPath, List.flatMap_singleton]
  rfl

theorem fieldPath_eq_ofDotted_iff (key : String) :
    fieldPath [.key key] = Path.ofDotted key ↔ key ≠ "" := by
  by_cases dotted : '.' ∈ key.toList
  · have parts : fieldPath [.key key] = Path.ofDotted key := by simp [fieldPath, dotted]
    refine iff_of_true parts ?_
    rintro rfl
    cases dotted
  · have whole : fieldPath [.key key] = [.key key] := by simp [fieldPath, dotted]
    rw [whole]
    constructor
    · rintro same rfl
      cases same
    · intro nonempty
      exact (Path.ofDotted_plain nonempty dotted).symm

end Predicate

/-- The engines compare values alike, and read alike where a filter by a field and an order by it read. -/
structure Engine.AlikeAt {ε : Type} (e e' : Engine ε) (key : String) (n : Node) : Prop where
  compares : e.ComparesAlike e'
  filtered : ∀ P ∈ n.dataPaths key, e.ReadsAlike e' (Predicate.fieldPath P)
  sorted : e.ReadsAlike e' (Path.ofDotted key)

/-- Where items are read by a query that filters by a field and orders by it. -/
structure ReadsField (key : String) (n doc : Node) : Prop where
  /-- No items are read elsewhere. -/
  nowhereElse {ε : Type} {e e' : Engine ε} (alike : e.AlikeAt e' key n) (depth : Int)
    (T : SearchTree ItemKey Value (SortError ε)) (items : List Value) :
    (Querier.mk e ((Predicate.compiler e).withDepth depth) T).query items doc {} =
      (Querier.mk e' ((Predicate.compiler e').withDepth depth) T).query items doc {}
  below : ∀ P ∈ n.dataPaths key, ∃ below, P = .key key :: below ∧
    Predicate.fieldPath P = Predicate.fieldPath [.key key] ++ Predicate.fieldPath below
  /-- A condition on the field reads it. -/
  filter {ε : Type} {e : Engine ε} {item : Value} {err : ε} {depth : Int} {op : Operator}
    {operand : Node} {p : Predicate ε} (simple : op.isCombinator = false) (positive : op ≠ .not)
    (condition : Node.IsCondition op operand [key] (.mapping [(key, n)]))
    (compiled : ((Predicate.compiler e).withDepth depth).compile (.mapping [(key, n)]) = .ok p)
    (unreadable : e.fields item (Predicate.fieldPath [.key key]) = .error err) :
    p item = .error (.reading err)
  /-- The order reads the field. -/
  order {ε : Type} {e : Engine ε} {item : Value} {err : ε}
    (unreadable : e.fields item (Path.ofDotted key) = .error err)
    (T : SearchTree ItemKey Value (SortError ε)) (items : List Value) :
    sortItems T e (Modifiers.ascending key).sort (item :: items) = .error (.reading err)

theorem readsField {key : String} {n doc : Node} (isField : isCommand key = false)
    (both : Node.FiltersAndSorts key n doc) : ReadsField key n doc where
  nowhereElse {ε e e'} alike depth T items := by
    refine query_congr alike.compares depth (both.split_eq isField) ?_ ?_ T items
    · intro site member below called
      rw [Node.postorder, Node.postorderAt, Node.postorderEntries, Node.postorderEntries,
        List.append_nil] at member
      cases List.mem_append.mp member with
      | inl there =>
        exact alike.filtered _ (List.mem_map.mpr ⟨site, List.mem_filter.mpr ⟨there, called⟩, rfl⟩)
      | inr root => exact absurd (congrArg Site.path (List.mem_singleton.mp root)) below
    · exact List.forall_mem_singleton.mpr alike.sorted
  below P member := by
    obtain ⟨below, rfl⟩ := n.dataPaths_below isField P member
    exact ⟨below, rfl, Predicate.fieldPath_cons _ below⟩
  filter simple positive condition compiled unreadable :=
    Predicate.fails_of_unreadable condition simple positive compiled unreadable
  order unreadable := sortItems_fails unreadable

/-- An engine that sees the fields at one path only. -/
def Engine.restrict {ε : Type} (e : Engine ε) (path : Path) : Engine ε where
  fields item asked := if asked = path then e.fields item asked else .ok ([none], false)
  compare := e.compare
  comparable := e.comparable

/-- A field that a document filters and orders by is read at the same path for both, unless its name is
empty. In the statement for the document both columns are the same text only if the name is not empty and
has no dots. -/
theorem field_names_agree {key : String} {n doc : Node} (isField : isCommand key = false)
    (both : Node.FiltersAndSorts key n doc) :
    (∀ (style : Sql.Style) (depth : Int) (base : String),
      Sql.select style ((Sql.compiler style).withDepth depth) base doc {} =
        (((Sql.compiler style).withDepth depth).compile (.mapping [(key, n)])).map
          (Sql.orderedBy style base key) ∧
      ∀ f, ((Sql.compiler style).withDepth depth).compile (.mapping [(key, n)]) = .ok f →
        ∃ e, Sql.parse (f.text style) = some e ∧ Sql.TestsField key n e) ∧
    (Sql.Column.text (Sql.columnOf (Path.ofDotted key)) = Sql.Column.text [key] ↔
      key ≠ "" ∧ '.' ∉ key.toList) ∧
    ReadsField key n doc ∧
    (Predicate.fieldPath [.key key] = Path.ofDotted key ↔ key ≠ "") :=
  ⟨fun _ _ _ => ⟨Sql.select_field isField both _,
      fun _ compiled => Sql.compile_testsField isField compiled⟩,
    Sql.text_ofDotted_iff key, readsField isField both, Predicate.fieldPath_eq_ofDotted_iff key⟩

/-- A name without dots is one column and one path, and nothing else is read. -/
theorem field_names_agree_plain :
    let doc := Node.mapping [("a", .scalar (.bool true)),
      ("$sort", .mapping [("a", .scalar (.double (.finite false 1 0)))])]
    let restricted := Engine.standard.restrict [.key "a"]
    Sql.Column.text (Sql.columnOf (Path.ofDotted "a")) = Sql.Column.text ["a"] ∧
      Predicate.fieldPath [.key "a"] = Path.ofDotted "a" ∧
      ∀ items, ({ engine := Engine.standard } : Querier Incomparable).query items doc {} =
        ({ engine := restricted } : Querier Incomparable).query items doc {} := by
  intro doc restricted
  have both : Node.FiltersAndSorts "a" (.scalar (.bool true)) doc := .filterFirst rfl
  obtain ⟨-, column, reads, path⟩ := field_names_agree (by decide) both
  have here : Engine.standard.ReadsAlike restricted [.key "a"] := fun _ => rfl
  have alike : Engine.standard.AlikeAt restricted "a" (.scalar (.bool true)) :=
    ⟨⟨rfl, rfl⟩, List.forall_mem_singleton.mpr here, here⟩
  exact ⟨column.mpr ⟨by decide, by decide⟩, path.mpr (by decide), reads.nowhereElse alike 0 .balanced⟩

/-- A name with a dot is one column in a condition and two in an order. -/
theorem select_dotted_field :
    Sql.select .question (Sql.compiler .question) "SELECT * FROM t"
        (.mapping [("a.b", .scalar (.double (.finite false 1 0))),
          ("$sort", .mapping [("a.b", .scalar (.double (.finite false 1 0)))])]) {} =
      .ok ⟨"SELECT * FROM t WHERE \"a.b\" = ? ORDER BY \"a\".\"b\" ASC",
        [.double (.finite false 1 0)]⟩ := by
  have base : String.ofList (Unicode.trimSpace "SELECT * FROM t".toList) = "SELECT * FROM t" := by
    decide +kernel
  have clauses : Sql.Clauses.text .question ⟨.compare ["a.b"] .eq 1, .ascending "a.b"⟩ =
      " WHERE \"a.b\" = ? ORDER BY \"a\".\"b\" ASC" := by decide
  change Except.ok (Sql.Statement.mk (String.ofList (Unicode.trimSpace "SELECT * FROM t".toList) ++
    Sql.Clauses.text .question ⟨.compare ["a.b"] .eq 1, .ascending "a.b"⟩) _) = _
  rw [base, clauses]
  rfl

end FilterQuery
