import FilterQuery.Proofs.Compile.Blame
import FilterQuery.Query.Querier
import FilterQuery.Search.Command
import FilterQuery.Sql.Statement

/-!
# Located violations

The generators of the predicate, the SQL and the search dialect refuse their operand, or one of its
items with the index it has in the operand. So whichever part of a query refuses a document, the
violation names a node of the document (`violations_located`).
-/

namespace FilterQuery

open Generation

namespace Predicate

variable {ε : Type}

theorem ofOperation_locates (e : Engine ε) {op : Operation (Predicate ε)} {v : Violation}
    (h : ofOperation e op = .error v) : op.operator = .like ∧ v.Locates op.path op.operand := by
  unfold ofOperation at h
  split at h
  case h_14 isLike =>
    split at h
    · cases h
    · cases h
      exact ⟨isLike, Violation.locates_ofNode _ _ _⟩
  all_goals cases h

theorem compiler_blaming (e : Engine ε) (depth : Int) :
    ((compiler e).withDepth depth).Blaming where
  generates := by
    intro op g found o
    cases found
    dsimp only
    split
    · exact blames_pure _
    · rename_i v refused
      exact blames_throw (ofOperation_locates e refused).2
  joins := by
    intro g found o isAnd
    cases found
    dsimp only
    split
    · exact blames_pure _
    · rename_i v refused
      have isLike := (ofOperation_locates e refused).1
      cases isAnd.symm.trans isLike
  resolves p := blames_pure p
  kept _ := rfl

end Predicate

namespace Sql

variable {path : Path}

theorem operandValue_blames (n : Node) (path : Path) :
    Blames (operandValue n path) (·.Locates path n) := by
  unfold operandValue bindable
  split
  · exact blames_pure _
  · rename_i v refused
    apply blames_throw
    split at refused
    · split at refused
      · cases refused
        exact Violation.locates_ofNode _ _ _
      · cases refused
    · cases refused
      exact Violation.locates_ofNode _ _ _

theorem bind_blames {P : Violation → Prop} (v : Value) : Blames (bind v) P :=
  blames_bind (blames_modify _) fun _ => blames_map blames_get

theorem bindItems_blames {ns all : List Node} {i : Nat} (rest : all.drop i = ns) :
    Blames (bindItems path i ns) (·.Locates path (.sequence all)) := by
  induction ns generalizing i with
  | nil => exact blames_pure _
  | cons n ns ih =>
    obtain ⟨there, behind⟩ := Node.getElem?_of_drop rest
    rw [bindItems]
    refine blames_bind ?_ fun value => blames_bind (bind_blames value) fun arg =>
      blames_map (ih behind)
    exact (operandValue_blames n _).imp fun v located => located.item there

variable {op : Operation Condition}

theorem bindList_blames : Blames (bindList op) (·.Locates op.path op.operand) := by
  unfold bindList
  split
  · rename_i items operand
    rw [operand]
    exact bindItems_blames List.drop_zero
  · exact blames_pure _

theorem regexCondition_blames (style : Style) (re : Regex) :
    Blames (regexCondition style op re) (·.Locates op.path op.operand) := by
  unfold regexCondition
  split
  · exact blames_map (bind_blames _)
  · exact blames_throw (Violation.locates_ofNode _ _ _)

theorem eqCondition_blames (style : Style) :
    Blames (eqCondition style op) (·.Locates op.path op.operand) := by
  unfold eqCondition
  split
  · exact regexCondition_blames style _
  · refine blames_bind (operandValue_blames _ _) fun value => ?_
    split
    · exact blames_pure _
    · exact blames_map (bind_blames _)

theorem neCondition_blames : Blames (neCondition op) (·.Locates op.path op.operand) := by
  unfold neCondition
  refine blames_bind (operandValue_blames _ _) fun value => ?_
  split
  · exact blames_pure _
  · exact blames_map (bind_blames _)

theorem rangeCondition_blames (sign : Sign) :
    Blames (rangeCondition sign op) (·.Locates op.path op.operand) :=
  blames_map (bind_blames _)

theorem listCondition_blames (make : Column → List Nat → Condition) (onEmpty : Bool) :
    Blames (listCondition make onEmpty op) (·.Locates op.path op.operand) := by
  unfold listCondition
  refine blames_bind bindList_blames fun args => ?_
  split
  · exact blames_pure _
  · exact blames_pure _

theorem likeCondition_blames (style : Style) :
    Blames (likeCondition style op) (·.Locates op.path op.operand) := by
  unfold likeCondition
  split
  · exact regexCondition_blames style _
  · exact blames_throw (Violation.locates_ofNode _ _ _)
  · exact blames_map (bind_blames _)

theorem conditionOf_blames (style : Style) (op : Operation Condition) :
    Blames (conditionOf style op) (·.Locates op.path op.operand) := by
  unfold conditionOf
  split
  case h_5 => exact eqCondition_blames style
  case h_6 => exact neCondition_blames
  case h_7 | h_8 | h_9 | h_10 => exact rangeCondition_blames _
  case h_11 | h_12 | h_13 => exact listCondition_blames _ _
  case h_14 => exact likeCondition_blames style
  all_goals exact blames_pure _

theorem compiler_blaming (style : Style) (depth : Int) :
    ((compiler style).withDepth depth).Blaming where
  generates := by
    intro op g found o
    obtain ⟨_, same⟩ := Option.ite_none_right_eq_some.mp found
    cases same
    exact blames_map (conditionOf_blames style o)
  joins := by
    intro g found o isAnd
    cases found
    dsimp only
    rw [conditionOf, isAnd]
    exact blames_map (blames_pure _)
  resolves c := blames_map blames_get
  kept _ := rfl

end Sql

namespace Search

variable {P : Violation → Prop}

theorem indexed_blames (n : Node) (path : Path) : Blames (indexed n path) (·.Locates path n) := by
  unfold indexed
  split
  · exact blames_pure _
  · exact blames_throw (Violation.locates_ofNode _ _ _)

theorem bind_blames (base : String) (value : List UInt8) : Blames (bind base value) P :=
  blames_bind blames_get fun _ => blames_bind (blames_modify _) fun _ => blames_pure _

theorem bindWords_blames (base : String) (n : Nat) (words : List (List UInt8)) :
    Blames (bindWords base n words) P := by
  induction words generalizing n with
  | nil => exact blames_pure _
  | cons word words ih =>
    rw [bindWords]
    split
    · exact ih (n + 1)
    · exact blames_bind (bind_blames _ _) fun name => blames_map (ih (n + 1))

theorem bindParts_blames (base : String) (n : Nat) (parts : List (List UInt8)) :
    Blames (bindParts base n parts) P := by
  induction parts generalizing n with
  | nil => exact blames_pure _
  | cons part parts ih =>
    rw [bindParts]
    split
    · exact blames_bind (blames_pure _) fun names => blames_map (ih (n + 1))
    · exact blames_bind (bindWords_blames _ 0 _) fun names => blames_map (ih (n + 1))

theorem bindOperand_blames (base : String) (v : Indexed) : Blames (bindOperand base v) P := by
  unfold bindOperand
  split
  · exact blames_map (bind_blames _ _)
  · exact blames_map (bind_blames _ _)
  · exact blames_map (bindWords_blames _ 0 _)

variable {op : Operation Clause}

theorem bindItems_blames {make : String → Indexed → Generation Params Operand}
    (makes : ∀ {P : Violation → Prop} base v, Blames (make base v) P) {ns all : List Node} {i : Nat}
    (rest : all.drop i = ns) :
    Blames (bindItems make op i ns) (·.Locates op.path (.sequence all)) := by
  induction ns generalizing i with
  | nil => exact blames_pure _
  | cons n ns ih =>
    obtain ⟨there, behind⟩ := Node.getElem?_of_drop rest
    rw [bindItems]
    refine blames_bind ?_ fun value => blames_bind (makes _ value) fun operand =>
      blames_map (ih behind)
    exact (indexed_blames n _).imp fun v located => located.item there

theorem itemsOf_blames (op : Operation Clause) {make : String → Indexed → Generation Params Operand}
    (makes : ∀ {P : Violation → Prop} base v, Blames (make base v) P) :
    Blames (bindItems make op 0 (itemsOf op)) (·.Locates op.path op.operand) := by
  unfold itemsOf
  split
  · rename_i items operand
    rw [operand]
    exact bindItems_blames makes List.drop_zero
  · exact blames_pure _

theorem refuse_blames {α : Type} :
    Blames (refuse op : Generation Params α) (·.Locates op.path op.operand) :=
  blames_throw (Violation.locates_ofNode _ _ _)

theorem clauseOf_blames (op : Operation Clause) :
    Blames (clauseOf op) (·.Locates op.path op.operand) := by
  have equal (make : String → Operand → Clause) :
      Blames (equalClause make op) (·.Locates op.path op.operand) :=
    blames_bind (indexed_blames _ _) fun v => blames_map (bindOperand_blames _ v)
  have range (make : String → Operand) :
      Blames (rangeClause make op) (·.Locates op.path op.operand) :=
    blames_map (bind_blames _ _)
  have items := itemsOf_blames op bindOperand_blames
  have makesTags {P : Violation → Prop} (base : String) (v : Indexed) :
      Blames (do return Operand.tag (← bind base v.toText)) P := blames_map (bind_blames base _)
  have tags := itemsOf_blames op makesTags
  unfold clauseOf
  split
  case h_1 => exact blames_pure _
  case h_2 =>
    split
    · exact refuse_blames
    · split
      · exact blames_pure _
      · exact blames_pure _
  case h_3 =>
    split
    · exact blames_pure _
    · split
      · exact refuse_blames
      · exact blames_pure _
  case h_4 =>
    split
    · exact refuse_blames
    · exact blames_pure _
  case h_5 | h_6 => exact equal _
  case h_7 | h_8 | h_9 | h_10 => exact range _
  case h_11 =>
    split
    · exact refuse_blames
    · exact blames_map items
  case h_12 =>
    split
    · exact blames_pure _
    · exact blames_map items
  case h_13 =>
    split
    · exact blames_pure _
    · exact blames_map tags
  case h_14 =>
    unfold likeClause
    split
    · exact blames_map (bindParts_blames _ 0 _)
    · exact refuse_blames
  case h_15 => exact blames_pure _

theorem compiler_blaming (depth : Int) : (compiler.withDepth depth).Blaming where
  generates := by
    intro op g found o
    obtain ⟨_, same⟩ := Option.ite_none_left_eq_some.mp found
    cases same
    exact clauseOf_blames o
  joins := by
    intro g found o isAnd
    cases found
    simp only [clauseOf, isAnd]
    exact blames_pure _
  resolves c := blames_map blames_get
  kept _ := rfl

end Search

/-! ### Whole queries -/

/-- The violation that a query over items is refused for. -/
def QueryError.violation? {ε : Type} : QueryError ε → Option Violation
  | .modifier v => some v
  | .compile e => e.violation?
  | _ => none

/-- The violation names a node of the document: its path leads to the node, its value is the node as
a plain value, and its data path is that of its path. -/
def Violation.Names (v : Violation) (q : Node) : Prop :=
  ∃ n, q.At v.path n ∧ v.value = n.plain ∧ v.dataPath = v.path.data

theorem Violation.Locates.names {v : Violation} {q : Node} (h : v.Locates [] q) : v.Names q := by
  obtain ⟨p, n, place, same, value⟩ := h
  exact ⟨n, by rwa [same], value, rfl⟩

theorem Compiler.Blaming.split_names {σ α β : Type} {c : Compiler σ α β} (blaming : c.Blaming)
    {q : Node} {v : Violation}
    (h : q.split = .error v ∨ ∃ filter m e, q.split = .ok (filter, m) ∧ c.compile filter = .error e ∧
      e.violation? = some v) : v.Names q := by
  rcases h with unsplit | ⟨filter, m, e, split, failed, caused⟩
  · exact (Node.split_locates unsplit).names
  · exact (blaming.filter split failed caused).names

namespace Querier

variable {ε : Type}

theorem filterFrom_error {p : Predicate ε} {position : Nat} {items : List Value}
    {err : QueryError ε} (h : filterFrom p position items = .error err) : err.violation? = none := by
  induction items generalizing position with
  | nil => cases h
  | cons item items ih =>
    rw [filterFrom] at h
    split at h
    · cases h
      rfl
    · rcases bind_eq_error.mp h with rest | ⟨_, _, returned⟩
      · exact ih rest
      · cases returned

theorem order_error {q : Querier ε} {criteria : List SortField} {items : List Value}
    {err : QueryError ε} (h : q.order criteria items = .error err) : err.violation? = none := by
  unfold order at h
  split at h
  · cases h
  · split at h
    · cases h
    · cases h
      rfl

theorem cut_error {m : Modifiers} {items : List Value} {err : QueryError ε}
    (h : cut m items = .error err) : err.violation? = none := by
  unfold cut at h
  split at h
  · cases h
  · cases h
    rfl

/-- Only the modifiers and the filter of a query can be refused for a violation: matching, ordering
and cutting have errors of their own. -/
theorem query_refused {q : Querier ε} {items : List Value} {n : Node} {o : Overrides}
    {err : QueryError ε} {v : Violation} (failed : q.query items n o = .error err)
    (caused : err.violation? = some v) :
    n.split = .error v ∨ ∃ filter m e, n.split = .ok (filter, m) ∧
      q.compiler.compile filter = .error e ∧ e.violation? = some v := by
  rcases bind_eq_error.mp failed with unsplit | ⟨⟨filter, m⟩, split, rest⟩
  · obtain ⟨w, refused, rfl⟩ := mapError_eq_error.mp unsplit
    cases caused
    exact .inl refused
  · rcases bind_eq_error.mp rest with uncompiled | ⟨p, _, rest⟩
    · obtain ⟨e, refused, rfl⟩ := mapError_eq_error.mp uncompiled
      exact .inr ⟨filter, m, e, mapError_eq_ok.mp split, refused, caused⟩
    · rcases bind_eq_error.mp rest with unmatched | ⟨found, _, rest⟩
      · rw [filterFrom_error unmatched] at caused
        cases caused
      · rcases bind_eq_error.mp rest with unsorted | ⟨sorted, _, uncut⟩
        · rw [order_error unsorted] at caused
          cases caused
        · rw [cut_error uncut] at caused
          cases caused

end Querier

theorem Compiler.Blaming.made_names {σ α β γ : Type} {c : Compiler σ α β} (blaming : c.Blaming)
    (make : Modifiers → β → γ) {n : Node} {err : CompileError} {v : Violation}
    (failed : (n.split.mapError CompileError.violation >>= fun (filter, m) =>
      c.compile filter >>= fun b => .ok (make m b)) = .error err)
    (caused : err.violation? = some v) : v.Names n := by
  apply blaming.split_names
  rcases bind_eq_error.mp failed with unsplit | ⟨⟨filter, m⟩, split, rest⟩
  · obtain ⟨w, refused, rfl⟩ := mapError_eq_error.mp unsplit
    cases caused
    exact .inl refused
  · rcases bind_eq_error.mp rest with uncompiled | ⟨f, _, returned⟩
    · exact .inr ⟨filter, m, err, mapError_eq_ok.mp split, uncompiled, caused⟩
    · cases returned

/-- Whether a document is refused as a query over items, as a statement or as a search command, for
one of its modifiers, a rule of the language or an operand that the dialect cannot express: the
violation names a node of the document. -/
theorem violations_located (q : Node) (o : Overrides) (v : Violation) :
    (∀ {ε : Type} (e : Engine ε) (T : SearchTree ItemKey Value (SortError ε)) (depth : Int)
      (items : List Value) (err : QueryError ε),
      Querier.query ⟨e, (Predicate.compiler e).withDepth depth, T⟩ items q o = .error err →
        err.violation? = some v → v.Names q) ∧
    (∀ (style : Sql.Style) (depth : Int) (base : String) (err : CompileError),
      Sql.select style ((Sql.compiler style).withDepth depth) base q o = .error err →
        err.violation? = some v → v.Names q) ∧
    ∀ (depth : Int) (index : String) (err : CompileError),
      Search.command (Search.compiler.withDepth depth) index q o = .error err →
        err.violation? = some v → v.Names q := by
  refine ⟨fun e T depth items err failed caused => ?_, fun style depth base err failed caused => ?_,
    fun depth index err failed caused => ?_⟩
  · have refused := Querier.query_refused failed caused
    exact (Predicate.compiler_blaming e depth).split_names refused
  · refine (Sql.compiler_blaming style depth).made_names (fun m f => Sql.Statement.mk
      (String.ofList (Unicode.trimSpace base.toList) ++
        (Sql.Clauses.mk f.condition (m.override o)).text style) f.args) failed caused
  · refine (Search.compiler_blaming depth).made_names (fun m query => Search.Command.mk index query
      (m.override o).sort.head? (Search.Window.ofModifiers (m.override o))) failed caused

/-- The order of a query, the second value of an `$in` and an empty `$or` are refused where they
stand. -/
theorem violations_located_refused :
    let unordered := Node.mapping [("$sort", .mapping [("a", .scalar .null)])]
    let unbound := Node.mapping [("$sort", .mapping []),
      ("a", .mapping [("$in", .sequence [.scalar .null, .mapping []])])]
    let empty := Node.mapping [("$or", .sequence [])]
    let order := Violation.ofNode .unexpectedValue (.scalar .null) [.key "$sort", .key "a"]
    let value := Violation.ofNode .unexpectedValue (.mapping []) [.key "a", .key "$in", .index 1]
    let choice := Violation.ofNode .unexpectedValue (.sequence []) [.key "$or"]
    order.Names unordered ∧ value.Names unbound ∧ choice.Names empty := by
  intro unordered unbound empty order value choice
  have query : Querier.query ⟨Engine.standard, (Predicate.compiler .standard).withDepth 0, .balanced⟩ []
      unordered {} = .error (.modifier order) := rfl
  have statement : Sql.select .dollar ((Sql.compiler .dollar).withDepth 2) "" unbound {} =
      .error (.violation value) := rfl
  have command : Search.command (Search.compiler.withDepth 1) "" empty {} =
      .error (.violation choice) := rfl
  exact ⟨(violations_located unordered {} order).1 _ _ _ _ _ query rfl,
    (violations_located unbound {} value).2.1 _ _ _ _ statement rfl,
    (violations_located empty {} choice).2.2 _ _ _ command rfl⟩

end FilterQuery
