import FilterQuery.Proofs.Compile.Spelling
import FilterQuery.Query.Predicate
import FilterQuery.Search.Dialect
import FilterQuery.Sql.Dialect

/-!
# Scalars and explicit equality

Each dialect joins a single condition to the condition itself, so a field with a scalar means the same as
the field with the scalar under `$eq`.
-/

namespace FilterQuery

open Generation Compiler

namespace Sql

theorem operandValue_matches {path path' : Path} (n : Node) (same : path.data = path'.data) :
    Matches CompileError.Alike Eq (operandValue n path) (operandValue n path') := by
  have refused : Matches CompileError.Alike Eq
      (throw (.violation (.ofNode .unexpectedValue n path)) : Generation Bindings Value)
      (throw (.violation (.ofNode .unexpectedValue n path'))) :=
    matches_throw (.violation rfl same)
  cases n with
  | scalar v =>
    cases isRegex : v.isRegex with
    | true => simpa only [operandValue, bindable, isRegex, if_true] using refused
    | false =>
      simp only [operandValue, bindable, isRegex, Bool.false_eq_true, if_false]
      exact matches_pure rfl
  | sequence ns => exact refused
  | mapping es => exact refused

theorem eqCondition_matches (style : Style) {path path' data : Path} {v : Value}
    (same : path.data = path'.data) :
    Matches CompileError.Alike Eq (eqCondition style ⟨.eq, path, data, .scalar v, [], []⟩)
      (eqCondition style ⟨.eq, path', data, .scalar v, [], []⟩) := by
  cases v with
  | regex re =>
    change Matches CompileError.Alike Eq (regexCondition style _ re) (regexCondition style _ re)
    unfold regexCondition
    split
    · exact matches_refl .same (fun _ => rfl) _
    · exact matches_throw (.violation rfl same)
  | _ =>
    refine matches_bind (operandValue_matches _ same) fun w w' equal => ?_
    subst equal
    exact matches_refl .same (fun _ => rfl) _

theorem compiler_generator? {style : Style} {depth : Int} {op : Operator}
    {g : Generator Bindings Condition}
    (found : ((compiler style).withDepth depth).dialect.generator? op = some g) :
    g = fun o => some <$> conditionOf style o := by
  change (if supports style op then some _ else none) = some g at found
  split at found
  · cases found
    rfl
  · cases found

theorem compiler_collapsing (style : Style) (depth : Int) :
    ((compiler style).withDepth depth).Collapsing where
  compares same data v := by
    rw [compiler_generator? (generator?_eq _)]
    exact matches_map (eqCondition_matches style same) fun _ _ equal => congrArg some equal
  collapses isEq yields := by
    rw [compiler_generator? (generator?_eq _)] at yields
    obtain ⟨condition, _, rfl⟩ := yields_map.mp yields
    refine ⟨condition, rfl, fun path data n ns => ?_⟩
    rw [compiler_generator? (generator?_and _)]
    rfl
  joins {op g} found joins path data n n' as ns ns' := by
    obtain rfl := compiler_generator? found
    have same : conditionOf style ⟨op, path, data, n, as, ns⟩ =
        conditionOf style ⟨op, path, data, n', as, ns'⟩ := by
      cases op <;> first | rfl | simp [Operator.isCombinator] at joins
    dsimp only
    rw [same]
    exact matches_refl .same (fun _ => rfl) _
  keeps _ := rfl

end Sql

namespace Search

theorem indexed_matches {path path' : Path} (n : Node) (same : path.data = path'.data) :
    Matches CompileError.Alike Eq (indexed n path) (indexed n path') := by
  unfold indexed
  cases n.scalar?.bind Indexed.ofValue? with
  | some v => exact matches_pure rfl
  | none => exact matches_throw (.violation rfl same)

theorem refuse_matches {path data : Path} {op : Operator} {n n' : Node} {as : List Clause}
    {ns ns' : List Node} {R : Option Clause → Option Clause → Prop} :
    Matches CompileError.Alike R (refuse ⟨op, path, data, n, as, ns⟩) (refuse ⟨op, path, data, n', as, ns'⟩) :=
  matches_throw (.violation rfl rfl)

theorem compiler_collapsing (depth : Int) : (compiler.withDepth depth).Collapsing where
  compares {path path'} same data v := by
    change Matches CompileError.Alike Eq (equalClause .field _) (equalClause .field _)
    refine matches_bind (indexed_matches (.scalar v) same) fun w w' equal => ?_
    obtain rfl := equal
    exact matches_refl .same (fun _ => rfl) _
  collapses {o s t r} isEq yields := by
    have clause : clauseOf o = equalClause .field o := by
      unfold clauseOf
      rw [isEq]
    change Yields (clauseOf o) s r t at yields
    rw [clause] at yields
    obtain ⟨v, _, _, rest⟩ := yields_bind.mp yields
    obtain ⟨operand, _, _, returned⟩ := yields_bind.mp rest
    obtain ⟨rfl, _⟩ := yields_pure.mp returned
    exact ⟨_, rfl, fun path data n ns => rfl⟩
  joins {op g} found joins path data n n' as ns ns' := by
    obtain rfl : clauseOf = g := by
      change (if op = .present then none else some clauseOf) = some g at found
      split at found
      · cases found
      · exact Option.some.inj found
    unfold clauseOf
    cases op with
    | and => exact matches_pure rfl
    | or =>
      dsimp only
      split
      · exact refuse_matches
      · exact matches_refl .same (fun _ => rfl) _
    | nor =>
      dsimp only
      split
      · exact matches_pure rfl
      · split
        · exact refuse_matches
        · exact matches_pure rfl
    | not =>
      dsimp only
      cases Clause.proper as with
      | nil => exact refuse_matches
      | cons c cs => exact matches_pure rfl
    | _ => simp [Operator.isCombinator] at joins
  keeps _ := rfl

end Search

namespace Predicate

variable {ε : Type}

theorem allOf_singleton (p : Predicate ε) : allOf [p] = p := by
  funext item
  simp only [allOf, List.allM]
  cases p item with
  | error err => rfl
  | ok holds => cases holds <;> rfl

theorem compiler_collapsing (e : Engine ε) (depth : Int) :
    ((compiler e).withDepth depth).Collapsing where
  compares _ _ _ := matches_pure rfl
  collapses {o s t r} isEq yields := by
    have equal : ((compiler e).withDepth depth).eqGenerator o = pure (some (isEqual e o)) := by
      obtain ⟨operator, path, data, operand, children, elements⟩ := o
      cases isEq
      rfl
    rw [equal] at yields
    obtain ⟨rfl, _⟩ := yields_pure.mp yields
    refine ⟨isEqual e o, rfl, fun path data n ns => ?_⟩
    change pure (some (allOf [isEqual e o])) = _
    rw [allOf_singleton]
  joins {op g} found joins path data n n' as ns ns' := by
    cases found
    cases op with
    | and | or | nor | not => exact matches_pure rfl
    | _ => simp [Operator.isCombinator] at joins
  keeps _ := rfl

end Predicate

/-- A document in which some fields are spelled out, anywhere but in a list of values, is compiled to the
same conditions and arguments, the same search and the same predicate, or it is refused for the same
reason at the same field. -/
theorem spelledOut_same_result {q q' : Node} (spelled : q.SpelledOut q') :
    (∀ (style : Sql.Style) (depth : Int),
      SameResult (((Sql.compiler style).withDepth depth).compile q)
        (((Sql.compiler style).withDepth depth).compile q')) ∧
    (∀ depth : Int, SameResult ((Search.compiler.withDepth depth).compile q)
      ((Search.compiler.withDepth depth).compile q')) ∧
    ∀ {ε : Type} (e : Engine ε) (depth : Int),
      SameResult (((Predicate.compiler e).withDepth depth).compile q)
        (((Predicate.compiler e).withDepth depth).compile q') :=
  ⟨fun style depth => (Sql.compiler_collapsing style depth).compile spelled,
    fun depth => (Search.compiler_collapsing depth).compile spelled,
    fun e depth => (Predicate.compiler_collapsing e depth).compile spelled⟩

/-- A flag and a null below a combinator, of which the search dialect refuses the second one. -/
theorem spelledOut_same_result_nested :
    let short := Node.mapping [("$nor",
      .sequence [.mapping [("a", .scalar (.bool true)), ("b", .scalar .null)]])]
    let long := Node.mapping [("$nor",
      .sequence [.mapping [("a", .equalTo (.bool true)), ("b", .equalTo .null)]])]
    short.SpelledOut long ∧
    (∃ f, (Sql.compiler .dollar).compile short = .ok f ∧ (Sql.compiler .dollar).compile long = .ok f) ∧
    ∃ e e', Search.compiler.compile short = .error e ∧ Search.compiler.compile long = .error e' ∧
      e.Alike e' := by
  intro short long
  have spelled : short.SpelledOut long :=
    .mapping (.inside rfl (.sequence (.cons (.mapping (.equals rfl (.equals rfl .nil))) .nil)) .nil)
  obtain ⟨conditions, searches, _⟩ := spelledOut_same_result spelled
  obtain ⟨f, compiled⟩ : ∃ f, (Sql.compiler .dollar).compile short = .ok f := ⟨_, rfl⟩
  obtain ⟨e, refused⟩ : ∃ e, Search.compiler.compile short = .error e := ⟨_, rfl⟩
  obtain ⟨e', refused', alike⟩ := (searches 1).of_error refused
  exact ⟨spelled, ⟨f, compiled, (conditions .dollar 2).of_ok compiled⟩, e, e', refused, refused', alike⟩

end FilterQuery
