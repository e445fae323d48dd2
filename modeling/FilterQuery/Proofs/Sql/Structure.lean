import FilterQuery.Proofs.Sql.Compiled

/-!
# The structure of SQL text

The text that a filter compiles to is read as the expression of the filter. Values and field names
have no part in it: filters that differ in values only have the same text, and filters that differ
in field names, too, have the same tokens but for the quoted names.
-/

namespace FilterQuery.Sql

open Compiler

/-! ### Renaming -/

namespace Token

def rename (ρ : String → String) : Token → Token
  | .name s => .name (ρ s)
  | t => t

end Token

theorem columnTokens_rename (ρ : String → String) (c : Column) :
    columnTokens (c.map ρ) = (columnTokens c).map (Token.rename ρ) := by
  rw [columnTokens, columnTokens, map_intercalate, List.map_map, List.map_map]
  rfl

theorem argTokens_rename (ρ : String → String) (style : Style) (args : List Nat) :
    (argTokens style args).map (Token.rename ρ) = argTokens style args := by
  rw [argTokens, map_intercalate, List.map_map]
  rfl

namespace Condition

mutual

def rename (ρ : String → String) : Condition → Condition
  | .always b => .always b
  | .all cs => .all (renameEach ρ cs)
  | .any cs => .any (renameEach ρ cs)
  | .notAll cs => .notAll (renameEach ρ cs)
  | .notAny cs => .notAny (renameEach ρ cs)
  | .compare c sign arg => .compare (c.map ρ) sign arg
  | .isNull c => .isNull (c.map ρ)
  | .isNotNull c => .isNotNull (c.map ρ)
  | .isIn c args => .isIn (c.map ρ) args
  | .isNotIn c args => .isNotIn (c.map ρ) args
  | .holds c args => .holds (c.map ρ) args
  | .like c arg => .like (c.map ρ) arg
  | .matchesRegex c arg => .matchesRegex (c.map ρ) arg

def renameEach (ρ : String → String) : List Condition → List Condition
  | [] => []
  | c :: cs => c.rename ρ :: renameEach ρ cs

end

variable (ρ : String → String)

theorem rename_conj : ∀ cs : List Condition, (conj cs).rename ρ = conj (renameEach ρ cs)
  | [] | [_] | _ :: _ :: _ => rfl

theorem rename_disj : ∀ cs : List Condition, (disj cs).rename ρ = disj (renameEach ρ cs)
  | [] | [_] | _ :: _ :: _ => rfl

theorem rename_nor (cs : List Condition) : (nor cs).rename ρ = nor (renameEach ρ cs) := by
  cases cs <;> rfl

theorem rename_nand (cs : List Condition) : (nand cs).rename ρ = nand (renameEach ρ cs) := by
  cases cs <;> rfl

mutual

theorem tokens_rename (style : Style) : ∀ c : Condition,
    (c.rename ρ).tokens style = (c.tokens style).map (Token.rename ρ)
  | .always true | .always false => rfl
  | .all cs | .any cs | .notAll cs | .notAny cs => by
    simp [rename, tokens, map_intercalate, tokensEach_rename style cs, Token.rename]
  | .compare c _ _ | .isNull c | .isNotNull c | .like c _ | .matchesRegex c _ => by
    simp [rename, tokens, columnTokens_rename, Token.rename]
  | .isIn c args | .isNotIn c args | .holds c args => by
    simp [rename, tokens, columnTokens_rename, argTokens_rename, Token.rename]

theorem tokensEach_rename (style : Style) : ∀ cs : List Condition,
    tokensEach style (renameEach ρ cs) = (tokensEach style cs).map fun ts => ts.map (Token.rename ρ)
  | [] => rfl
  | c :: cs => by
    rw [renameEach, tokensEach, tokensEach, tokens_rename style c, tokensEach_rename style cs,
      List.map_cons]

end

end Condition

namespace Expr

mutual

def rename (ρ : String → String) : Expr → Expr
  | .const b => .const b
  | .all es => .all (renameEach ρ es)
  | .any es => .any (renameEach ρ es)
  | .not e => .not (e.rename ρ)
  | .test c t => .test (c.map ρ) t

def renameEach (ρ : String → String) : List Expr → List Expr
  | [] => []
  | e :: es => e.rename ρ :: renameEach ρ es

end

mutual

theorem rename_id : ∀ e : Expr, e.rename id = e
  | .const _ => rfl
  | .all es | .any es => by rw [rename, renameEach_id es]
  | .not e => by rw [rename, rename_id e]
  | .test c t => by rw [rename, List.map_id]

theorem renameEach_id : ∀ es : List Expr, renameEach id es = es
  | [] => rfl
  | e :: es => by rw [renameEach, rename_id e, renameEach_id es]

end

variable (ρ : String → String)

mutual

theorem arity_rename : ∀ e : Expr, (e.rename ρ).arity = e.arity
  | .const _ | .test _ _ => rfl
  | .all es | .any es => by rw [rename, arity, arity, arityEach_rename es]
  | .not e => by rw [rename, arity, arity, arity_rename e]

theorem arityEach_rename : ∀ es : List Expr, arityEach (renameEach ρ es) = arityEach es
  | [] => rfl
  | e :: es => by rw [renameEach, arityEach, arityEach, arity_rename e, arityEach_rename es]

end

theorem condition_test_rename (n : Nat) (c : Column) (t : Test) :
    (t.condition n c).rename ρ = t.condition n (c.map ρ) := by
  cases t <;> rfl

mutual

theorem condition_rename (n : Nat) : ∀ e : Expr,
    (e.rename ρ).condition n = (e.condition n).rename ρ
  | .const _ => rfl
  | .all es => by
    rw [rename, condition, condition, conditions_rename n es, Condition.rename_conj]
  | .any es => by
    rw [rename, condition, condition, conditions_rename n es, Condition.rename_disj]
  | .not (.all es) => by
    rw [rename, rename, condition, condition, conditions_rename n es, Condition.rename_nand]
  | .not (.any es) => by
    rw [rename, rename, condition, condition, conditions_rename n es, Condition.rename_nor]
  | .not (.const b) => rfl
  | .not (.not e) => congrArg (fun c => Condition.nand [c]) (condition_rename n (.not e))
  | .not (.test c t) => congrArg (fun c => Condition.nand [c]) (condition_rename n (.test c t))
  | .test c t => by rw [rename, condition, condition, condition_test_rename]

theorem conditions_rename (n : Nat) : ∀ es : List Expr,
    conditions n (renameEach ρ es) = Condition.renameEach ρ (conditions n es)
  | [] => rfl
  | e :: es => by
    rw [renameEach, conditions, conditions, Condition.renameEach, condition_rename n e, arity_rename,
      conditions_rename (n + e.arity) es]

end

theorem rename_allOf (es : List Expr) : (allOf es).rename ρ = allOf (renameEach ρ es) := by
  cases es <;> rfl

theorem rename_anyOf (es : List Expr) : (anyOf es).rename ρ = anyOf (renameEach ρ es) := by
  cases es <;> rfl

theorem rename_noneOf (es : List Expr) : (noneOf es).rename ρ = noneOf (renameEach ρ es) := by
  cases es <;> rfl

theorem rename_notAllOf (es : List Expr) : (notAllOf es).rename ρ = notAllOf (renameEach ρ es) := by
  cases es <;> rfl

end Expr

/-! ### Filters of one form -/

section Alike

variable (ρ : String → String)

/-- Keys that name the same operator, or fields with names that `ρ` does not tell apart. -/
def AlikeKey (key key' : String) : Prop :=
  key = key' ∨ isCommand key = false ∧ isCommand key' = false ∧ ρ key = ρ key'

/-- Operands of which both or none is null, a regular expression and, for `$exists`, true. -/
def AlikeScalar (key : String) (v w : Value) : Prop :=
  v.isNull = w.isNull ∧ v.isRegex = w.isRegex ∧
    (Operator.ofName? key = some .present → isTrue v = isTrue w)

mutual

/-- The filters differ only in operands and in names of fields that `ρ` does not tell apart. -/
inductive Alike : Node → Node → Prop
  | mapping {es ds : List (String × Node)} (entries : AlikeEntries es ds) :
    Alike (.mapping es) (.mapping ds)

inductive AlikeEntries : List (String × Node) → List (String × Node) → Prop
  | nil : AlikeEntries [] []
  | cons {key key' : String} {n m : Node} {es ds : List (String × Node)}
    (keys : AlikeKey ρ key key') (entry : AlikeEntry key n m) (rest : AlikeEntries es ds) :
    AlikeEntries ((key, n) :: es) ((key', m) :: ds)

inductive AlikeEntry : String → Node → Node → Prop
  | mapping {key : String} {es ds : List (String × Node)} (entries : AlikeEntries es ds) :
    AlikeEntry key (.mapping es) (.mapping ds)
  | values {key : String} {ns ms : List Node} (list : (Operator.ofName? key).any Operator.takesValues)
    (length_eq : ns.length = ms.length) : AlikeEntry key (.sequence ns) (.sequence ms)
  | filters {key : String} {ns ms : List Node}
    (filters : (Operator.ofName? key).any Operator.isCombinator) (each : AlikeEach ns ms) :
    AlikeEntry key (.sequence ns) (.sequence ms)
  | scalar {key : String} {v w : Value} (alike : AlikeScalar key v w) :
    AlikeEntry key (.scalar v) (.scalar w)

inductive AlikeEach : List Node → List Node → Prop
  | nil : AlikeEach [] []
  | cons {n m : Node} {ns ms : List Node} (first : Alike n m) (rest : AlikeEach ns ms) :
    AlikeEach (n :: ns) (m :: ms)

end

end Alike

section Alike

variable {ρ : String → String}

theorem AlikeKey.same {key key' : String} (alike : AlikeKey ρ key key') :
    Operator.ofName? key = Operator.ofName? key' ∧ ρ key = ρ key' := by
  rcases alike with rfl | ⟨field, field', same⟩
  · exact ⟨rfl, rfl⟩
  · rw [Operator.ofName?_of_field field, Operator.ofName?_of_field field']
    exact ⟨rfl, same⟩

theorem scalarExpr_rename (c : Column) (op : Operator) (v : Value) :
    (scalarExpr c op v).rename ρ = scalarExpr (c.map ρ) op v := by
  cases op <;> rfl

theorem scalarExpr_alike {key : String} {op : Operator} (c : Column) {v w : Value}
    (present : op = .present → Operator.ofName? key = some .present) (alike : AlikeScalar key v w) :
    scalarExpr c op v = scalarExpr c op w := by
  obtain ⟨null, regex, exist⟩ := alike
  cases op with
  | present => simp only [scalarExpr, exist (present rfl)]
  | _ => simp only [scalarExpr, null, regex]

theorem listExpr_rename (c : Column) (op : Operator) (count : Nat) :
    (listExpr c op count).rename ρ = listExpr (c.map ρ) op count := by
  cases op with
  | oneOf | noneOf | allOf => cases count <;> rfl
  | _ => rfl

theorem columnOf_append_alike {P P' : Path} {key key' : String}
    (columns : (columnOf P).map ρ = (columnOf P').map ρ) (keys : ρ key = ρ key') :
    (columnOf (P ++ [Segment.key key])).map ρ = (columnOf (P' ++ [Segment.key key'])).map ρ := by
  simp only [columnOf, List.map_append] at columns ⊢
  rw [columns]
  simp [Segment.text, keys]

mutual

theorem filterExpr_alike {P P' : Path} (columns : (columnOf P).map ρ = (columnOf P').map ρ)
    {n m : Node} : Alike ρ n m → (filterExpr P n).rename ρ = (filterExpr P' m).rename ρ
  | .mapping entries => by
    rw [filterExpr, filterExpr, Expr.rename_allOf, Expr.rename_allOf,
      entryExprs_alike columns entries]

theorem entryExprs_alike {P P' : Path} (columns : (columnOf P).map ρ = (columnOf P').map ρ)
    {es ds : List (String × Node)} : AlikeEntries ρ es ds →
      Expr.renameEach ρ (entryExprs P es) = Expr.renameEach ρ (entryExprs P' ds)
  | .nil => rfl
  | .cons keys entry rest => by
    rw [entryExprs, entryExprs, Expr.renameEach, Expr.renameEach, entryExpr_alike columns keys entry,
      entryExprs_alike columns rest]

theorem entryExpr_alike {P P' : Path} (columns : (columnOf P).map ρ = (columnOf P').map ρ)
    {key key' : String} (keys : AlikeKey ρ key key') {n m : Node} : AlikeEntry ρ key n m →
      (entryExpr P key n).rename ρ = (entryExpr P' key' m).rename ρ
  | .mapping entries => by
    have below := columnOf_append_alike columns keys.same.2
    rw [entryExpr, entryExpr, ← keys.same.1]
    split
    · rw [Expr.rename_allOf, Expr.rename_allOf, entryExprs_alike below entries]
    · rw [Expr.rename_notAllOf, Expr.rename_notAllOf, entryExprs_alike columns entries]
    · rfl
  | .values list length_eq => by
    obtain ⟨op, named, list⟩ := (Option.any_eq_true _ _).mp list
    rw [entryExpr, entryExpr, ← keys.same.1, named, length_eq]
    cases op with
    | oneOf | noneOf | allOf =>
      dsimp only
      rw [listExpr_rename, listExpr_rename, columns]
    | _ => cases list
  | .filters filters each => by
    obtain ⟨op, named, filters⟩ := (Option.any_eq_true _ _).mp filters
    rw [entryExpr, entryExpr, ← keys.same.1, named]
    have members := filterExprs_alike columns each
    cases op with
    | and => exact (Expr.rename_allOf ρ _).trans (members ▸ (Expr.rename_allOf ρ _).symm)
    | or => exact (Expr.rename_anyOf ρ _).trans (members ▸ (Expr.rename_anyOf ρ _).symm)
    | nor => exact (Expr.rename_noneOf ρ _).trans (members ▸ (Expr.rename_noneOf ρ _).symm)
    | _ => cases filters
  | .scalar alike => by
    rw [entryExpr, entryExpr, ← keys.same.1]
    cases named : Operator.ofName? key with
    | none =>
      dsimp only
      rw [scalarExpr_rename, scalarExpr_rename, columnOf_append_alike columns keys.same.2,
        scalarExpr_alike _ (by simp) alike]
    | some op =>
      dsimp only
      rw [scalarExpr_rename, scalarExpr_rename, columns,
        scalarExpr_alike _ (fun same => by rw [named, same]) alike]

theorem filterExprs_alike {P P' : Path} (columns : (columnOf P).map ρ = (columnOf P').map ρ)
    {ns ms : List Node} : AlikeEach ρ ns ms →
      Expr.renameEach ρ (filterExprs P ns) = Expr.renameEach ρ (filterExprs P' ms)
  | .nil => rfl
  | .cons first rest => by
    rw [filterExprs, filterExprs, Expr.renameEach, Expr.renameEach, filterExpr_alike columns first,
      filterExprs_alike columns rest]

end

end Alike

/-! ### The text of a filter -/

end FilterQuery.Sql
