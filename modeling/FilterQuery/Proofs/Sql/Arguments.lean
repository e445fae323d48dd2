import FilterQuery.Proofs.Numeric.Digits
import FilterQuery.Proofs.Sql.Compiled
import FilterQuery.Proofs.Value.Entries
import FilterQuery.Sql.Statement
import Mathlib.Data.List.Nodup

/-!
# Arguments and placeholders

The placeholders of SQL text are those of the arguments, each once and in order, and the arguments
are the operands of the filter. Names of columns have no part in it: what looks like a placeholder in
a quoted name is none.
-/

namespace FilterQuery.Sql

open Compiler Lexer

namespace Token

def placeholder? : Token → Option String
  | .placeholder s => some s
  | _ => none

@[simp] theorem placeholder?_placeholder (s : String) : (placeholder s).placeholder? = some s := rfl

@[simp] theorem placeholder?_name (s : String) : (name s).placeholder? = none := rfl

@[simp] theorem placeholder?_word (s : String) : (word s).placeholder? = none := rfl

@[simp] theorem placeholder?_sign (s : String) : (sign s).placeholder? = none := rfl

@[simp] theorem placeholder?_mark (c : Char) : (mark c).placeholder? = none := rfl

end Token

def placeholders (ts : List Token) : List String := ts.filterMap Token.placeholder?

@[simp] theorem placeholders_nil : placeholders [] = [] := rfl

@[simp] theorem placeholders_cons (t : Token) (ts : List Token) :
    placeholders (t :: ts) = t.placeholder?.toList ++ placeholders ts := by
  cases t <;> rfl

@[simp] theorem placeholders_append (ts us : List Token) :
    placeholders (ts ++ us) = placeholders ts ++ placeholders us :=
  List.filterMap_append

theorem placeholders_intercalate {sep : Token} (noPlaceholder : sep.placeholder? = none)
    (tss : List (List Token)) :
    placeholders (List.intercalate [sep] tss) = tss.flatMap placeholders := by
  induction tss with
  | nil => rfl
  | cons ts tss ih =>
    cases tss with
    | nil => simp
    | cons us tss => simp [List.intercalate_cons_cons, noPlaceholder, ih]

@[simp] theorem placeholders_columnTokens (c : Column) : placeholders (columnTokens c) = [] := by
  rw [columnTokens, placeholders_intercalate rfl, List.flatMap_eq_nil_iff]
  intro ts member
  obtain ⟨s, _, rfl⟩ := List.mem_map.mp member
  rfl

@[simp] theorem placeholders_argTokens (style : Style) (args : List Nat) :
    placeholders (argTokens style args) = args.map style.placeholder := by
  rw [argTokens, placeholders_intercalate rfl, List.flatMap_map]
  induction args with
  | nil => rfl
  | cons n args ih => exact congrArg (style.placeholder n :: ·) ih

namespace Condition

mutual

theorem placeholders_tokens (style : Style) : ∀ c : Condition,
    placeholders (c.tokens style) = c.args.map style.placeholder
  | .always true | .always false => rfl
  | .all cs | .notAll cs => by
    have members := placeholders_intercalate (Token.placeholder?_word "AND") (tokensEach style cs)
    rw [placeholders_tokensEach style cs] at members
    simp [tokens, args, members]
  | .any cs | .notAny cs => by
    have members := placeholders_intercalate (Token.placeholder?_word "OR") (tokensEach style cs)
    rw [placeholders_tokensEach style cs] at members
    simp [tokens, args, members]
  | .isNull c | .isNotNull c => by simp [tokens, args]
  | .compare c _ arg | .like c arg | .matchesRegex c arg => by simp [tokens, args]
  | .isIn c as | .isNotIn c as | .holds c as => by simp [tokens, args]

theorem placeholders_tokensEach (style : Style) : ∀ cs : List Condition,
    (tokensEach style cs).flatMap placeholders = (argsEach cs).map style.placeholder
  | [] => rfl
  | c :: cs => by
    rw [tokensEach, argsEach, List.flatMap_cons, placeholders_tokens style c,
      placeholders_tokensEach style cs, List.map_append]

end

end Condition

/-! ### Statements -/

/-- The text has tokens, and these are its placeholders. -/
def HasPlaceholders (s : String) (ps : List String) : Prop :=
  ∃ ts, lex s = some ts ∧ placeholders ts = ps

theorem HasPlaceholders.append {s t : String} {ps qs : List String} (left : HasPlaceholders s ps)
    (separate : Separate t.toList) (right : HasPlaceholders t qs) :
    HasPlaceholders (s ++ t) (ps ++ qs) := by
  obtain ⟨ts, lexed, rfl⟩ := left
  obtain ⟨us, lexed', rfl⟩ := right
  exact ⟨ts ++ us, lex_append lexed separate lexed', placeholders_append ts us⟩

theorem Condition.hasPlaceholders (style : Style) (c : Condition) :
    HasPlaceholders (c.text style) (c.args.map style.placeholder) :=
  ⟨c.tokens style, c.lex_text style, c.placeholders_tokens style⟩

namespace Clauses

/-- A clause adds placeholders to a statement, and does not run into what stands before it. -/
structure Adds (s : String) (ps : List String) : Prop where
  separate : Separate s.toList
  has : HasPlaceholders s ps

theorem adds_nothing : Adds "" [] := ⟨by decide, [], rfl, rfl⟩

theorem adds_joint {mid t : String} {ms ts : List Token} (joint : Joint mid ms)
    (noPlaceholder : placeholders ms = []) (lexed : lex t = some ts) :
    Adds (mid ++ t) (placeholders ts) := by
  refine ⟨joint.separate t, ms ++ ts, lex_append_of_run joint.reads lexed, ?_⟩
  rw [placeholders_append, noPlaceholder, List.nil_append]

theorem adds_where (style : Style) (c : Condition) :
    Adds (whereText style c) (c.args.map style.placeholder) := by
  have joint : Joint " WHERE " [.word "WHERE"] := ⟨by decide, rfl⟩
  have clause := adds_joint joint rfl (c.lex_text style)
  rw [c.placeholders_tokens style] at clause
  cases c with
  | always b =>
    cases b with
    -- the clause is dropped; the condition has no arguments either
    | true => exact adds_nothing
    | false => exact clause
  | _ => exact clause

def criterionTokens (c : SortField) : List Token :=
  columnTokens (columnOf (Path.ofDotted c.key)) ++
    [if c.order < 0 then .word "DESC" else .word "ASC"]

theorem lex_criterion (c : SortField) : lex (criterionText c) = some (criterionTokens c) := by
  unfold criterionText criterionTokens
  split
  · exact lex_append (lex_column _) (by decide) (by decide)
  · exact lex_append (lex_column _) (by decide) (by decide)

theorem adds_order (criteria : List SortField) : Adds (orderText criteria) [] := by
  unfold orderText
  split
  · exact adds_nothing
  · have joint : Joint " ORDER BY " [.word "ORDER", .word "BY"] := ⟨by decide, rfl⟩
    have comma : Joint ", " [.mark ','] := ⟨by decide, rfl⟩
    have each : List.Forall₂ (fun s ts => lex s = some ts) (criteria.map criterionText)
        (criteria.map criterionTokens) := by
      rw [List.forall₂_map_left_iff, List.forall₂_map_right_iff, List.forall₂_same]
      exact fun c _ => lex_criterion c
    have clause := adds_joint joint rfl (lex_intercalate comma each)
    rw [placeholders_intercalate rfl] at clause
    have none : (criteria.map criterionTokens).flatMap placeholders = [] := by
      rw [List.flatMap_eq_nil_iff]
      intro ts member
      obtain ⟨c, _, rfl⟩ := List.mem_map.mp member
      unfold criterionTokens
      split <;> simp
    rwa [none] at clause

theorem adds_number {mid : String} {ms : List Token} (joint : Joint mid ms)
    (noPlaceholder : placeholders ms = []) {n : Int} (positive : 0 < n) :
    Adds (mid ++ toString n) [] := by
  obtain ⟨k, rfl⟩ := Int.eq_ofNat_of_zero_le (Int.le_of_lt positive)
  exact adds_joint joint noPlaceholder (lex_toString k)

theorem adds_limit (style : Style) (m : Modifiers) : Adds (limitText style m) [] := by
  unfold limitText
  split
  · rename_i positive
    exact adds_number ⟨by decide, rfl⟩ rfl positive
  · split
    · exact ⟨by decide, [.word "LIMIT", .sign "-", .word "1"], by decide, rfl⟩
    · exact adds_nothing

theorem adds_offset (m : Modifiers) : Adds (offsetText m) [] := by
  unfold offsetText
  split
  · rename_i positive
    exact adds_number ⟨by decide, rfl⟩ rfl positive
  · exact adds_nothing

end Clauses

theorem hasPlaceholders_clauses {style : Style} {base : String} (clauses : Clauses)
    (plain : HasPlaceholders base []) :
    HasPlaceholders (String.ofList (Unicode.trimSpace base.toList) ++ clauses.text style)
      (clauses.filter.args.map style.placeholder) := by
  have trimmed : HasPlaceholders (String.ofList (Unicode.trimSpace base.toList)) [] := by
    obtain ⟨ts, lexed, none⟩ := plain
    exact ⟨ts, (lex_trimSpace base).trans lexed, none⟩
  have filter := Clauses.adds_where style clauses.filter
  have order := Clauses.adds_order clauses.modifiers.sort
  have limit := Clauses.adds_limit style clauses.modifiers
  have offset := Clauses.adds_offset clauses.modifiers
  have whole := ((trimmed.append filter.separate filter.has).append order.separate order.has
    |>.append limit.separate limit.has).append offset.separate offset.has
  simpa [Clauses.text, String.append_assoc] using whole

/-! ### Named arguments -/

namespace Fragment

theorem nameArgs_keys (n : Nat) (vs : List Value) :
    (nameArgs n vs).map Prod.fst = (List.range' n vs.length).map fun i => "p" ++ toString i := by
  induction vs generalizing n with
  | nil => rfl
  | cons v vs ih => rw [nameArgs, List.map_cons, ih, List.length_cons, List.range'_succ, List.map_cons]

theorem mem_nameArgs {n : Nat} {vs : List Value} {name : String} {v : Value} :
    (name, v) ∈ nameArgs n vs ↔ ∃ i, vs[i]? = some v ∧ name = "p" ++ toString (n + i) := by
  induction vs generalizing n with
  | nil => simp [nameArgs]
  | cons w vs ih =>
    rw [nameArgs, List.mem_cons, ih]
    constructor
    · rintro (same | ⟨i, found, named⟩)
      · obtain ⟨rfl, rfl⟩ := Prod.mk.inj same
        exact ⟨0, rfl, rfl⟩
      · exact ⟨i + 1, found, by rw [named, Nat.add_assoc, Nat.add_comm 1]⟩
    · rintro ⟨i, found, rfl⟩
      cases i with
      | zero =>
        obtain rfl := Option.some.inj found
        exact .inl rfl
      | succ i => exact .inr ⟨i, found, by rw [Nat.add_assoc, Nat.add_comm 1]⟩

theorem nameArgs_distinct (n : Nat) (vs : List Value) : ((nameArgs n vs).map Prod.fst).Nodup := by
  rw [nameArgs_keys]
  exact List.Nodup.map (append_toString_injective "p") List.nodup_range'

theorem mem_namedArgs {f : Fragment} {name : String} {v : Value} :
    (name, v) ∈ f.namedArgs ↔ ∃ i, f.args[i]? = some v ∧ name = "p" ++ toString (i + 1) := by
  have sorted := Value.sortEntries_perm (nameArgs_distinct 1 f.args)
  rw [namedArgs, sorted.mem_iff, mem_nameArgs]
  simp only [Nat.add_comm 1]

theorem namedArgs_distinct (f : Fragment) : (f.namedArgs.map Prod.fst).Nodup := by
  have sorted := Value.sortEntries_perm (nameArgs_distinct 1 f.args)
  exact (sorted.map Prod.fst).nodup_iff.mpr (nameArgs_distinct 1 f.args)

end Fragment

/-! ### Alignment -/

/-- The placeholders of the text are those of the arguments one, two and so on. -/
def Aligned (style : Style) (text : String) (args : List Value) : Prop :=
  HasPlaceholders text ((List.range' 1 args.length).map style.placeholder)

theorem select_eq_ok {style : Style} {c : Compiler Bindings Condition Fragment} {base : String}
    {n : Node} {o : Overrides} {st : Statement} (selected : select style c base n o = .ok st) :
    ∃ filter m f, n.split = .ok (filter, m) ∧ c.compile filter = .ok f ∧
      st = ⟨String.ofList (Unicode.trimSpace base.toList) ++
        Clauses.text style ⟨f.condition, m.override o⟩, f.args⟩ := by
  unfold select at selected
  cases split : n.split with
  | error e =>
    rw [split] at selected
    cases selected
  | ok parts =>
    obtain ⟨filter, m⟩ := parts
    rw [split] at selected
    cases compiled : c.compile filter with
    | error e =>
      simp only [Except.mapError, Bind.bind, Except.bind, compiled] at selected
      cases selected
    | ok f =>
      simp only [Except.mapError, Bind.bind, Except.bind, compiled] at selected
      exact ⟨filter, m, f, rfl, compiled, (Except.ok.inj selected).symm⟩

theorem compile_args {style : Style} {depth : Int} {q : Node} {f : Fragment}
    (compiled : ((compiler style).withDepth depth).compile q = .ok f) :
    f.args = operands q ∧ f.condition.args = List.range' 1 f.args.length := by
  obtain ⟨proper, rfl, arity⟩ := compile_filterExpr compiled
  refine ⟨rfl, ?_⟩
  rw [(Expr.numbers 1 proper).args_eq, arity]

/-- In every style, the arguments of a filter are its operands in document order, and the placeholders
of its text refer to each of them once and in order. So they do in a statement that the filter is
added to, even if it is left out because it always holds. The named arguments are those that named
placeholders refer to. -/
theorem arguments_aligned (style : Style) (depth : Int) :
    (∀ {q : Node} {f : Fragment}, ((compiler style).withDepth depth).compile q = .ok f →
      f.args = operands q ∧ Aligned style (f.text style) f.args ∧
        (f.text style = "TRUE" → f.args = []) ∧ (f.namedArgs.map Prod.fst).Nodup ∧
          ∀ name v, (name, v) ∈ f.namedArgs ↔
            ∃ i, f.args[i]? = some v ∧ name = "p" ++ toString (i + 1)) ∧
      ∀ {base : String} {q : Node} {o : Overrides} {st : Statement}, HasPlaceholders base [] →
        select style ((compiler style).withDepth depth) base q o = .ok st →
          ∃ filter m, q.split = .ok (filter, m) ∧ st.args = operands filter ∧
            Aligned style st.text st.args := by
  constructor
  · intro q f compiled
    obtain ⟨bound, numbers⟩ := compile_args compiled
    have aligned : Aligned style (f.text style) f.args := by
      rw [Aligned, ← numbers]
      exact f.condition.hasPlaceholders style
    refine ⟨bound, aligned, fun always => ?_, f.namedArgs_distinct, fun name v => f.mem_namedArgs⟩
    -- the text `TRUE` has no placeholders, and so there are no arguments
    obtain ⟨ts, lexed, found⟩ := aligned
    rw [always] at lexed
    obtain rfl : [.word "TRUE"] = ts := Option.some.inj lexed
    simpa using found.symm
  · intro base q o st plain selected
    obtain ⟨filter, m, f, split, compiled, rfl⟩ := select_eq_ok selected
    obtain ⟨bound, numbers⟩ := compile_args compiled
    refine ⟨filter, m, split, bound, ?_⟩
    rw [Aligned, ← numbers]
    exact hasPlaceholders_clauses ⟨f.condition, m.override o⟩ plain

theorem arguments_aligned_quoted :
    let q := Node.mapping [("a @p7 ?", .mapping [("$gte", .scalar (.double (.zero false))),
      ("$ne", .scalar .null)]), ("b", .mapping [("$in", .sequence [.scalar .null,
        .scalar (.text "x")])])]
    ∃ f st, ((compiler .named).withDepth 2).compile q = .ok f ∧
      select .named ((compiler .named).withDepth 2) "SELECT * FROM t" q { limit := some 5 } = .ok st ∧
        Aligned .named (f.text .named) f.args ∧ Aligned .named st.text st.args := by
  intro q
  obtain ⟨f, compiled⟩ : ∃ f, ((compiler .named).withDepth 2).compile q = .ok f := ⟨_, rfl⟩
  obtain ⟨st, selected⟩ : ∃ st, select .named ((compiler .named).withDepth 2) "SELECT * FROM t" q
      { limit := some 5 } = .ok st := ⟨_, rfl⟩
  have plain : HasPlaceholders "SELECT * FROM t" [] :=
    ⟨[.word "SELECT", .sign "*", .word "FROM", .word "t"], by decide, rfl⟩
  obtain ⟨ofFilter, ofStatement⟩ := arguments_aligned .named 2
  obtain ⟨_, _, _, _, aligned⟩ := ofStatement plain selected
  exact ⟨f, st, compiled, selected, (ofFilter compiled).2.1, aligned⟩

end FilterQuery.Sql
