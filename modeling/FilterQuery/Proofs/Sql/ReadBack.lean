import FilterQuery.Proofs.Sql.Parser

/-!
# Conditions and their text

The text of a condition is cut into the tokens of the condition (`lex_text`), and these are read as
the expression that the condition stands for (`parse_text`): names, numbers of arguments and nesting
make no difference to it.
-/

namespace FilterQuery.Sql

open Lexer

/-! ### From text to tokens -/

theorem lex_intercalate {sep : String} {t : Token} (joint : Joint sep [t]) {xs : List String}
    {tss : List (List Token)} (each : List.Forall₂ (fun s ts => lex s = some ts) xs tss) :
    lex (sep.intercalate xs) = some (List.intercalate [t] tss) := by
  induction each with
  | nil => rfl
  | cons first rest ih =>
    cases rest with
    | nil => simpa using first
    | cons second rest =>
      rw [String.intercalate_cons_cons]
      simpa [List.intercalate_cons_cons] using lex_between first joint ih

def columnTokens (c : Column) : List Token :=
  List.intercalate [.mark '.'] (c.map fun s => [.name s])

theorem lex_column (c : Column) : lex c.text = some (columnTokens c) := by
  refine lex_intercalate ⟨by decide, rfl⟩ ?_
  rw [List.forall₂_map_left_iff, List.forall₂_map_right_iff, List.forall₂_same]
  exact fun s _ => lex_quoteName s

def argTokens (style : Style) (args : List Nat) : List Token :=
  List.intercalate [.mark ','] (args.map fun n => [.placeholder (style.placeholder n)])

theorem lex_argTexts (style : Style) (args : List Nat) :
    lex (Condition.argTexts style args) = some (argTokens style args) := by
  refine lex_intercalate ⟨by decide, rfl⟩ ?_
  rw [List.forall₂_map_left_iff, List.forall₂_map_right_iff, List.forall₂_same]
  exact fun n _ => lex_placeholder style n

theorem lex_sign (sign : Sign) : lex sign.text = some [.sign sign.text] := by
  cases sign <;> decide

namespace Condition

mutual

def tokens (style : Style) : Condition → List Token
  | .always true => [.word "TRUE"]
  | .always false => [.word "FALSE"]
  | .all cs => .mark '(' :: (List.intercalate [.word "AND"] (tokensEach style cs) ++ [.mark ')'])
  | .any cs => .mark '(' :: (List.intercalate [.word "OR"] (tokensEach style cs) ++ [.mark ')'])
  | .notAll cs =>
    .word "NOT" :: .mark '(' :: (List.intercalate [.word "AND"] (tokensEach style cs) ++ [.mark ')'])
  | .notAny cs =>
    .word "NOT" :: .mark '(' :: (List.intercalate [.word "OR"] (tokensEach style cs) ++ [.mark ')'])
  | .compare c sign arg => columnTokens c ++ [.sign sign.text, .placeholder (style.placeholder arg)]
  | .isNull c => columnTokens c ++ [.word "IS", .word "NULL"]
  | .isNotNull c => columnTokens c ++ [.word "IS", .word "NOT", .word "NULL"]
  | .isIn c args =>
    columnTokens c ++ .word "IN" :: .mark '(' :: (argTokens style args ++ [.mark ')'])
  | .isNotIn c args =>
    columnTokens c ++ .word "NOT" :: .word "IN" :: .mark '(' :: (argTokens style args ++ [.mark ')'])
  | .holds c args =>
    columnTokens c ++ .sign "@>" :: .word "ARRAY" :: .mark '[' :: (argTokens style args ++ [.mark ']'])
  | .like c arg => columnTokens c ++ [.word "LIKE", .placeholder (style.placeholder arg)]
  | .matchesRegex c arg => columnTokens c ++ [.sign "~", .placeholder (style.placeholder arg)]

def tokensEach (style : Style) : List Condition → List (List Token)
  | [] => []
  | c :: cs => c.tokens style :: tokensEach style cs

end

theorem tokensEach_eq (style : Style) (cs : List Condition) :
    tokensEach style cs = cs.map (tokens style) := by
  induction cs with
  | nil => rfl
  | cons c cs ih => rw [tokensEach, ih, List.map_cons]

theorem joined_eq (style : Style) (sep : String) (cs : List Condition) :
    joined style sep cs = sep.intercalate (cs.map (text style)) := by
  induction cs with
  | nil => simp [joined]
  | cons c cs ih =>
    cases cs with
    | nil => simp [joined]
    | cons d ds =>
      simp only [joined, ih, List.map_cons, String.intercalate_cons_cons]

theorem lex_group {style : Style} {opening sep : String} {os : List Token} {t : Token}
    {cs : List Condition} (opened : run .none opening.toList = (os, .none)) (joint : Joint sep [t])
    (each : ∀ c ∈ cs, lex (c.text style) = some (c.tokens style)) :
    lex (opening ++ joined style sep cs ++ ")") =
      some (os ++ List.intercalate [t] (tokensEach style cs) ++ [.mark ')']) := by
  have inside : lex (joined style sep cs) = some (List.intercalate [t] (tokensEach style cs)) := by
    rw [joined_eq, tokensEach_eq]
    refine lex_intercalate joint ?_
    rw [List.forall₂_map_left_iff, List.forall₂_map_right_iff, List.forall₂_same]
    exact each
  exact lex_append (lex_append_of_run opened inside) (by decide) rfl

theorem lex_list (style : Style) (c : Column) (args : List Nat) {mid closing : String}
    {ms cs : List Token} (joint : Joint mid ms) (separate : Separate closing.toList)
    (closed : lex closing = some cs) :
    lex (c.text ++ mid ++ argTexts style args ++ closing) =
      some (columnTokens c ++ ms ++ argTokens style args ++ cs) :=
  lex_append (lex_between (lex_column c) joint (lex_argTexts style args)) separate closed

theorem opens_group : run .none "(".toList = ([.mark '('], .none) := rfl

theorem opens_negation : run .none "NOT (".toList = ([.word "NOT", .mark '('], .none) := rfl

theorem joint_and : Joint " AND " [.word "AND"] := ⟨by decide, rfl⟩

theorem joint_or : Joint " OR " [.word "OR"] := ⟨by decide, rfl⟩

mutual

theorem lex_text (style : Style) : ∀ c : Condition, lex (c.text style) = some (c.tokens style)
  | .always true => (rfl : lex "TRUE" = some [.word "TRUE"])
  | .always false => (rfl : lex "FALSE" = some [.word "FALSE"])
  | .all cs => by
    rw [text, lex_group opens_group joint_and (lex_texts style cs)]
    simp [tokens]
  | .any cs => by
    rw [text, lex_group opens_group joint_or (lex_texts style cs)]
    simp [tokens]
  | .notAll cs => by
    rw [text, lex_group opens_negation joint_and (lex_texts style cs)]
    simp [tokens]
  | .notAny cs => by
    rw [text, lex_group opens_negation joint_or (lex_texts style cs)]
    simp [tokens]
  | .compare c sign arg => by
    have blank : Joint " " [] := ⟨by decide, rfl⟩
    rw [text, lex_between (lex_between (lex_column c) blank (lex_sign sign)) blank
      (lex_placeholder style arg)]
    simp [tokens]
  | .isNull c => by
    have null : lex " IS NULL" = some [.word "IS", .word "NULL"] := by decide
    rw [text, lex_append (lex_column c) (by decide) null, tokens]
  | .isNotNull c => by
    have notNull : lex " IS NOT NULL" = some [.word "IS", .word "NOT", .word "NULL"] := by decide
    rw [text, lex_append (lex_column c) (by decide) notNull, tokens]
  | .isIn c args => by
    have joint : Joint " IN (" [.word "IN", .mark '('] := ⟨by decide, rfl⟩
    have closed : lex ")" = some [.mark ')'] := by decide
    rw [text, lex_list style c args joint (by decide) closed]
    simp [tokens]
  | .isNotIn c args => by
    have joint : Joint " NOT IN (" [.word "NOT", .word "IN", .mark '('] := ⟨by decide, rfl⟩
    have closed : lex ")" = some [.mark ')'] := by decide
    rw [text, lex_list style c args joint (by decide) closed]
    simp [tokens]
  | .holds c args => by
    have joint : Joint " @> ARRAY[" [.sign "@>", .word "ARRAY", .mark '['] := ⟨by decide, rfl⟩
    have closed : lex "]" = some [.mark ']'] := by decide
    rw [text, lex_list style c args joint (by decide) closed]
    simp [tokens]
  | .like c arg => by
    have joint : Joint " LIKE " [.word "LIKE"] := ⟨by decide, rfl⟩
    rw [text, lex_between (lex_column c) joint (lex_placeholder style arg)]
    simp [tokens]
  | .matchesRegex c arg => by
    have joint : Joint " ~ " [.sign "~"] := ⟨by decide, rfl⟩
    rw [text, lex_between (lex_column c) joint (lex_placeholder style arg)]
    simp [tokens]

theorem lex_texts (style : Style) :
    ∀ cs : List Condition, ∀ c ∈ cs, lex (c.text style) = some (c.tokens style)
  | [] => by simp
  | c :: cs => List.forall_mem_cons.mpr ⟨lex_text style c, lex_texts style cs⟩

end

end Condition

/-! ### From tokens to expressions -/

namespace Parser

open FilterQuery.Parser

theorem column_tokens {c : Column} (nonempty : c ≠ []) {rest : List Token}
    (done : rest.head? ≠ some (.mark '.')) : column (columnTokens c ++ rest) = some (c, rest) := by
  have read := sepBy_map (fun s => [Token.name s]) id (fun _ => trivial) nonempty
    (fun _ _ _ (_ : True) => (rfl : name _ = _)) trivial done
  rwa [List.map_id] at read

theorem placeholders_tokens (style : Style) {args : List Nat} (nonempty : args ≠ []) {close : Char}
    (different : close ≠ ',') (rest : List Token) :
    placeholders close (argTokens style args ++ [.mark close] ++ rest) = some (args.length, rest) := by
  rw [List.append_assoc]
  have done : (Token.mark close :: rest).head? ≠ some (.mark ',') := by simpa using different
  have read := sepBy_map (fun n => [Token.placeholder (style.placeholder n)]) (fun _ => ())
    (fun _ => trivial) nonempty (fun _ _ _ (_ : True) => (rfl : placeholder _ = _)) trivial done
  simp only [placeholders, argTokens, List.singleton_append, read]
  simp [expect]

theorem columnTest_tokens {c : Column} (nonempty : c ≠ []) {ts rest : List Token} {t : Test}
    (done : ts.head? ≠ some (.mark '.')) (read : test ts = some (t, rest)) :
    columnTest (columnTokens c ++ ts) = some (.test c t, rest) := by
  simp [columnTest, column_tokens nonempty done, read]

end Parser

namespace Condition

mutual

def expr : Condition → Expr
  | .always b => .const b
  | .all cs => .conj (exprs cs)
  | .any cs => .disj (exprs cs)
  | .notAll cs => .not (.conj (exprs cs))
  | .notAny cs => .not (.disj (exprs cs))
  | .compare c sign _ => .test c (.compare sign)
  | .isNull c => .test c .isNull
  | .isNotNull c => .test c .isNotNull
  | .isIn c args => .test c (.isIn args.length)
  | .isNotIn c args => .test c (.isNotIn args.length)
  | .holds c args => .test c (.holds args.length)
  | .like c _ => .test c .like
  | .matchesRegex c _ => .test c .matchesRegex

def exprs : List Condition → List Expr
  | [] => []
  | c :: cs => c.expr :: exprs cs

end

theorem exprs_eq (cs : List Condition) : exprs cs = cs.map expr := by
  induction cs with
  | nil => rfl
  | cons c cs ih => rw [exprs, ih, List.map_cons]

mutual

/-- Columns have a name, and there are no empty lists. -/
def WellFormed : Condition → Prop
  | .always _ => True
  | .all cs | .any cs | .notAll cs | .notAny cs => cs ≠ [] ∧ EachWellFormed cs
  | .compare c _ _ | .isNull c | .isNotNull c | .like c _ | .matchesRegex c _ => c ≠ []
  | .isIn c args | .isNotIn c args | .holds c args => c ≠ [] ∧ args ≠ []

def EachWellFormed : List Condition → Prop
  | [] => True
  | c :: cs => c.WellFormed ∧ EachWellFormed cs

end

end Condition

namespace Parser

open Condition FilterQuery.Parser

variable {style : Style} {item : Parser Token Expr} {cs : List Condition}

theorem disjunction_and (nonempty : cs ≠ [])
    (each : ∀ c ∈ cs, ∀ rest, item (c.tokens style ++ rest) = some (c.expr, rest)) {rest : List Token}
    (notAnd : rest.head? ≠ some (.word "AND")) (notOr : rest.head? ≠ some (.word "OR")) :
    disjunction item (List.intercalate [.word "AND"] (tokensEach style cs) ++ rest) =
      some (.conj (exprs cs), rest) := by
  rw [tokensEach_eq, exprs_eq]
  have members := sepBy_map (tokens style) expr (fun _ => trivial) nonempty
    (fun c member rest (_ : True) => each c member rest) trivial notAnd
  have conjoined : conjunction item (List.intercalate [.word "AND"] (cs.map (tokens style)) ++ rest) =
      some (.conj (cs.map expr), rest) := by
    simp only [conjunction, members, Option.map_some]
  simp only [disjunction, sepBy_single conjoined notOr, Option.map_some, Expr.disj]

theorem disjunction_or (nonempty : cs ≠ [])
    (each : ∀ c ∈ cs, ∀ rest, item (c.tokens style ++ rest) = some (c.expr, rest)) {rest : List Token}
    (notAnd : rest.head? ≠ some (.word "AND")) (notOr : rest.head? ≠ some (.word "OR")) :
    disjunction item (List.intercalate [.word "OR"] (tokensEach style cs) ++ rest) =
      some (.disj (exprs cs), rest) := by
  rw [tokensEach_eq, exprs_eq]
  -- each member is read as a conjunction of one, which ends where no `AND` follows
  have member : ∀ c ∈ cs, ∀ rest : List Token, rest.head? ≠ some (.word "AND") →
      conjunction item (c.tokens style ++ rest) = some (c.expr, rest) := by
    intro c member rest notAnd
    simp only [conjunction, sepBy_single (each c member rest) notAnd, Option.map_some, Expr.conj]
  have members := sepBy_map (tokens style) expr (fun _ => by simp) nonempty member notAnd notOr
  simp only [disjunction, members, Option.map_some]

/-- The tokens are read as the expression, whatever follows, if the depth is at least their number. -/
def Reads (ts : List Token) (e : Expr) : Prop :=
  ∀ depth, ts.length ≤ depth → ∀ rest, unary depth (ts ++ rest) = some (e, rest)

theorem reads_test {c : Column} (nonempty : c ≠ []) {ts : List Token} {t : Test}
    (done : ∀ rest, (ts ++ rest).head? ≠ some (.mark '.'))
    (read : ∀ rest, test (ts ++ rest) = some (t, rest)) : Reads (columnTokens c ++ ts) (.test c t) := by
  intro depth enough rest
  obtain ⟨s, c, rfl⟩ := List.exists_cons_of_ne_nil nonempty
  -- a name comes first, so that the test is neither a group nor a negation
  obtain ⟨others, begins⟩ : ∃ others, columnTokens (s :: c) = .name s :: others := by
    cases c <;> exact ⟨_, rfl⟩
  rw [List.append_assoc, ← columnTest_tokens nonempty (done rest) (read rest)]
  rw [begins] at enough ⊢
  cases depth with
  | zero => simp at enough
  | succ depth => rfl

theorem reads_group {sep : Token} {e : Expr} (members : ∀ c ∈ cs, Reads (c.tokens style) c.expr)
    (joins : ∀ {item : Parser Token Expr},
      (∀ c ∈ cs, ∀ rest, item (c.tokens style ++ rest) = some (c.expr, rest)) → ∀ rest,
        disjunction item (List.intercalate [sep] (tokensEach style cs) ++ .mark ')' :: rest) =
          some (e, .mark ')' :: rest)) :
    Reads (.mark '(' :: (List.intercalate [sep] (tokensEach style cs) ++ [.mark ')'])) e := by
  intro depth enough rest
  cases depth with
  | zero => simp at enough
  | succ depth =>
    simp only [List.length_cons, List.length_append] at enough
    -- the parentheses pay for the level that the members lose
    have each : ∀ c ∈ cs, ∀ rest, unary depth (c.tokens style ++ rest) = some (c.expr, rest) := by
      intro c member
      have bound := mem_length_le_intercalate sep
        (tokensEach_eq style cs ▸ List.mem_map_of_mem member : c.tokens style ∈ tokensEach style cs)
      exact members c member depth (by omega)
    have inside := joins each rest
    simp [unary, inside, expect]

theorem reads_all (nonempty : cs ≠ []) (members : ∀ c ∈ cs, Reads (c.tokens style) c.expr) :
    Reads (.mark '(' :: (List.intercalate [.word "AND"] (tokensEach style cs) ++ [.mark ')']))
      (.conj (exprs cs)) :=
  reads_group members fun each _ => disjunction_and nonempty each (by simp) (by simp)

theorem reads_any (nonempty : cs ≠ []) (members : ∀ c ∈ cs, Reads (c.tokens style) c.expr) :
    Reads (.mark '(' :: (List.intercalate [.word "OR"] (tokensEach style cs) ++ [.mark ')']))
      (.disj (exprs cs)) :=
  reads_group members fun each _ => disjunction_or nonempty each (by simp) (by simp)

theorem reads_not {ts : List Token} {e : Expr} (inside : Reads ts e) :
    Reads (.word "NOT" :: ts) (.not e) := by
  intro depth enough rest
  cases depth with
  | zero => simp at enough
  | succ depth =>
    have read := inside depth (by simpa using enough) rest
    simp [unary, read]

mutual

theorem reads_tokens (style : Style) :
    ∀ c : Condition, c.WellFormed → Reads (c.tokens style) c.expr
  | .always true, _ => by
    rintro (_ | depth) enough rest
    · simp [tokens] at enough
    · rfl
  | .always false, _ => by
    rintro (_ | depth) enough rest
    · simp [tokens] at enough
    · rfl
  | .all cs, wf => by
    rw [WellFormed] at wf
    rw [tokens, expr]
    exact reads_all wf.1 (reads_tokensEach style cs wf.2)
  | .any cs, wf => by
    rw [WellFormed] at wf
    rw [tokens, expr]
    exact reads_any wf.1 (reads_tokensEach style cs wf.2)
  | .notAll cs, wf => by
    rw [WellFormed] at wf
    rw [tokens, expr]
    exact reads_not (reads_all wf.1 (reads_tokensEach style cs wf.2))
  | .notAny cs, wf => by
    rw [WellFormed] at wf
    rw [tokens, expr]
    exact reads_not (reads_any wf.1 (reads_tokensEach style cs wf.2))
  | .compare c sign arg, wf => by
    rw [WellFormed] at wf
    rw [tokens, expr]
    exact reads_test wf (by simp) (fun rest => by cases sign <;> rfl)
  | .isNull c, wf => by
    rw [WellFormed] at wf
    rw [tokens, expr]
    exact reads_test wf (by simp) (fun rest => rfl)
  | .isNotNull c, wf => by
    rw [WellFormed] at wf
    rw [tokens, expr]
    exact reads_test wf (by simp) (fun rest => rfl)
  | .isIn c args, wf => by
    rw [WellFormed] at wf
    rw [tokens, expr]
    refine reads_test wf.1 (by simp) fun rest => ?_
    have read := placeholders_tokens style wf.2 (by decide : ')' ≠ ',') rest
    exact congrArg (Option.map fun (n, ts) => (Test.isIn n, ts)) read
  | .isNotIn c args, wf => by
    rw [WellFormed] at wf
    rw [tokens, expr]
    refine reads_test wf.1 (by simp) fun rest => ?_
    have read := placeholders_tokens style wf.2 (by decide : ')' ≠ ',') rest
    exact congrArg (Option.map fun (n, ts) => (Test.isNotIn n, ts)) read
  | .holds c args, wf => by
    rw [WellFormed] at wf
    rw [tokens, expr]
    refine reads_test wf.1 (by simp) fun rest => ?_
    have read := placeholders_tokens style wf.2 (by decide : ']' ≠ ',') rest
    exact congrArg (Option.map fun (n, ts) => (Test.holds n, ts)) read
  | .like c arg, wf => by
    rw [WellFormed] at wf
    rw [tokens, expr]
    exact reads_test wf (by simp) (fun rest => rfl)
  | .matchesRegex c arg, wf => by
    rw [WellFormed] at wf
    rw [tokens, expr]
    exact reads_test wf (by simp) (fun rest => rfl)

theorem reads_tokensEach (style : Style) :
    ∀ cs : List Condition, EachWellFormed cs → ∀ c ∈ cs, Reads (c.tokens style) c.expr
  | [], _ => by simp
  | c :: cs, wf => by
    rw [EachWellFormed] at wf
    exact List.forall_mem_cons.mpr ⟨reads_tokens style c wf.1, reads_tokensEach style cs wf.2⟩

end

end Parser

/-- The text of a condition is read back as the expression that the condition stands for. -/
theorem Condition.parse_text (style : Style) {c : Condition} (wf : c.WellFormed) :
    parse (c.text style) = some c.expr := by
  have read := Parser.reads_tokens style c wf _ (Nat.le_refl _) []
  rw [List.append_nil] at read
  have whole : Parser.disjunction (Parser.unary (c.tokens style).length) (c.tokens style) =
      some (c.expr, []) := by
    have conjoined : Parser.conjunction (Parser.unary (c.tokens style).length) (c.tokens style) =
        some (c.expr, []) := by
      simp only [Parser.conjunction, FilterQuery.Parser.sepBy_single read (by simp), Option.map_some, Expr.conj]
    simp only [Parser.disjunction, FilterQuery.Parser.sepBy_single conjoined (by simp), Option.map_some, Expr.disj]
  simp [parse, c.lex_text style, whole]

end FilterQuery.Sql
