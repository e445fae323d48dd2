import FilterQuery.Proofs.Query.Paging
import FilterQuery.Proofs.Sql.Arguments
import FilterQuery.Search.Command

/-!
# Pages in statements and searches

The skip and the limit of a query only change the last clauses of a statement, and these mean the
`window` of the rows that the query asks for in memory (`select_paged`). In a search they only change
the page, which is that window except that a negative number is passed on beside a positive one
(`command_paged`, `Window.ofModifiers_eq_ofPage_iff`).
-/

namespace FilterQuery

/-- The same modifiers with another skip and limit. -/
def Overrides.paged (o : Overrides) (skip limit : Int) : Overrides :=
  { o with skip := some skip, limit := some limit }

namespace Sql

open Lexer

/-! ### Clauses of a page -/

/-- What the clauses of a page say: how many rows are kept, if they are limited, and how many are left
out before. -/
structure PageClauses where
  limit : Option Nat
  offset : Nat

def PageClauses.rows {α : Type} (p : PageClauses) (rows : List α) : List α :=
  match p.limit with
  | some n => (rows.drop p.offset).take n
  | none => rows.drop p.offset

def decimal? (w : String) : Option Nat :=
  if w.toList.all Char.isDigit then some (Nat.ofDigitChars 10 w.toList 0) else none

def readOffset : List Token → Option Nat
  | [] => some 0
  | [.word "OFFSET", .word n] => decimal? n
  | _ => none

/-- Reads the clauses of a page. Outside of PostgreSQL an offset stands behind a limit only, and minus
one is no limit. -/
def readPage (style : Style) : List Token → Option PageClauses
  | .word "LIMIT" :: .word n :: ts => do return ⟨some (← decimal? n), ← readOffset ts⟩
  | .word "LIMIT" :: .sign "-" :: .word "1" :: ts =>
    if style.isPostgres then none else do return ⟨none, ← readOffset ts⟩
  | ts => if style.isPostgres || ts.isEmpty then do return ⟨none, ← readOffset ts⟩ else none

theorem decimal?_toString (n : Nat) : decimal? (toString n) = some n := by
  have digits : (toString n).toList.all Char.isDigit :=
    List.all_eq_true.mpr fun _ member => isDigit_of_mem_toString member
  rw [decimal?, if_pos digits, Nat.toString_eq_repr, Nat.toList_repr, Nat.ofDigitChars_ten_toDigits]

theorem separate_append {s t : List Char} (left : Separate s) (right : Separate t) :
    Separate (s ++ t) := by
  cases s with
  | nil => exact right
  | cons c s => exact left

namespace Clauses

def limitTokens (style : Style) (m : Modifiers) : List Token :=
  if 0 < m.limit then [.word "LIMIT", .word (toString m.limit.toNat)]
  else if 0 < m.skip ∧ !style.isPostgres then [.word "LIMIT", .sign "-", .word "1"]
  else []

def offsetTokens (m : Modifiers) : List Token :=
  if 0 < m.skip then [.word "OFFSET", .word (toString m.skip.toNat)] else []

theorem lex_number {mid w : String} (joint : Joint mid [.word w]) {n : Int} (positive : 0 < n) :
    lex (mid ++ toString n) = some [.word w, .word (toString n.toNat)] := by
  obtain ⟨k, rfl⟩ := Int.eq_ofNat_of_zero_le (Int.le_of_lt positive)
  exact lex_append_of_run joint.reads (lex_toString k)

theorem lex_limit (style : Style) (m : Modifiers) :
    lex (limitText style m) = some (limitTokens style m) := by
  unfold limitText limitTokens
  split
  · exact lex_number ⟨by decide, rfl⟩ ‹_›
  · split
    · decide
    · rfl

theorem lex_offset (m : Modifiers) : lex (offsetText m) = some (offsetTokens m) := by
  unfold offsetText offsetTokens
  split
  · exact lex_number ⟨by decide, rfl⟩ ‹_›
  · rfl

theorem readOffset_tokens (m : Modifiers) : readOffset (offsetTokens m) = some m.skip.toNat := by
  unfold offsetTokens
  split
  · exact decimal?_toString _
  · rw [Int.toNat_of_nonpos (by omega)]
    rfl

theorem readPage_tokens (style : Style) (m : Modifiers) :
    readPage style (limitTokens style m ++ offsetTokens m) =
      some ⟨if 0 < m.limit then some m.limit.toNat else none, m.skip.toNat⟩ := by
  unfold limitTokens
  split
  · simp only [List.cons_append, List.nil_append, readPage, decimal?_toString, readOffset_tokens]
    rfl
  · split
    · rename_i clauses
      have other : style.isPostgres = false := by simpa using clauses.2
      simp only [List.cons_append, List.nil_append, readPage, readOffset_tokens, other]
      rfl
    -- without a limit, there is no offset either outside of PostgreSQL
    · rename_i unlimited clauses
      have read := readOffset_tokens m
      unfold offsetTokens at read ⊢
      split
      · rename_i skips
        have postgres : style.isPostgres = true := by simpa [skips] using clauses
        rw [if_pos skips] at read
        generalize toString m.skip.toNat = digits at read
        simp [readPage, postgres, read]
      · rename_i none
        rw [if_neg none] at read
        simp [readPage, read]

end Clauses

theorem rows_eq_window {α : Type} (skip limit : Int) (rows : List α) :
    PageClauses.rows ⟨if 0 < limit then some limit.toNat else none, skip.toNat⟩ rows =
      window skip limit rows := by
  have start : (max skip 0).toNat = skip.toNat := by omega
  unfold PageClauses.rows window
  rw [start]
  by_cases limited : 0 < limit
  · simp only [if_pos limited]
  · simp only [if_neg limited]

theorem select_paged (style : Style) (c : Compiler Bindings Condition Fragment) (base : String)
    (n : Node) (o : Overrides) (skip limit : Int) :
    ∃ tail ts p,
      select style c base n (o.paged skip limit) =
        (select style c base n (o.paged 0 0)).map (fun st => { st with text := st.text ++ tail }) ∧
      lex tail = some ts ∧ Separate tail.toList ∧ readPage style ts = some p ∧
      ∀ {α : Type} (rows : List α), p.rows rows = window skip limit rows := by
  let m : Modifiers := { skip := skip, limit := limit }
  refine ⟨Clauses.limitText style m ++ Clauses.offsetText m, _, _, ?_,
    lex_append (Clauses.lex_limit style m) (Clauses.adds_offset m).separate (Clauses.lex_offset m), ?_,
    Clauses.readPage_tokens style m, rows_eq_window skip limit⟩
  · unfold select
    cases n.split with
    | error e => rfl
    | ok parts =>
      obtain ⟨filter, given⟩ := parts
      cases compiled : c.compile filter with
      | error e => simp only [Except.mapError, Bind.bind, Except.bind, compiled, Except.map]
      | ok f =>
        simp only [Except.mapError, Bind.bind, Except.bind, compiled]
        refine congrArg Except.ok ?_
        -- without a skip and a limit, the text ends with the clauses before theirs
        have unpaged : Clauses.limitText style (given.override (o.paged 0 0)) = "" ∧
            Clauses.offsetText (given.override (o.paged 0 0)) = "" := ⟨by cases style <;> rfl, rfl⟩
        simp only [Clauses.text, unpaged, String.append_empty, String.append_assoc]
        rfl
  · rw [String.toList_append]
    exact separate_append (Clauses.adds_limit style m).separate (Clauses.adds_offset m).separate

end Sql

namespace Search

/-- The page that a skip and a limit mean; if only its start is given, it has the usual size. -/
def Window.ofPage (skip limit : Int) : Option Window :=
  if skip ≤ 0 ∧ limit ≤ 0 then none
  else some ⟨max skip 0, if 0 < limit then limit else defaultPageSize⟩

theorem Window.ofModifiers_eq (m : Modifiers) :
    ofModifiers m = if m.skip ≤ 0 ∧ m.limit ≤ 0 then none
      else some ⟨m.skip, if m.limit = 0 then defaultPageSize else m.limit⟩ := by
  unfold ofModifiers
  by_cases given : 0 < m.skip ∨ 0 < m.limit
  · have some : ¬(m.skip ≤ 0 ∧ m.limit ≤ 0) := by omega
    rw [if_pos given, if_neg some]
  · have none : m.skip ≤ 0 ∧ m.limit ≤ 0 := by omega
    rw [if_neg given, if_pos none]

theorem Window.ofModifiers_eq_ofPage_iff (m : Modifiers) :
    ofModifiers m = ofPage m.skip m.limit ↔
      ¬(m.skip < 0 ∧ 0 < m.limit) ∧ ¬(m.limit < 0 ∧ 0 < m.skip) := by
  rw [ofModifiers_eq, ofPage]
  by_cases none : m.skip ≤ 0 ∧ m.limit ≤ 0
  · rw [if_pos none, if_pos none]
    exact iff_of_true rfl (by omega)
  · rw [if_neg none, if_neg none, Option.some_inj, Window.mk.injEq, defaultPageSize]
    split <;> split <;> omega

theorem command_paged (c : Compiler Params Clause Query) (index : String) (n : Node) (o : Overrides)
    (skip limit : Int) :
    command c index n (o.paged skip limit) =
      (command c index n (o.paged 0 0)).map fun cmd =>
        { cmd with window := Window.ofModifiers { skip := skip, limit := limit } } := by
  unfold command
  cases n.split with
  | error e => rfl
  | ok parts =>
    obtain ⟨filter, given⟩ := parts
    cases compiled : c.compile filter with
    | error e => simp only [Except.mapError, Bind.bind, Except.bind, compiled, Except.map]
    | ok q =>
      simp only [Except.mapError, Bind.bind, Except.bind, compiled]
      rfl

end Search

/-- In statements, in memory and in searches a skip and a limit mean the same window, but a search
passes on a negative number beside a positive one. -/
theorem windows_agree (o : Overrides) (skip limit : Int) :
    (∀ style c base n, ∃ tail ts p,
      Sql.select style c base n (o.paged skip limit) =
        (Sql.select style c base n (o.paged 0 0)).map
          (fun st => { st with text := st.text ++ tail }) ∧
      Sql.lex tail = some ts ∧ Sql.Lexer.Separate tail.toList ∧ Sql.readPage style ts = some p ∧
      ∀ {α : Type} (rows : List α), p.rows rows = window skip limit rows) ∧
    (∀ {α : Type} (rows : List α), fitsSigned skip → fitsSigned limit →
      page? skip limit rows =
        if EndsBeyond skip limit rows.length then none else some (window skip limit rows)) ∧
    ∃ page : Option Search.Window,
      (∀ c index n, Search.command c index n (o.paged skip limit) =
        (Search.command c index n (o.paged 0 0)).map fun cmd => { cmd with window := page }) ∧
      (page = none ↔ skip ≤ 0 ∧ limit ≤ 0) ∧
      (∀ w, page = some w →
        w.offset = skip ∧ w.count = if limit = 0 then Search.defaultPageSize else limit) ∧
      (page = Search.Window.ofPage skip limit ↔
        ¬(skip < 0 ∧ 0 < limit) ∧ ¬(limit < 0 ∧ 0 < skip)) := by
  refine ⟨fun style c base n => Sql.select_paged style c base n o skip limit,
    fun rows skipFits limitFits => ?_, _, fun c index n => Search.command_paged c index n o skip limit,
    ?_, ?_, Search.Window.ofModifiers_eq_ofPage_iff { skip := skip, limit := limit }⟩
  · simp only [fitsSigned, Bool.and_eq_true, decide_eq_true_eq] at skipFits limitFits
    split
    · exact page?_eq_none skipFits.2 limitFits.2 ‹_›
    · exact page?_eq_some ‹_›
  · rw [Search.Window.ofModifiers_eq]
    simp
  · intro w page
    rw [Search.Window.ofModifiers_eq] at page
    split at page
    · cases page
    · obtain rfl := Option.some.inj page
      exact ⟨rfl, rfl⟩

/-- A skip without a limit. -/
theorem windows_agree_skip :
    fitsSigned 2 ∧ fitsSigned 0 ∧ page? 2 0 [1, 2, 3] = some [3] ∧
      ∃ page : Option Search.Window, page = Search.Window.ofPage 2 0 ∧ ∀ c index n,
        Search.command c index n (Overrides.paged {} 2 0) =
          (Search.command c index n (Overrides.paged {} 0 0)).map fun cmd =>
            { cmd with window := page } := by
  obtain ⟨-, memory, page, search, -, -, agree⟩ := windows_agree {} 2 0
  refine ⟨by decide, by decide, ?_, page, agree.mpr (by decide), search⟩
  exact memory [1, 2, 3] (by decide) (by decide)

/-- A search for five rows and on, with a limit below zero, asks for a negative number of rows, and one
for three rows from before the start asks for a negative offset. -/
theorem search_negative_window :
    (∃ cmd, Search.command Search.compiler "i" (.mapping []) (Overrides.paged {} 5 (-1)) = .ok cmd ∧
      cmd.args = ["FT.SEARCH", "i", "*", "LIMIT", "5", "-1", "DIALECT", "2"].map Utf8.encode ∧
      cmd.window ≠ Search.Window.ofPage 5 (-1)) ∧
    (∃ cmd, Search.command Search.compiler "i" (.mapping []) (Overrides.paged {} (-5) 3) = .ok cmd ∧
      cmd.args = ["FT.SEARCH", "i", "*", "LIMIT", "-5", "3", "DIALECT", "2"].map Utf8.encode ∧
      cmd.window ≠ Search.Window.ofPage (-5) 3) := by
  exact ⟨⟨_, rfl, by decide, by decide⟩, _, rfl, by decide, by decide⟩

end FilterQuery
