import FilterQuery.Proofs.Search.Compiled

/-!
# Tokens of search text

A search text is cut into escaped characters, references to parameters, whose names are as long as
they can be, and other characters. A clause with words as names has the tokens `Clause.tokens`,
whatever its fields are called (`Clause.lexes_text`).
-/

namespace FilterQuery.Search

inductive Token where
  | escaped (c : Char)
  | reference (name : String)
  | char (c : Char)
deriving DecidableEq

/-- The first token of a text that begins with a character, and what follows. -/
def next (c : Char) (cs : List Char) : Token × List Char :=
  if c = '\\' then
    match cs with
    | [] => (.char c, [])
    | d :: ds => (.escaped d, ds)
  else if c = '$' then (.reference (String.ofList (cs.takeWhile isWord)), cs.dropWhile isWord)
  else (.char c, cs)

theorem length_next_le (c : Char) (cs : List Char) : (next c cs).2.length ≤ cs.length := by
  unfold next
  split
  · cases cs <;> simp
  · split
    · exact (List.dropWhile_suffix isWord).length_le
    · exact Nat.le_refl _

def lex : List Char → List Token
  | [] => []
  | c :: cs => (next c cs).1 :: lex (next c cs).2
termination_by cs => cs.length
decreasing_by exact Nat.lt_succ_of_le (length_next_le c cs)

@[simp] theorem lex_nil : lex [] = [] := by rw [lex]

@[simp] theorem lex_escaped (c : Char) (cs : List Char) : lex ('\\' :: c :: cs) = .escaped c :: lex cs := by
  rw [lex]
  rfl

@[simp] theorem lex_char {c : Char} (noEscape : c ≠ '\\') (noReference : c ≠ '$') (cs : List Char) :
    lex (c :: cs) = .char c :: lex cs := by
  rw [lex]
  unfold next
  rw [if_neg noEscape, if_neg noReference]

/-- What follows does not run on into a name. -/
def Ends (cs : List Char) : Prop := cs.head?.any isWord = false

theorem lex_reference {name : String} (word : IsName name) {rest : List Char} (ends : Ends rest) :
    lex ('$' :: (name.toList ++ rest)) = .reference name :: lex rest := by
  -- the word ends with the name
  have stop : rest.takeWhile isWord = [] ∧ rest.dropWhile isWord = rest := by
    cases rest with
    | nil => exact ⟨rfl, rfl⟩
    | cons c rest =>
      have other : isWord c = false := ends
      simp [other]
  rw [lex]
  unfold next
  rw [if_neg (by decide), if_pos rfl, List.takeWhile_append_of_pos word,
    List.dropWhile_append_of_pos word, stop.1, stop.2, List.append_nil, String.ofList_toList]

/-! ### Texts and their tokens -/

/-- The text has the tokens, unless it runs on into a name. -/
def Lexes (s : String) (ts : List Token) : Prop :=
  ∀ rest, Ends rest → lex (s.toList ++ rest) = ts ++ lex rest

theorem lexes_nothing : Lexes "" [] := fun _ _ => rfl

theorem lexes_reference {name : String} (word : IsName name) :
    Lexes (reference name) [.reference name] := by
  intro rest ends
  simpa [reference] using lex_reference word ends

theorem lexes_intercalate {sep : String} {c : Char} (same : sep.toList = [c])
    (plain : c ≠ '\\' ∧ c ≠ '$' ∧ isWord c = false) {xs : List String} {tss : List (List Token)}
    (each : List.Forall₂ Lexes xs tss) :
    Lexes (sep.intercalate xs) (List.intercalate [.char c] tss) := by
  induction each with
  | nil => exact lexes_nothing
  | @cons s ts xs tss first others ih =>
    cases others with
    | nil => simpa using first
    | cons second others =>
      intro rest ends
      have tail := ih rest ends
      -- the separator ends what stands before it, whatever follows
      have stop : ∀ cs, Ends (c :: cs) := fun _ => plain.2.2
      rw [String.intercalate_cons_cons, List.intercalate_cons_cons]
      simp only [String.toList_append, List.append_assoc, same, List.cons_append, List.nil_append]
      rw [first _ (stop _), lex_char plain.1 plain.2.1, tail]

def nameTokens (name : String) : List Token :=
  name.toList.map fun c => if isWord c then .char c else .escaped c

theorem lex_escape (name : String) (rest : List Char) :
    lex ((escape name).toList ++ rest) = nameTokens name ++ lex rest := by
  rw [escape, String.toList_ofList, nameTokens]
  induction name.toList with
  | nil => rfl
  | cons c cs ih =>
    rw [List.flatMap_cons, List.map_cons, List.append_assoc]
    split
    · rename_i word
      have plain : c ≠ '\\' ∧ c ≠ '$' := by
        constructor <;> rintro rfl <;> exact absurd word (by decide)
      rw [List.singleton_append, lex_char plain.1 plain.2, ih, List.cons_append]
    · rw [List.cons_append, List.singleton_append, lex_escaped, ih, List.cons_append]

/-! ### Operands -/

def wordsTokens (names : List String) : List Token :=
  List.intercalate [.char ' '] (names.map fun n => [.reference n])

theorem wordsTokens_cons_cons (n m : String) (ns : List String) :
    wordsTokens (n :: m :: ns) = .reference n :: .char ' ' :: wordsTokens (m :: ns) := by
  rw [wordsTokens, List.map_cons, List.map_cons, List.intercalate_cons_cons]
  rfl

theorem wordsTokens_cons (n : String) (ns : List String) :
    ∃ ts, wordsTokens (n :: ns) = .reference n :: ts := by
  cases ns with
  | nil => exact ⟨[], by simp [wordsTokens]⟩
  | cons m ns => exact ⟨_, wordsTokens_cons_cons n m ns⟩

theorem lexes_words {names : List String} (words : ∀ n ∈ names, IsName n) :
    Lexes (wordsText names) (wordsTokens names) := by
  refine lexes_intercalate rfl (by decide) ?_
  rw [List.forall₂_map_left_iff, List.forall₂_map_right_iff, List.forall₂_same]
  exact fun n member => lexes_reference (words n member)

namespace Operand

def tokens : Operand → List Token
  | .number n => [.char '[', .reference n, .char ' ', .reference n, .char ']']
  | .above n true =>
    [.char '[', .reference n, .char ' ', .char '+', .char 'i', .char 'n', .char 'f', .char ']']
  | .above n false =>
    [.char '[', .char '(', .reference n, .char ' ', .char '+', .char 'i', .char 'n', .char 'f',
      .char ']']
  | .below n true =>
    [.char '[', .char '-', .char 'i', .char 'n', .char 'f', .char ' ', .reference n, .char ']']
  | .below n false =>
    [.char '[', .char '-', .char 'i', .char 'n', .char 'f', .char ' ', .char '(', .reference n,
      .char ']']
  | .tag n => [.char '\x7b', .reference n, .char '\x7d']
  | .phrase ns => .char '"' :: (wordsTokens ns ++ [.char '"'])
  | .pattern parts => List.intercalate [.char '*'] (parts.map wordsTokens)

theorem lexes_text {operand : Operand} (words : ∀ n ∈ operand.test.values, IsName n) :
    Lexes operand.text operand.tokens := by
  cases operand with
  | number n =>
    intro rest _
    have word := words n List.mem_cons_self
    have blank : Ends (' ' :: '$' :: (n.toList ++ (']' :: rest))) := rfl
    have close : Ends (']' :: rest) := rfl
    simp [text, tokens, reference, lex_reference word blank, lex_reference word close]
  | above n inclusive =>
    intro rest _
    have word := words n List.mem_cons_self
    have blank : ∀ cs, Ends (' ' :: cs) := fun _ => rfl
    cases inclusive <;> simp [text, tokens, reference, lex_reference word (blank _)]
  | below n inclusive =>
    intro rest _
    have word := words n List.mem_cons_self
    have close : ∀ cs, Ends (']' :: cs) := fun _ => rfl
    cases inclusive <;> simp [text, tokens, reference, lex_reference word (close _)]
  | tag n =>
    intro rest _
    have word := words n List.mem_cons_self
    have close : ∀ cs, Ends ('\x7d' :: cs) := fun _ => rfl
    simp [text, tokens, reference, lex_reference word (close _)]
  | phrase ns =>
    intro rest _
    have inside : Lexes (wordsText ns) (wordsTokens ns) := lexes_words words
    simp [text, tokens, inside ('"' :: rest) rfl]
  | pattern parts =>
    refine lexes_intercalate rfl (by decide) ?_
    rw [List.forall₂_map_left_iff, List.forall₂_map_right_iff, List.forall₂_same]
    exact fun ns member => lexes_words fun n found =>
      words n (List.mem_flatten.mpr ⟨ns, member, found⟩)

end Operand

/-! ### Clauses -/

def fieldTokens (name : String) (operand : Operand) : List Token :=
  .char '@' :: (nameTokens name ++ .char ':' :: operand.tokens)

theorem lexes_field (name : String) {operand : Operand}
    (words : ∀ n ∈ operand.test.values, IsName n) :
    Lexes ("@" ++ escape name ++ ":" ++ operand.text) (fieldTokens name operand) := by
  intro rest ends
  simp [fieldTokens, lex_escape, Operand.lexes_text words rest ends]

namespace Clause

mutual

def tokens : Clause → List Token
  | .everything => []
  | .all cs => List.intercalate [.char ' '] (tokensEach cs)
  | .any cs => .char '(' :: (List.intercalate [.char '|'] (tokensEach cs) ++ [.char ')'])
  | .notAll cs =>
    .char '-' :: .char '(' :: (List.intercalate [.char ' '] (tokensEach cs) ++ [.char ')'])
  | .notAny cs =>
    .char '-' :: .char '(' :: (List.intercalate [.char '|'] (tokensEach cs) ++ [.char ')'])
  | .field name operand => fieldTokens name operand
  | .notField name operand => .char '-' :: fieldTokens name operand

def tokensEach : List Clause → List (List Token)
  | [] => []
  | c :: cs => c.tokens :: tokensEach cs

end

theorem joined_eq (sep : String) (cs : List Clause) :
    joined sep cs = sep.intercalate (cs.map text) := by
  induction cs with
  | nil => simp [joined]
  | cons c cs ih =>
    cases cs with
    | nil => simp [joined]
    | cons d ds => simp only [joined, ih, List.map_cons, String.intercalate_cons_cons]

theorem lexes_and {cs : List Clause} (each : List.Forall₂ Lexes (cs.map text) (tokensEach cs)) :
    Lexes (joined " " cs) (List.intercalate [.char ' '] (tokensEach cs)) := by
  rw [joined_eq]
  exact lexes_intercalate rfl (by decide) each

theorem lexes_or {cs : List Clause} (each : List.Forall₂ Lexes (cs.map text) (tokensEach cs)) :
    Lexes (joined "|" cs) (List.intercalate [.char '|'] (tokensEach cs)) := by
  rw [joined_eq]
  exact lexes_intercalate rfl (by decide) each

/-- What the atoms refer to are words. -/
def Worded (as : List (Atom String)) : Prop := ∀ a ∈ as, ∀ n ∈ a.test.values, IsName n

mutual

theorem lexes_text : ∀ c : Clause, Worded c.expr.atoms → Lexes c.text c.tokens
  | .everything, _ => lexes_nothing
  | .all cs, words => by
    rw [text, tokens]
    exact lexes_and (lexes_texts cs words)
  | .any cs, words => by
    intro rest _
    have inside := lexes_or (lexes_texts cs words) (')' :: rest) rfl
    simp [text, tokens, inside]
  | .notAll cs, words => by
    intro rest _
    have inside := lexes_and (lexes_texts cs words) (')' :: rest) rfl
    simp [text, tokens, inside]
  | .notAny cs, words => by
    intro rest _
    have inside := lexes_or (lexes_texts cs words) (')' :: rest) rfl
    simp [text, tokens, inside]
  | .field name operand, words => by
    rw [text, tokens]
    exact lexes_field name (words _ List.mem_cons_self)
  | .notField name operand, words => by
    intro rest ends
    have inside := lexes_field name (words _ List.mem_cons_self) rest ends
    simpa [text, tokens] using inside

theorem lexes_texts : ∀ cs : List Clause, Worded (Expr.atomsEach (exprs cs)) →
    List.Forall₂ Lexes (cs.map text) (tokensEach cs)
  | [], _ => .nil
  | c :: cs, words => by
    rw [exprs, Expr.atomsEach, Worded, List.forall_mem_append] at words
    exact .cons (lexes_text c words.1) (lexes_texts cs words.2)

end

theorem lex_text {c : Clause} (words : Worded c.expr.atoms) : lex c.text.toList = c.tokens := by
  have whole := lexes_text c words [] rfl
  simpa using whole

end Clause

theorem mem_params {t : Expr (Atom Param)} {a : Atom Param} (kept : a ∈ t.kept) {p : Param}
    (member : p ∈ a.test.values) : p ∈ params t :=
  List.mem_flatMap.mpr ⟨a, t.kept_subset kept, member⟩

theorem Says.worded {c : Clause} {t : Expr (Atom Param)} (clause : Says c t)
    (valid : Valid (params t)) : Clause.Worded c.expr.atoms := by
  rw [clause.atoms_eq]
  intro a member n found
  obtain ⟨a, kept, rfl⟩ := List.mem_map.mp member
  rw [Atom.map, Test.values_map] at found
  obtain ⟨p, operand, rfl⟩ := List.mem_map.mp found
  exact valid.words p (mem_params kept operand)

end FilterQuery.Search
