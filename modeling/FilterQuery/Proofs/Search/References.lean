import FilterQuery.Proofs.Search.Token

/-!
# References of search text

Each reference in the text of a filter is to one parameter, the one that was bound for the operand in
whose place it stands, and it stands in the clause of the field that the operand is for. So the text
with values for references has the operands of the filter in the clauses of their fields.
-/

namespace FilterQuery.Search

/-! ### The references of a text -/

def Token.char? : Token → Option Char
  | .escaped c | .char c => some c
  | .reference _ => none

/-- The name of a field without its escapes, from the tokens of a clause behind its sign. -/
def fieldName (ts : List Token) : String :=
  String.ofList ((ts.takeWhile (· ≠ .char ':')).filterMap Token.char?)

/-- The references, each with the field of the clause that it stands in. -/
def owned (field : String) : List Token → List (String × String)
  | [] => []
  | .reference name :: ts => (field, name) :: owned field ts
  | .char c :: ts => owned (if c = '@' then fieldName ts else field) ts
  | .escaped _ :: ts => owned field ts

def value? (ps : Params) (name : String) : Option (List UInt8) :=
  (ps.find? (·.name == name)).map Param.value

theorem value?_of_mem {ps : Params} (distinct : (ps.map Param.name).Nodup) {p : Param} (member : p ∈ ps) :
    value? ps p.name = some p.value := by
  induction ps with
  | nil => cases member
  | cons p' ps ih =>
    rw [List.map_cons, List.nodup_cons] at distinct
    rcases List.mem_cons.mp member with rfl | later
    · simp [value?]
    · have other : (p'.name == p.name) = false := by
        rw [beq_eq_false_iff_ne]
        rintro same
        exact distinct.1 (same ▸ List.mem_map_of_mem later)
      rw [← ih distinct.2 later, value?, value?, List.find?_cons, other]

/-! ### The references of a clause -/

/-- The tokens have the references, in the clause that they are part of. -/
def Refers (ts : List Token) (names : List String) : Prop :=
  ∀ field rest, owned field (ts ++ rest) = names.map (field, ·) ++ owned field rest

/-- The tokens have the references, in the clauses that begin in them. -/
def Owns (ts : List Token) (rs : List (String × String)) : Prop :=
  ∀ field rest, ∃ field', owned field (ts ++ rest) = rs ++ owned field' rest

theorem refers_nothing : Refers [] [] := fun _ _ => rfl

theorem refers_char {c : Char} (inside : c ≠ '@') : Refers [.char c] [] := by
  intro field rest
  simp [owned, inside]

theorem refers_reference (name : String) : Refers [.reference name] [name] := fun _ _ => rfl

theorem Refers.append {ts us : List Token} {names more : List String} (left : Refers ts names)
    (right : Refers us more) : Refers (ts ++ us) (names ++ more) := by
  intro field rest
  rw [List.append_assoc, left, right, List.map_append, List.append_assoc]

theorem owns_nothing : Owns [] [] := fun field _ => ⟨field, rfl⟩

theorem owns_char (c : Char) : Owns [.char c] [] := fun _ _ => ⟨_, rfl⟩

theorem Owns.append {ts us : List Token} {rs qs : List (String × String)} (left : Owns ts rs)
    (right : Owns us qs) : Owns (ts ++ us) (rs ++ qs) := by
  intro field rest
  obtain ⟨between, first⟩ := left field (us ++ rest)
  obtain ⟨last, second⟩ := right between rest
  exact ⟨last, by rw [List.append_assoc, first, second, List.append_assoc]⟩

theorem intercalate_induct {β : Type} {Q : List Token → List β → Prop} (nothing : Q [] [])
    (append : ∀ {ts us rs qs}, Q ts rs → Q us qs → Q (ts ++ us) (rs ++ qs)) {sep : Token}
    (separator : Q [sep] []) {tss : List (List Token)} {rss : List (List β)}
    (each : List.Forall₂ Q tss rss) : Q (List.intercalate [sep] tss) rss.flatten := by
  induction each with
  | nil => exact nothing
  | @cons ts rs tss rss first others ih =>
    cases others with
    | nil => simpa using first
    | cons second others =>
      rw [List.intercalate_cons_cons, List.flatten_cons]
      simpa using append (append first separator) ih

theorem refers_words (names : List String) : Refers (wordsTokens names) names := by
  have each : List.Forall₂ Refers (names.map fun n => [.reference n]) (names.map fun n => [n]) := by
    rw [List.forall₂_map_left_iff, List.forall₂_map_right_iff, List.forall₂_same]
    exact fun n _ => refers_reference n
  have blank : Refers [.char ' '] [] := refers_char (by decide)
  have same : (names.map fun n => [n]).flatten = names := by simp [← List.flatMap_def]
  have whole := intercalate_induct refers_nothing Refers.append blank each
  rwa [same] at whole

theorem refers_tokens (operand : Operand) : Refers operand.tokens operand.test.references := by
  cases operand with
  | number n | tag n => exact fun _ _ => rfl
  | above n inclusive | below n inclusive => cases inclusive <;> exact fun _ _ => rfl
  | phrase ns =>
    have quote : Refers [.char '"'] [] := refers_char (by decide)
    have whole := (quote.append (refers_words ns)).append quote
    simpa [Operand.tokens, Operand.test, Test.references, Test.values] using whole
  | pattern parts =>
    have each : List.Forall₂ Refers (parts.map wordsTokens) parts := by
      rw [List.forall₂_map_left_iff, List.forall₂_same]
      exact fun ns _ => refers_words ns
    exact intercalate_induct refers_nothing Refers.append (refers_char (by decide)) each

theorem refers_name (name : String) : Refers (nameTokens name) [] := by
  rw [nameTokens]
  induction name.toList with
  | nil => exact refers_nothing
  | cons c cs ih =>
    have first : Refers [if isWord c then .char c else .escaped c] [] := by
      split
      · rename_i word
        refine refers_char ?_
        rintro rfl
        exact absurd word (by decide)
      · exact fun _ _ => rfl
    exact first.append ih

theorem nameTokens_ne_colon (name : String) :
    ∀ t ∈ nameTokens name, decide (t ≠ .char ':') = true := by
  intro t member
  obtain ⟨c, _, rfl⟩ := List.mem_map.mp member
  split
  · rename_i word
    rw [decide_eq_true_eq]
    intro same
    obtain rfl := Token.char.inj same
    exact absurd word (by decide)
  · rfl

theorem fieldName_tokens (name : String) (rest : List Token) :
    fieldName (nameTokens name ++ .char ':' :: rest) = name := by
  have chars : (nameTokens name).filterMap Token.char? = name.toList := by
    have each : Token.char? ∘ (fun c => if isWord c then Token.char c else .escaped c) = some := by
      funext c
      simp only [Function.comp_apply]
      split <;> rfl
    rw [nameTokens, List.filterMap_map, each, List.filterMap_some]
  rw [fieldName, List.takeWhile_append_of_pos (nameTokens_ne_colon name),
    List.takeWhile_cons_of_neg (by decide), List.append_nil, chars, String.ofList_toList]

theorem owns_field (name : String) (operand : Operand) :
    Owns (fieldTokens name operand) (operand.test.references.map (name, ·)) := by
  intro field rest
  -- behind its sign the clause is that of the field, up to the next sign
  have opened : owned field (fieldTokens name operand ++ rest) =
      owned name (nameTokens name ++ .char ':' :: (operand.tokens ++ rest)) := by
    simp [fieldTokens, owned, fieldName_tokens]
  have colon : Refers [.char ':'] [] := refers_char (by decide)
  have inside := ((refers_name name).append colon).append (refers_tokens operand) name rest
  exact ⟨name, by simpa [opened] using inside⟩

namespace Clause

theorem owns_intercalate {cs : List Clause} {c : Char}
    (each : List.Forall₂ Owns (tokensEach cs)
      ((exprs cs).map fun e => e.atoms.flatMap Atom.references)) :
    Owns (List.intercalate [.char c] (tokensEach cs))
      ((Expr.atomsEach (exprs cs)).flatMap Atom.references) := by
  have whole := intercalate_induct owns_nothing Owns.append (owns_char c) each
  rwa [← List.flatMap_def, ← List.flatMap_assoc, ← Expr.atomsEach_eq] at whole

mutual

theorem owns_tokens : ∀ c : Clause, Owns c.tokens (c.expr.atoms.flatMap Atom.references)
  | .everything => owns_nothing
  | .all cs => by
    rw [tokens]
    exact owns_intercalate (owns_tokensEach cs)
  | .any cs => by
    have inside := owns_intercalate (c := '|') (owns_tokensEach cs)
    have whole := ((owns_char '(').append inside).append (owns_char ')')
    simpa [tokens, expr, Expr.atoms] using whole
  | .notAll cs => by
    have inside := owns_intercalate (c := ' ') (owns_tokensEach cs)
    have whole := (((owns_char '-').append (owns_char '(')).append inside).append (owns_char ')')
    simpa [tokens, expr, Expr.atoms] using whole
  | .notAny cs => by
    have inside := owns_intercalate (c := '|') (owns_tokensEach cs)
    have whole := (((owns_char '-').append (owns_char '(')).append inside).append (owns_char ')')
    simpa [tokens, expr, Expr.atoms] using whole
  | .field name operand => by
    simpa [tokens, expr, Expr.atoms, Atom.references] using owns_field name operand
  | .notField name operand => by
    have inside := (owns_char '-').append (owns_field name operand)
    simpa [tokens, expr, Expr.atoms, Atom.references] using inside

theorem owns_tokensEach : ∀ cs : List Clause, List.Forall₂ Owns (tokensEach cs)
    ((exprs cs).map fun e => e.atoms.flatMap Atom.references)
  | [] => .nil
  | c :: cs => .cons (owns_tokens c) (owns_tokensEach cs)

end

end Clause

/-! ### The references of a filter -/

theorem Says.owned_eq {c : Clause} {t : Expr (Atom Param)} (clause : Says c t)
    (valid : Valid (params t)) : owned "" (lex c.text.toList) =
      (t.kept.flatMap Atom.references).map fun r => (r.1, r.2.name) := by
  have tokens := Clause.lex_text (clause.worded valid)
  obtain ⟨_, owns⟩ := c.owns_tokens "" []
  rw [List.append_nil] at owns
  rw [tokens, owns, clause.atoms_eq, List.flatMap_map, List.map_flatMap]
  simp only [Atom.references_map, owned, List.append_nil]

end FilterQuery.Search
