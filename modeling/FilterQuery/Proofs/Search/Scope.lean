import FilterQuery.Proofs.Search.Meaning

/-!
# The scope of fields

The sign of a field governs the one operand that stands behind it. Whether every sign has its operand,
and every reference stands in one, is decided in one pass over the tokens of a text (`InScope`). A text
passes if and only if its patterns are single terms (`compile_inScope`): the words of a pattern have
nothing around them that holds them together, as the words of a phrase have.
-/

namespace FilterQuery.Search

/-! ### Reading operand by operand -/

/-- What stands before a place in a text. -/
inductive Place where
  | between
  /-- The sign of a field, and a part of its name. -/
  | name
  /-- The colon behind the name of a field. -/
  | colon
  /-- The beginning of an operand that ends with the character. -/
  | inside (close : Char)
  /-- A wildcard, with which a term begins. -/
  | wildcard
  /-- The word of a term. -/
  | word
  /-- An operand to which nothing can be added. -/
  | operand
deriving DecidableEq

/-- The characters that can end a clause. -/
def endsClause (c : Char) : Bool := c == ' ' || c == '|' || c == ')'

def Token.endsClause : Token → Bool
  | .char c => Search.endsClause c
  | _ => false

/-- The place behind a token, if the token can stand at the place. -/
def Place.step : Place → Token → Option Place
  | .between, .char c =>
    if c = '@' then some .name
    else if endsClause c || c == '(' || c == '-' then some .between
    else none
  | .name, .char c => if c = ':' then some .colon else some .name
  | .name, .escaped _ => some .name
  | .colon, .reference _ => some .word
  | .colon, .char c =>
    if c = '"' then some (.inside '"')
    else if c = '[' then some (.inside ']')
    else if c = '\x7b' then some (.inside '\x7d')
    else if c = '*' then some .wildcard
    else none
  | .inside close, .char c => if c = close then some .operand else some (.inside close)
  | .inside close, .reference _ => some (.inside close)
  | .wildcard, .reference _ => some .word
  | .word, .char c =>
    if c = '*' then some .operand else if endsClause c then some .between else none
  | .wildcard, .char c | .operand, .char c => if endsClause c then some .between else none
  | _, _ => none

def Place.isEnd : Place → Bool
  | .between | .wildcard | .word | .operand => true
  | .name | .colon | .inside _ => false

/-- Whether the tokens can follow a place, up to the end of the text. -/
def follows : Place → List Token → Bool
  | p, [] => p.isEnd
  | p, t :: ts =>
    match p.step t with
    | some p => follows p ts
    | none => false

/-- Each sign of a field is followed by one operand: a phrase in quotes, a range or a tag in brackets,
or a term, which is a reference, with a wildcard before or behind it or both, or a wildcard alone.
References stand in operands only. -/
def InScope (s : String) : Prop := follows .between (lex s.toList)

instance (s : String) : Decidable (InScope s) := inferInstanceAs (Decidable (_ = true))

/-- Whether a test is written as one operand. Of patterns these are the ones with at most one word and
at most one wildcard on each side of it, known by the numbers of words before, between and behind the
wildcards. -/
def Test.isSingle {ν : Type} : Test ν → Bool
  | .pattern parts => parts.map List.length ∈ [[1], [0, 1], [1, 0], [0, 1, 0], [0, 0]]
  | _ => true

theorem Test.isSingle_map {μ ν : Type} (f : ν → μ) (t : Test ν) :
    (t.map f).isSingle = t.isSingle := by
  cases t with
  | pattern parts =>
    rw [map, isSingle, isSingle, List.map_map]
    simp only [Function.comp_def, List.length_map]
  | _ => rfl

theorem Test.isSingle_of_not_isPattern {ν : Type} {t : Test ν} (noPattern : t.isPattern = false) :
    t.isSingle := by
  cases t with
  | pattern parts => cases noPattern
  | _ => rfl

/-! ### Operands -/

def Closes (rest : List Token) : Prop := rest.head?.all Token.endsClause

theorem closes_char {c : Char} (ends : endsClause c) (rest : List Token) : Closes (.char c :: rest) := ends

theorem closes_cases {rest : List Token} (closes : Closes rest) :
    rest = [] ∨ ∃ c ts, rest = .char c :: ts ∧ endsClause c := by
  cases rest with
  | nil => exact .inl rfl
  | cons t ts =>
    cases t with
    | char c => exact .inr ⟨c, ts, rfl, closes⟩
    | _ => cases closes

attribute [local simp] follows Place.step

theorem follows_closing {p : Place} (complete : p = .wildcard ∨ p = .word ∨ p = .operand)
    {rest : List Token} (closes : Closes rest) : follows p rest = follows .between rest := by
  rcases closes_cases closes with rfl | ⟨c, ts, rfl, ends⟩
  · rcases complete with rfl | rfl | rfl <;> rfl
  · have others : c ≠ '@' ∧ c ≠ '*' := by
      constructor <;> rintro rfl <;> exact absurd ends (by decide)
    rcases complete with rfl | rfl | rfl <;> simp [ends, others]

theorem follows_colon {rest : List Token} (closes : Closes rest) : follows .colon rest = false := by
  rcases closes_cases closes with rfl | ⟨c, ts, rfl, ends⟩
  · rfl
  · have others : c ≠ '"' ∧ c ≠ '[' ∧ c ≠ '\x7b' ∧ c ≠ '*' := by
      refine ⟨?_, ?_, ?_, ?_⟩ <;> rintro rfl <;> exact absurd ends (by decide)
    simp [others]

section Patterns

variable {rest : List Token}

/-- The tokens of the parts of a pattern that stand behind others. -/
def partsTokens (parts : List (List String)) : List Token :=
  parts.flatMap fun ns => .char '*' :: wordsTokens ns

theorem intercalate_parts (ns : List String) (parts : List (List String)) :
    List.intercalate [.char '*'] ((ns :: parts).map wordsTokens) =
      wordsTokens ns ++ partsTokens parts := by
  induction parts generalizing ns with
  | nil => simp [partsTokens]
  | cons ms parts ih =>
    rw [List.map_cons, List.map_cons, List.intercalate_cons_cons, ← List.map_cons, ih]
    simp [partsTokens]

theorem follows_words {p : Place} (begins : p = .colon ∨ p = .wildcard) (n m : String)
    (ns : List String) (ts : List Token) :
    follows p (wordsTokens (n :: m :: ns) ++ ts) = false := by
  obtain ⟨us, first⟩ := wordsTokens_cons m ns
  rw [wordsTokens_cons_cons, first]
  rcases begins with rfl | rfl <;> rfl

variable (closes : Closes rest)
include closes

theorem follows_operand_parts (parts : List (List String)) :
    follows .operand (partsTokens parts ++ rest) =
      (decide (parts.map List.length = []) && follows .between rest) := by
  cases parts with
  | nil => exact follows_closing (by simp) closes
  | cons ns parts => rfl

theorem follows_word_parts (parts : List (List String)) :
    follows .word (partsTokens parts ++ rest) =
      (decide (parts.map List.length ∈ [[], [0]]) && follows .between rest) := by
  rcases parts with _ | ⟨_ | ⟨n, ns⟩, parts⟩
  · simpa [partsTokens] using follows_closing (.inr (.inl rfl)) closes
  · simpa [partsTokens, wordsTokens] using follows_operand_parts closes parts
  -- a word behind the wildcard that ends the term
  · cases ns with
    | nil => simp [partsTokens, wordsTokens]
    | cons m ns => simp [partsTokens, wordsTokens_cons_cons]

theorem follows_wildcard_parts (ns : List String) (parts : List (List String)) :
    follows .wildcard (wordsTokens ns ++ (partsTokens parts ++ rest)) =
      (decide ((ns :: parts).map List.length ∈ [[1], [1, 0], [0]]) && follows .between rest) := by
  rcases ns with _ | ⟨n, _ | ⟨m, ns⟩⟩
  · cases parts with
    | nil => simpa [partsTokens, wordsTokens] using follows_closing (.inl rfl) closes
    | cons ms parts => simp [partsTokens, wordsTokens, endsClause]
  · simpa [wordsTokens] using follows_word_parts closes parts
  · rw [follows_words (.inr rfl)]
    simp

theorem follows_colon_parts (ns : List String) (parts : List (List String)) :
    follows .colon (wordsTokens ns ++ (partsTokens parts ++ rest)) =
      (decide ((ns :: parts).map List.length ∈ [[1], [0, 1], [1, 0], [0, 1, 0], [0, 0]]) &&
        follows .between rest) := by
  rcases ns with _ | ⟨n, _ | ⟨m, ns⟩⟩
  · cases parts with
    | nil => simpa [partsTokens, wordsTokens] using follows_colon closes
    | cons ms parts =>
      have behind := follows_wildcard_parts closes ms parts
      simpa [partsTokens, wordsTokens] using behind
  · simpa [wordsTokens] using follows_word_parts closes parts
  · rw [follows_words (.inl rfl)]
    simp

end Patterns

theorem follows_quoted_words (names : List String) (ts : List Token) :
    follows (.inside '"') (wordsTokens names ++ ts) = follows (.inside '"') ts := by
  induction names with
  | nil => rfl
  | cons n names ih =>
    cases names with
    | nil => rfl
    | cons m names =>
      rw [wordsTokens_cons_cons]
      simpa using ih

/-- An operand behind a colon is in the scope of the field if it is single. -/
theorem follows_operand (operand : Operand) {rest : List Token} (closes : Closes rest) :
    follows .colon (operand.tokens ++ rest) = (operand.test.isSingle && follows .between rest) := by
  have behind : follows .operand rest = follows .between rest := follows_closing (by simp) closes
  cases operand with
  | number n | tag n => exact behind
  | above n inclusive | below n inclusive => cases inclusive <;> exact behind
  | phrase ns =>
    rw [← behind, Operand.tokens, List.cons_append, List.append_assoc]
    exact follows_quoted_words ns _
  | pattern parts =>
    cases parts with
    | nil => exact follows_colon closes
    | cons ns parts =>
      rw [Operand.tokens, intercalate_parts, List.append_assoc]
      exact follows_colon_parts closes ns parts

theorem follows_name (name : String) (ts : List Token) :
    follows .name (nameTokens name ++ ts) = follows .name ts := by
  rw [nameTokens]
  induction name.toList with
  | nil => rfl
  | cons c cs ih =>
    rw [List.map_cons, List.cons_append]
    split
    · rename_i word
      have other : c ≠ ':' := by
        rintro rfl
        exact absurd word (by decide)
      rw [← ih]
      simp [other]
    · exact ih

/-! ### Clauses -/

/-- The tokens between clauses can be followed by what can end a clause, if the flag says so. -/
def Scopes (ts : List Token) (single : Bool) : Prop :=
  ∀ rest, Closes rest → follows .between (ts ++ rest) = (single && follows .between rest)

theorem scopes_nothing : Scopes [] true := fun _ _ => rfl

theorem Scopes.sign {c : Char} (sign : c = '-' ∨ c = '(') {ts : List Token} {single : Bool}
    (inside : Scopes ts single) : Scopes (.char c :: ts) single := by
  intro rest closes
  rw [← inside rest closes]
  rcases sign with rfl | rfl <;> rfl

theorem Scopes.closed {ts : List Token} {single : Bool} (inside : Scopes ts single) :
    Scopes (ts ++ [.char ')']) single := by
  intro rest _
  rw [List.append_assoc, List.singleton_append, inside _ (closes_char rfl rest)]
  rfl

theorem scopes_field (name : String) (operand : Operand) :
    Scopes (fieldTokens name operand) operand.test.isSingle := by
  intro rest closes
  rw [← follows_operand operand closes]
  have opened : follows .between (fieldTokens name operand ++ rest) =
      follows .name (nameTokens name ++ .char ':' :: (operand.tokens ++ rest)) := by
    simp [fieldTokens]
  rw [opened, follows_name]
  rfl

theorem Scopes.separated {c : Char} (separates : c = ' ' ∨ c = '|') {ts us : List Token}
    {single others : Bool} (left : Scopes ts single) (right : Scopes us others) :
    Scopes (ts ++ .char c :: us) (single && others) := by
  intro rest closes
  have ends : endsClause c := by rcases separates with rfl | rfl <;> rfl
  have separator : follows .between (.char c :: (us ++ rest)) = follows .between (us ++ rest) := by
    rcases separates with rfl | rfl <;> rfl
  rw [List.append_assoc, List.cons_append, left _ (closes_char ends _), separator, right rest closes,
    Bool.and_assoc]

theorem scopes_intercalate {c : Char} (separates : c = ' ' ∨ c = '|') {tss : List (List Token)}
    {singles : List Bool} (each : List.Forall₂ Scopes tss singles) :
    Scopes (List.intercalate [.char c] tss) (singles.all id) := by
  induction each with
  | nil => exact scopes_nothing
  | @cons ts single tss singles first others ih =>
    cases others with
    | nil => simpa using first
    | cons second others =>
      rw [List.intercalate_cons_cons, List.append_assoc, List.singleton_append, List.all_cons]
      exact first.separated separates ih

namespace Clause

theorem scopes_members {c : Char} (separates : c = ' ' ∨ c = '|') {cs : List Clause}
    (each : List.Forall₂ Scopes (tokensEach cs)
      ((exprs cs).map fun e => e.atoms.all (·.test.isSingle))) :
    Scopes (List.intercalate [.char c] (tokensEach cs))
      ((Expr.atomsEach (exprs cs)).all (·.test.isSingle)) := by
  have whole := scopes_intercalate separates each
  rwa [List.all_map, Function.id_comp, ← List.all_flatMap, ← Expr.atomsEach_eq] at whole

mutual

theorem scopes_tokens : ∀ c : Clause, Scopes c.tokens (c.expr.atoms.all (·.test.isSingle))
  | .everything => scopes_nothing
  | .all cs => by
    rw [tokens]
    exact scopes_members (.inl rfl) (scopes_tokensEach cs)
  | .any cs => by
    rw [tokens]
    exact (scopes_members (.inr rfl) (scopes_tokensEach cs)).closed.sign (.inr rfl)
  | .notAll cs => by
    rw [tokens]
    exact ((scopes_members (.inl rfl) (scopes_tokensEach cs)).closed.sign (.inr rfl)).sign (.inl rfl)
  | .notAny cs => by
    rw [tokens]
    exact ((scopes_members (.inr rfl) (scopes_tokensEach cs)).closed.sign (.inr rfl)).sign (.inl rfl)
  | .field name operand => by
    simpa [tokens, expr, Expr.atoms] using scopes_field name operand
  | .notField name operand => by
    simpa [tokens, expr, Expr.atoms] using (scopes_field name operand).sign (.inl rfl)

theorem scopes_tokensEach : ∀ cs : List Clause, List.Forall₂ Scopes (tokensEach cs)
    ((exprs cs).map fun e => e.atoms.all (·.test.isSingle))
  | [] => .nil
  | c :: cs => .cons (scopes_tokens c) (scopes_tokensEach cs)

end

end Clause

/-- Whether the text of a filter keeps every operand in the scope of its field. It does if and only if the
patterns that are kept are single terms, and so it does without patterns. -/
theorem compile_inScope {depth : Int} {q : Node} {r : Query}
    (compiled : (compiler.withDepth depth).compile q = .ok r) :
    (InScope r.text ↔ ∀ a ∈ (filterExpr [] q).kept, a.test.isSingle) ∧
      (uses .like q = false → InScope r.text) := by
  obtain ⟨t, value, bound, valid, clause⟩ := compile_filterExpr compiled
  rw [bound] at valid
  have scope : InScope r.text ↔ ∀ a ∈ (filterExpr [] q).kept, a.test.isSingle := by
    have tokens := r.clause.scopes_tokens [] rfl
    have lexed : lex r.text.toList = r.clause.tokens := Clause.lex_text (clause.worded valid)
    rw [List.append_nil] at tokens
    rw [InScope, lexed, tokens, clause.atoms_eq, ← value, Expr.kept_map]
    simp [Atom.map, Test.isSingle_map, follows, Place.isEnd]
  refine ⟨scope, fun noPatterns => scope.mpr fun a kept => ?_⟩
  exact Test.isSingle_of_not_isPattern (plain_filterExpr [] noPatterns a (Expr.kept_subset _ kept))

/-- A prefix beside a tag. -/
theorem compile_inScope_prefix :
    let q := Node.mapping [("a b", .mapping [("$like", .scalar (.text "jo*"))]),
      ("c", .mapping [("$ne", .scalar (.bool true))])]
    ∃ r, (compiler.withDepth 1).compile q = .ok r ∧ InScope r.text := by
  intro q
  obtain ⟨r, compiled⟩ : ∃ r, (compiler.withDepth 1).compile q = .ok r := ⟨_, rfl⟩
  refine ⟨r, compiled, (compile_inScope compiled).1.mpr ?_⟩
  decide +kernel

/-- The text is `@a:$a00 $a01`, and the second word is searched in all fields. -/
theorem compile_out_of_scope :
    let q := Node.mapping [("a", .mapping [("$like", .scalar (.text "x y"))])]
    ∃ r, (compiler.withDepth 1).compile q = .ok r ∧ ¬InScope r.text := by
  refine ⟨⟨.field "a" (.pattern [["a00", "a01"]]), [⟨"a00", [0x78]⟩, ⟨"a01", [0x79]⟩]⟩, rfl, ?_⟩
  decide +kernel

end FilterQuery.Search
