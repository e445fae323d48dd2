import FilterQuery.Proofs.Numeric.Digits
import FilterQuery.Sql.Style
import FilterQuery.Sql.Condition
import FilterQuery.Text.Unicode

/-!
# Tokens of SQL text

`lex` cuts a text into tokens from left to right. It fails only if a quoted name has no end. Texts
that are put together at a blank or a mark have the tokens of their parts (`lex_append`), whatever
the names in them are (`lex_quoteName`).
-/

namespace FilterQuery.Sql

inductive Token where
  /-- A quoted name, without the quotes. -/
  | name (s : String)
  /-- The place of an argument, as it is written. -/
  | placeholder (s : String)
  | word (s : String)
  | sign (s : String)
  /-- A bracket, a comma or a dot. -/
  | mark (c : Char)
deriving DecidableEq

namespace Lexer

/-- What a character can be part of. -/
inductive Class where
  | blank
  | mark
  | quote
  | question
  | at
  | sign
  | word
deriving DecidableEq

def marks : List Char := ['(', ')', '[', ']', ',', '.']

def signs : List Char := ['=', '<', '>', '~', '!', '+', '-', '*', '/', '%', '&', '|', '^', '#', ':', ';']

def classOf (c : Char) : Class :=
  if c = '"' then .quote
  else if c = '?' then .question
  else if c = '@' then .at
  else if c ∈ marks then .mark
  else if c ∈ signs then .sign
  else if c.isAlphanum ∨ c = '_' ∨ c = '$' then .word
  else if Unicode.isSpace c then .blank
  else .word

/-- The token that has been read in part. -/
inductive Pending where
  | none
  /-- A word or a placeholder. -/
  | word (read : List Char)
  | sign (read : List Char)
  | name (read : List Char)
  /-- A name and a quote, which ends the name or is the first of two. -/
  | quote (read : List Char)

/-- Whether a word is a placeholder: a dollar sign with a number, or an at sign with a name. -/
def isPlaceholder : List Char → Bool
  | '$' :: digits => !digits.isEmpty && digits.all Char.isDigit
  | '@' :: name => !name.isEmpty
  | _ => false

def ofWord (w : List Char) : Token :=
  if isPlaceholder w then .placeholder (String.ofList w) else .word (String.ofList w)

/-- The tokens that a character ends, and the token it begins, if none has been read in part. -/
def start (c : Char) : List Token × Pending :=
  match classOf c with
  | .blank => ([], .none)
  | .mark => ([.mark c], .none)
  | .question => ([.placeholder "?"], .none)
  | .quote => ([], .name [])
  | .sign => ([], .sign [c])
  | .word | .at => ([], .word [c])

/-- The tokens that a character ends, and the token it begins or goes on with. -/
def next (p : Pending) (c : Char) : List Token × Pending :=
  match p, classOf c with
  | .none, _ => start c
  | .word read, .word => ([], .word (read ++ [c]))
  -- an at sign begins a placeholder or the sign of containment
  | .word ['@'], .sign => ([], .sign ['@', c])
  | .word read, _ => (ofWord read :: (start c).1, (start c).2)
  | .sign read, .sign => ([], .sign (read ++ [c]))
  | .sign read, _ => (.sign (String.ofList read) :: (start c).1, (start c).2)
  | .name read, .quote => ([], .quote read)
  | .name read, _ => ([], .name (read ++ [c]))
  | .quote read, .quote => ([], .name (read ++ ['"']))
  | .quote read, _ => (.name (String.ofList read) :: (start c).1, (start c).2)

def finish : Pending → Option (List Token)
  | .none => some []
  | .word read => some [ofWord read]
  | .sign read => some [.sign (String.ofList read)]
  | .name _ => Option.none
  | .quote read => some [.name (String.ofList read)]

/-- Reads characters: the tokens that end, and the token read in part. -/
def run : Pending → List Char → List Token × Pending
  | p, [] => ([], p)
  | p, c :: cs => ((next p c).1 ++ (run (next p c).2 cs).1, (run (next p c).2 cs).2)

def scan (p : Pending) (cs : List Char) : Option (List Token) :=
  (finish (run p cs).2).map ((run p cs).1 ++ ·)

end Lexer

def lex (s : String) : Option (List Token) := Lexer.scan .none s.toList

example : lex "NOT (\"a\"\"b\" @> ARRAY[@p1])" = some [.word "NOT", .mark '(', .name "a\"b",
    .sign "@>", .word "ARRAY", .mark '[', .placeholder "@p1", .mark ']', .mark ')'] := by decide

namespace Lexer

/-! ### Parts of texts -/

theorem run_append (p : Pending) (left right : List Char) :
    run p (left ++ right) =
      ((run p left).1 ++ (run (run p left).2 right).1, (run (run p left).2 right).2) := by
  induction left generalizing p with
  | nil => rfl
  | cons c cs ih => simp only [List.cons_append, run, ih, List.append_assoc]

theorem scan_append (p : Pending) (left right : List Char) :
    scan p (left ++ right) = (scan (run p left).2 right).map ((run p left).1 ++ ·) := by
  simp only [scan, run_append, Option.map_map]
  congr 1
  funext ts
  simp

/-- The text does not go on with what stands before it. -/
def Separate (cs : List Char) : Prop :=
  cs.head?.all fun c => classOf c = .blank ∨ classOf c = .mark

instance (cs : List Char) : Decidable (Separate cs) :=
  inferInstanceAs (Decidable (cs.head?.all _ = true))

theorem next_separate {p : Pending} {c : Char} {ts : List Token} (finished : finish p = some ts)
    (separate : classOf c = .blank ∨ classOf c = .mark) :
    next p c = (ts ++ (start c).1, (start c).2) := by
  cases p with
  | name read => cases finished
  | none =>
    obtain rfl := Option.some.inj finished
    rfl
  | word read | sign read | quote read =>
    obtain rfl := Option.some.inj finished
    rcases separate with blank | mark
    · simp [next, blank]
    · simp [next, mark]

theorem scan_separate {p : Pending} {cs : List Char} {ts : List Token} (finished : finish p = some ts)
    (separate : Separate cs) : scan p cs = (scan .none cs).map (ts ++ ·) := by
  cases cs with
  | nil =>
    have nothing : finish .none = some [] := rfl
    simp [scan, run, nothing, finished]
  | cons c cs =>
    have ended := next_separate finished (of_decide_eq_true separate)
    have started : next .none c = start c := rfl
    simp only [scan, run, ended, started, Option.map_map]
    congr 1
    funext us
    simp

end Lexer

open Lexer

theorem lex_append {s t : String} {ts us : List Token} (left : lex s = some ts)
    (separate : Separate t.toList) (right : lex t = some us) : lex (s ++ t) = some (ts ++ us) := by
  rw [lex, String.toList_append, scan_append]
  obtain ⟨last, finished, rfl⟩ := Option.map_eq_some_iff.mp left
  rw [scan_separate finished separate]
  rw [lex] at right
  simp [right]

/-- A text that ends with a blank or a mark may be followed by every text. -/
theorem lex_append_of_run {s t : String} {ts us : List Token}
    (left : run .none s.toList = (ts, .none)) (right : lex t = some us) :
    lex (s ++ t) = some (ts ++ us) := by
  rw [lex, String.toList_append, scan_append, left]
  rw [lex] at right
  simp [right]

/-- A text that may stand between others: it begins and ends with a blank or a mark. -/
structure Joint (s : String) (ts : List Token) : Prop where
  begins : s.toList.head?.any fun c => classOf c = .blank ∨ classOf c = .mark
  reads : run .none s.toList = (ts, .none)

theorem Joint.separate {s : String} {ts : List Token} (joint : Joint s ts) (t : String) :
    Separate (s ++ t).toList := by
  have begins := joint.begins
  rw [Separate, String.toList_append]
  cases chars : s.toList with
  | nil =>
    rw [chars] at begins
    cases begins
  | cons c cs =>
    rw [chars] at begins
    exact begins

theorem lex_between {s mid t : String} {ts ms us : List Token} (left : lex s = some ts)
    (joint : Joint mid ms) (right : lex t = some us) :
    lex (s ++ mid ++ t) = some (ts ++ ms ++ us) := by
  rw [String.append_assoc, List.append_assoc]
  exact lex_append left (joint.separate t) (lex_append_of_run joint.reads right)

/-! ### Words and placeholders -/

namespace Lexer

theorem run_word {cs : List Char} (letters : ∀ c ∈ cs, classOf c = .word) (before : List Char) :
    run (.word before) cs = ([], .word (before ++ cs)) := by
  induction cs generalizing before with
  | nil => simp [run]
  | cons c cs ih =>
    have first := letters c List.mem_cons_self
    have rest := ih (fun d member => letters d (List.mem_cons_of_mem _ member)) (before ++ [c])
    simp [run, next, first, rest]

theorem scan_word {c : Char} {cs : List Char} (begins : start c = ([], .word [c]))
    (letters : ∀ d ∈ cs, classOf d = .word) : scan .none (c :: cs) = some [ofWord (c :: cs)] := by
  have started : next .none c = ([], .word [c]) := begins
  simp [scan, run, started, run_word letters, finish]

theorem classOf_digit {c : Char} (digit : c.isDigit) : classOf c = .word := by
  have different : ∀ d : Char, d.isDigit = false → c ≠ d := by
    rintro d other rfl
    rw [digit] at other
    cases other
  have noneDigit : (marks ++ signs).all (fun d => !d.isDigit) := by decide
  have outside : c ∉ marks ++ signs := by
    intro member
    have other := List.all_eq_true.mp noneDigit c member
    simp [digit] at other
  rw [List.mem_append, not_or] at outside
  have letter : c.isAlphanum := by simp [Char.isAlphanum, digit]
  rw [classOf, if_neg (different '"' rfl), if_neg (different '?' rfl), if_neg (different '@' rfl),
    if_neg outside.1, if_neg outside.2, if_pos (.inl letter)]

end Lexer

theorem toString_digits (n : Nat) :
    ∃ d ds, (toString n).toList = d :: ds ∧ ∀ c ∈ d :: ds, c.isDigit := by
  have nonempty : (toString n).toList ≠ [] := by
    rw [Nat.toString_eq_repr, Nat.toList_repr]
    exact Nat.toDigits_ne_nil
  obtain ⟨d, ds, digits⟩ := List.exists_cons_of_ne_nil nonempty
  exact ⟨d, ds, digits, fun c member => isDigit_of_mem_toString (digits ▸ member)⟩

theorem lex_toString (n : Nat) : lex (toString n) = some [.word (toString n)] := by
  obtain ⟨d, ds, word, digits⟩ := toString_digits n
  have first := digits d List.mem_cons_self
  have begins : start d = ([], .word [d]) := by simp [start, classOf_digit first]
  -- a digit is none of the two characters that begin a placeholder
  have plain : isPlaceholder (d :: ds) = false := by
    unfold isPlaceholder
    split
    · rename_i same
      obtain ⟨rfl, _⟩ := List.cons.inj same
      exact absurd first (by decide)
    · rename_i same
      obtain ⟨rfl, _⟩ := List.cons.inj same
      exact absurd first (by decide)
    · rfl
  rw [lex, word, scan_word begins fun c member =>
    classOf_digit (digits c (List.mem_cons_of_mem _ member)), ofWord, plain, ← word,
    String.ofList_toList]
  rfl

theorem lex_placeholder (style : Style) (n : Nat) :
    lex (style.placeholder n) = some [.placeholder (style.placeholder n)] := by
  obtain ⟨d, ds, number, digits⟩ := toString_digits n
  have letters : ∀ c ∈ d :: ds, classOf c = .word := fun c member => classOf_digit (digits c member)
  cases style with
  | question =>
    show lex "?" = some [.placeholder "?"]
    decide
  | dollar =>
    have word : (Style.dollar.placeholder n).toList = '$' :: d :: ds := by
      rw [Style.placeholder, String.toList_append, number]
      rfl
    have numbered : isPlaceholder ('$' :: d :: ds) = true := by
      simpa [isPlaceholder] using digits
    rw [lex, word, scan_word rfl letters, ofWord, if_pos numbered, ← word, String.ofList_toList]
  | named =>
    have word : (Style.named.placeholder n).toList = '@' :: 'p' :: d :: ds := by
      rw [Style.placeholder, String.toList_append, number]
      rfl
    have named : isPlaceholder ('@' :: 'p' :: d :: ds) = true := rfl
    rw [lex, word, scan_word rfl (List.forall_mem_cons.mpr ⟨rfl, letters⟩), ofWord, if_pos named,
      ← word, String.ofList_toList]

/-! ### Names -/

namespace Lexer

theorem classOf_eq_quote {c : Char} : classOf c = .quote ↔ c = '"' := by
  unfold classOf
  grind

theorem next_name {c : Char} (h : c ≠ '"') (before : List Char) :
    next (.name before) c = ([], .name (before ++ [c])) := by
  cases kind : classOf c with
  | quote => exact absurd (classOf_eq_quote.mp kind) h
  | _ => simp [next, kind]

theorem run_name (cs before : List Char) :
    run (.name before) (cs.flatMap fun c => if c = '"' then ['"', '"'] else [c]) =
      ([], .name (before ++ cs)) := by
  induction cs generalizing before with
  | nil => simp [run]
  | cons c cs ih =>
    have rest := ih (before ++ [c])
    rw [List.append_assoc, List.singleton_append] at rest
    rw [List.flatMap_cons, run_append]
    by_cases quote : c = '"'
    · -- the first of two quotes might end the name; the second takes that back
      subst quote
      have doubled : run (.name before) ['"', '"'] = ([], .name (before ++ ['"'])) := rfl
      rw [if_pos rfl, doubled, rest]
      rfl
    · have single : run (.name before) [c] = ([], .name (before ++ [c])) := by
        simp [run, next_name quote]
      rw [if_neg quote, single, rest]
      rfl

end Lexer

theorem lex_quoteName (name : String) : lex (quoteName name) = some [.name name] := by
  have opened : next .none '"' = ([], .name []) := rfl
  have closed : ∀ cs, next (.name cs) '"' = ([], .quote cs) := fun _ => rfl
  have ended : ∀ cs, finish (.quote cs) = some [.name (String.ofList cs)] := fun _ => rfl
  simp only [lex, quoteName, String.toList_ofList, scan, run, opened, run_append, run_name, closed]
  simp [ended]

/-! ### Blanks at the ends -/

namespace Lexer

theorem isSpace_eq_false {c : Char} (low : 0x21 ≤ c.toNat) (high : c.toNat < 0x7F) :
    Unicode.isSpace c = false := by
  simp [Unicode.isSpace, Unicode.inRanges, Unicode.spaceSeparator, Unicode.lineSeparator,
    Unicode.paragraphSeparator, Unicode.Range.contains]
  omega

theorem classOf_isSpace {c : Char} (blank : Unicode.isSpace c) : classOf c = .blank := by
  have different : ∀ d : Char, 0x21 ≤ d.toNat ∧ d.toNat < 0x7F → c ≠ d := by
    rintro d ⟨low, high⟩ rfl
    rw [isSpace_eq_false low high] at blank
    cases blank
  have allVisible : (marks ++ signs).all (fun d => 0x21 ≤ d.toNat ∧ d.toNat < 0x7F) := by decide
  have outside : c ∉ marks ++ signs := fun member =>
    different c (of_decide_eq_true (List.all_eq_true.mp allVisible c member)) rfl
  rw [List.mem_append, not_or] at outside
  have notLetter : ¬(c.isAlphanum ∨ c = '_' ∨ c = '$') := by
    rintro (letter | under | dollar)
    · refine different c ?_ rfl
      -- letters and digits are visible, by the bounds in their definition
      have bounds : ((decide (c.val ≥ 'A'.val ∧ c.val ≤ 'Z'.val) ||
          (c.val ≥ 'a'.val && c.val ≤ 'z'.val)) || (c.val ≥ '0'.val && c.val ≤ '9'.val)) = true :=
        letter
      simp only [Bool.or_eq_true, Bool.and_eq_true, decide_eq_true_eq, ge_iff_le,
        UInt32.le_iff_toNat_le, Char.reduceVal, UInt32.reduceToNat] at bounds
      rw [Char.toNat]
      omega
    · exact different '_' (by decide) under
    · exact different '$' (by decide) dollar
  rw [classOf, if_neg (different '"' (by decide)), if_neg (different '?' (by decide)),
    if_neg (different '@' (by decide)), if_neg outside.1, if_neg outside.2, if_neg notLetter,
    if_pos blank]

theorem scan_blank {c : Char} (blank : Unicode.isSpace c) (cs : List Char) :
    scan .none (c :: cs) = scan .none cs := by
  have skipped : next .none c = ([], .none) := by simp [next, start, classOf_isSpace blank]
  simp [scan, run, skipped]

/-- A blank at the end of a text adds no token, and does not end a name. -/
theorem scan_blank_end {c : Char} (blank : Unicode.isSpace c) (p : Pending) (cs : List Char) :
    scan p (cs ++ [c]) = scan p cs := by
  -- inside of an open name the blank is kept, but such a text has no tokens anyway
  have ended : ∀ q, scan q [c] = finish q := by
    intro q
    have skipped : start c = ([], .none) := by simp [start, classOf_isSpace blank]
    cases q <;> simp [scan, run, next, classOf_isSpace blank, skipped, finish]
  rw [scan_append, ended]
  rfl

theorem scan_dropWhile (cs : List Char) :
    scan .none (cs.dropWhile Unicode.isSpace) = scan .none cs := by
  induction cs with
  | nil => rfl
  | cons c cs ih =>
    rw [List.dropWhile_cons]
    split
    · rename_i blank
      rw [ih, scan_blank blank]
    · rfl

theorem scan_dropWhile_end (p : Pending) (cs : List Char) :
    scan p (cs.dropWhile Unicode.isSpace).reverse = scan p cs.reverse := by
  induction cs with
  | nil => rfl
  | cons c cs ih =>
    rw [List.dropWhile_cons, List.reverse_cons]
    split
    · rename_i blank
      rw [ih, scan_blank_end blank]
    · rw [List.reverse_cons]

end Lexer

theorem lex_trimSpace (s : String) :
    lex (String.ofList (Unicode.trimSpace s.toList)) = lex s := by
  rw [lex, String.toList_ofList, Unicode.trimSpace, scan_dropWhile_end,
    List.reverse_reverse, scan_dropWhile, lex]

end FilterQuery.Sql
