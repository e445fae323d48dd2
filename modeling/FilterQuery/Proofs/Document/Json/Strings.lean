import FilterQuery.Proofs.Document.Json.Tree
import FilterQuery.Proofs.Text.Utf8

/-!
# Strings in JSON texts

`Spells` says in which ways a text is written as the body of a string: each character as it is, as an
escape of one letter, or as one or two code units. Each body is read as the text (`bodyText_spelled`).
-/

namespace FilterQuery.Json

/-- The letters of escapes, and what they stand for. -/
def escapes : List (UInt8 × Char) :=
  [(0x22, '"'), (0x5C, '\\'), (0x2F, '/'), (0x62, '\x08'), (0x66, '\x0c'), (0x6E, '\n'), (0x72, '\r'),
    (0x74, '\t')]

/-- An escape of a code unit: `\u` and four hexadecimal digits of either case. -/
inductive IsUnit : List UInt8 → Nat → Prop
  | digits {a b c d : UInt8} {u : Nat} (value : hexNumber? [a, b, c, d] = some u) :
    IsUnit [backslash, 0x75, a, b, c, d] u

/-- The body of a string and the text that is written there. -/
inductive Spells : List UInt8 → List Char → Prop
  | nil : Spells [] []
  | plain {c : Char} {body : List UInt8} {cs : List Char} (printable : 0x20 ≤ c.toNat)
    (noQuote : c ≠ '"') (noEscape : c ≠ '\\') (rest : Spells body cs) :
    Spells (String.utf8EncodeChar c ++ body) (c :: cs)
  | escape {letter : UInt8} {c : Char} {body : List UInt8} {cs : List Char}
    (known : (letter, c) ∈ escapes) (rest : Spells body cs) :
    Spells (backslash :: letter :: body) (c :: cs)
  | unit {s : List UInt8} {c : Char} {body : List UInt8} {cs : List Char} (isUnit : IsUnit s c.toNat)
    (rest : Spells body cs) : Spells (s ++ body) (c :: cs)
  | pair {s s' : List UInt8} {hi lo : Nat} {body : List UInt8} {cs : List Char} (high : hi < 0x400)
    (low : lo < 0x400) (first : IsUnit s (0xD800 + hi)) (second : IsUnit s' (0xDC00 + lo))
    (rest : Spells body cs) :
    Spells (s ++ (s' ++ body)) (Char.ofNat (hi * 0x400 + lo + 0x10000) :: cs)

/-! ### Bytes in a body -/

theorem IsBody.bytes {s body : List UInt8} (plain : ∀ b ∈ s, b ≠ quote ∧ b ≠ backslash)
    (rest : IsBody body) : IsBody (s ++ body) := by
  induction s with
  | nil => exact rest
  | cons b s ih =>
    obtain ⟨noQuote, noEscape⟩ := plain b List.mem_cons_self
    exact .byte noQuote noEscape (ih fun b member => plain b (List.mem_cons_of_mem _ member))

theorem encodeChar_plain {c : Char} (printable : 0x20 ≤ c.toNat) (noQuote : c ≠ '"')
    (noEscape : c ≠ '\\') {b : UInt8} (member : b ∈ String.utf8EncodeChar c) :
    b ≠ quote ∧ b ≠ backslash ∧ ¬b < 0x20 := by
  rcases Utf8.encodeChar_bytes c with ⟨ascii, encoded⟩ | high
  · rw [encoded, List.mem_singleton] at member
    subst member
    have other {d : Char} (ne : c ≠ d) : c.toNat ≠ d.toNat := fun same => ne (Char.toNat_inj.mp same)
    refine ⟨fun same => ?_, fun same => ?_, ?_⟩
    · exact other noQuote (Utf8.eq_toNat (by omega) same)
    · exact other noEscape (Utf8.eq_toNat (by omega) same)
    · rw [UInt8.not_lt]
      exact Utf8.le_ofNat (by omega) printable
  · have above := high b member
    refine ⟨?_, ?_, ?_⟩
    · rintro rfl
      exact absurd above (by decide)
    · rintro rfl
      exact absurd above (by decide)
    · exact UInt8.not_lt.mpr (UInt8.le_trans (by decide) above)

theorem hexNumber?_digits {ds : List UInt8} {u : Nat} (value : hexNumber? ds = some u) :
    ∀ b ∈ ds, (hexValue? b).isSome := by
  unfold hexNumber? at value
  generalize 0 = n at value
  induction ds generalizing n with
  | nil => simp
  | cons b ds ih =>
    rw [List.foldlM_cons] at value
    obtain ⟨m, first, rest⟩ := Option.bind_eq_some_iff.mp value
    obtain ⟨digit, found, _⟩ := Option.map_eq_some_iff.mp first
    exact List.forall_mem_cons.mpr ⟨by simp [found], ih m rest⟩

theorem IsUnit.isBody {s body : List UInt8} {u : Nat} (isUnit : IsUnit s u) (rest : IsBody body) :
    IsBody (s ++ body) := by
  cases isUnit with
  | digits value =>
    refine .escape (IsBody.bytes (fun b member => ?_) rest)
    have digit := hexNumber?_digits value b member
    constructor
    all_goals
      rintro rfl
      cases digit

theorem Spells.isBody {body : List UInt8} {cs : List Char} (spelled : Spells body cs) :
    IsBody body := by
  induction spelled with
  | nil => exact .nil
  | plain printable noQuote noEscape _ ih =>
    refine ih.bytes fun b member => ?_
    obtain ⟨noQuote, noEscape, _⟩ := encodeChar_plain printable noQuote noEscape member
    exact ⟨noQuote, noEscape⟩
  | escape _ _ ih => exact .escape ih
  | unit isUnit _ ih => exact isUnit.isBody ih
  | pair _ _ first second _ ih => exact first.isBody (second.isBody ih)

/-! ### Reading a body -/

theorem decodeBody_raw {b : UInt8} (noEscape : b ≠ backslash) (rest : List UInt8) :
    decodeBody (b :: rest) =
      if b < 0x20 then .error (.controlChar b)
      else (decodeBody (Utf8.firstPiece b rest).2).map ((Utf8.firstPiece b rest).1.shown :: ·) := by
  rw [decodeBody.eq_def]
  dsimp only
  rw [if_neg noEscape]
  split
  · rfl
  · cases decodeBody (Utf8.firstPiece b rest).2 <;> rfl

theorem decodeBody_plain {c : Char} (printable : 0x20 ≤ c.toNat) (noQuote : c ≠ '"')
    (noEscape : c ≠ '\\') (body : List UInt8) :
    decodeBody (String.utf8EncodeChar c ++ body) = (decodeBody body).map (c :: ·) := by
  obtain ⟨b, bs, encoded, piece⟩ := Utf8.firstPiece_encodeChar c
  have plain : b ∈ String.utf8EncodeChar c := by
    rw [encoded]
    exact List.mem_cons_self
  obtain ⟨_, noEscape, noControl⟩ := encodeChar_plain printable noQuote noEscape plain
  rw [encoded, List.cons_append, decodeBody_raw noEscape, if_neg noControl, piece]
  rfl

theorem decodeBody_escape {letter : UInt8} {rest : List UInt8} {c : Char} {n : Nat}
    (decoded : decodeEscape letter rest = .ok (c, n)) :
    decodeBody (backslash :: letter :: rest) = (decodeBody (rest.drop n)).map (c :: ·) := by
  rw [decodeBody.eq_def]
  dsimp only
  rw [if_pos rfl, decoded]
  change (do return c :: (← decodeBody (rest.drop n))) = _
  cases decodeBody (rest.drop n) <;> rfl

theorem decodeEscape_letter {letter : UInt8} {c : Char} (known : (letter, c) ∈ escapes)
    (rest : List UInt8) : decodeEscape letter rest = .ok (c, 0) := by
  simp only [escapes, List.mem_cons, Prod.mk.injEq, List.not_mem_nil, or_false] at known
  rcases known with ⟨rfl, rfl⟩ | ⟨rfl, rfl⟩ | ⟨rfl, rfl⟩ | ⟨rfl, rfl⟩ | ⟨rfl, rfl⟩ | ⟨rfl, rfl⟩ |
    ⟨rfl, rfl⟩ | ⟨rfl, rfl⟩
  all_goals rfl

theorem codeUnit?_digits {a b c d : UInt8} {u : Nat} (value : hexNumber? [a, b, c, d] = some u) :
    codeUnit? a b c d = some u := by
  have digit := hexNumber?_digits value a List.mem_cons_self
  rw [codeUnit?, if_neg, if_neg, value]
  all_goals
    rintro rfl
    cases digit

theorem nextUnit?_unit {s : List UInt8} {u : Nat} (isUnit : IsUnit s u) (rest : List UInt8) :
    nextUnit? (s ++ rest) = some u := by
  cases isUnit with
  | digits value =>
    rw [← codeUnit?_digits value, List.cons_append, List.cons_append, nextUnit?.eq_def]
    exact if_pos ⟨rfl, rfl⟩

theorem decodeEscape_unit {a b c d : UInt8} {u : Nat} (value : codeUnit? a b c d = some u)
    (single : isSurrogate u = false) (tail : List UInt8) :
    decodeEscape 0x75 (a :: b :: c :: d :: tail) = .ok (Char.ofNat u, 4) := by
  have long : simpleEscape? 0x75 = none := rfl
  rw [decodeEscape, long]
  refine (if_pos rfl).trans ?_
  simp only [value, single, Bool.false_eq_true, if_false]

theorem decodeEscape_half {a b c d : UInt8} {u : Nat} (value : codeUnit? a b c d = some u)
    (half : isSurrogate u = true) (tail : List UInt8) :
    decodeEscape 0x75 (a :: b :: c :: d :: tail) =
      .ok (match (nextUnit? tail).bind (pair? u) with
        | some ch => (ch, 10)
        | none => ('\uFFFD', 4)) := by
  have long : simpleEscape? 0x75 = none := rfl
  rw [decodeEscape, long]
  refine (if_pos rfl).trans ?_
  simp only [value, half, if_true]
  cases (nextUnit? tail).bind (pair? u) <;> rfl

theorem decodeBody_unit {s : List UInt8} {c : Char} (isUnit : IsUnit s c.toNat) (body : List UInt8) :
    decodeBody (s ++ body) = (decodeBody body).map (c :: ·) := by
  cases isUnit with
  | @digits x y z w _ value =>
    have single : isSurrogate c.toNat = false := by
      have bounds := Utf8.char_bounds c
      simp only [isSurrogate, Bool.and_eq_false_iff, decide_eq_false_iff_not]
      omega
    have decoded := decodeEscape_unit (codeUnit?_digits value) single body
    rw [Char.ofNat_toNat] at decoded
    exact decodeBody_escape decoded

theorem decodeBody_pair {s s' : List UInt8} {hi lo : Nat} (high : hi < 0x400) (low : lo < 0x400)
    (first : IsUnit s (0xD800 + hi)) (second : IsUnit s' (0xDC00 + lo)) (body : List UInt8) :
    decodeBody (s ++ (s' ++ body)) =
      (decodeBody body).map (Char.ofNat (hi * 0x400 + lo + 0x10000) :: ·) := by
  have both : (nextUnit? (s' ++ body)).bind (pair? (0xD800 + hi)) =
      some (Char.ofNat (hi * 0x400 + lo + 0x10000)) := by
    rw [nextUnit?_unit second body, Option.bind_some, pair?, if_pos (by omega),
      Nat.add_sub_cancel_left, Nat.add_sub_cancel_left]
  have half : isSurrogate (0xD800 + hi) = true := by
    simp only [isSurrogate, Bool.and_eq_true, decide_eq_true_eq]
    omega
  cases first with
  | @digits x y z w _ value =>
    have skipped : List.drop 10 (x :: y :: z :: w :: (s' ++ body)) = body := by
      cases second
      rfl
    have decoded := decodeEscape_half (codeUnit?_digits value) half (s' ++ body)
    rw [both] at decoded
    exact (decodeBody_escape decoded).trans (by rw [skipped])

theorem decodeBody_spelled {body : List UInt8} {cs : List Char} (spelled : Spells body cs) :
    decodeBody body = .ok cs := by
  induction spelled with
  | nil => rw [decodeBody.eq_def]
  | plain printable noQuote noEscape _ ih =>
    rw [decodeBody_plain printable noQuote noEscape, ih]
    rfl
  | escape known _ ih =>
    rw [decodeBody_escape (decodeEscape_letter known _), List.drop_zero, ih]
    rfl
  | unit isUnit _ ih =>
    rw [decodeBody_unit isUnit, ih]
    rfl
  | pair high low first second _ ih =>
    rw [decodeBody_pair high low first second, ih]
    rfl

theorem bodyText_spelled {body : List UInt8} {text : String} (spelled : Spells body text.toList) :
    bodyText body = .ok text := by
  rw [bodyText, decodeBody_spelled spelled]
  exact congrArg Except.ok String.ofList_toList

end FilterQuery.Json
