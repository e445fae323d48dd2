import FilterQuery.Proofs.Document.Json.Escapes
import FilterQuery.Proofs.Results

/-!
# Bodies of JSON strings

`WellEscaped` and `StandsFor` say which bodies are read and as which text (`decodeBody_reads`).
-/

namespace FilterQuery.Json

/-- Every backslash starts an escape, and no other byte is a control character. -/
inductive WellEscaped (unit : UnitForm) : List UInt8 → Prop
  | nil : WellEscaped unit []
  | byte {b : UInt8} {body : List UInt8} (noEscape : b ≠ backslash) (printable : 0x20 ≤ b)
    (rest : WellEscaped unit body) : WellEscaped unit (b :: body)
  | letter {l : UInt8} {ch : Char} {body : List UInt8} (known : (l, ch) ∈ letters)
    (rest : WellEscaped unit body) : WellEscaped unit (backslash :: l :: body)
  | unit {a b c d : UInt8} {u : Nat} {body : List UInt8} (isUnit : unit a b c d u)
    (rest : WellEscaped unit body) : WellEscaped unit (backslash :: 0x75 :: a :: b :: c :: d :: body)

/-- The text that a body stands for: what is not escaped is UTF-8, and the bytes that start no
character are replaced. -/
inductive StandsFor (unit : UnitForm) : List UInt8 → List Char → Prop
  | nil : StandsFor unit [] []
  | plain {ch : Char} {body : List UInt8} {cs : List Char} (noEscape : ch ≠ '\\')
    (rest : StandsFor unit body cs) : StandsFor unit (String.utf8EncodeChar ch ++ body) (ch :: cs)
  | stray {b : UInt8} {body : List UInt8} {cs : List Char}
    (noChar : ∀ ch t, b :: body ≠ String.utf8EncodeChar ch ++ t) (rest : StandsFor unit body cs) :
    StandsFor unit (b :: body) ('\uFFFD' :: cs)
  | escape {s t : List UInt8} {ch : Char} {cs : List Char} (stands : EscapeStands unit s ch t)
    (rest : StandsFor unit t cs) : StandsFor unit (backslash :: s) (ch :: cs)

/-! ### Raw bytes -/

section Raw

variable {unit : UnitForm} {b : UInt8} {rest : List UInt8}

theorem wellEscaped_byte (noEscape : b ≠ backslash) :
    WellEscaped unit (b :: rest) ↔ ¬b < 0x20 ∧ WellEscaped unit rest := by
  constructor
  · intro well
    cases well with
    | byte _ printable rest => exact ⟨UInt8.not_lt.mpr printable, rest⟩
    | letter => exact absurd rfl noEscape
    | unit => exact absurd rfl noEscape
  · rintro ⟨printable, well⟩
    exact .byte noEscape (UInt8.not_lt.mp printable) well

theorem wellEscaped_append {bs : List UInt8} (high : ∀ b ∈ bs, 0x80 ≤ b) :
    WellEscaped unit (bs ++ rest) ↔ WellEscaped unit rest := by
  induction bs with
  | nil => exact Iff.rfl
  | cons b bs ih =>
    obtain ⟨first, high⟩ := List.forall_mem_cons.mp high
    have noEscape : b ≠ backslash := by
      rintro rfl
      exact absurd first (by decide)
    have printable : ¬b < 0x20 := UInt8.not_lt.mpr (UInt8.le_trans (by decide) first)
    rw [List.cons_append, wellEscaped_byte noEscape, ih high]
    exact and_iff_right printable

theorem wellEscaped_raw (noEscape : b ≠ backslash) :
    WellEscaped unit (b :: rest) ↔ ¬b < 0x20 ∧ WellEscaped unit (Utf8.firstPiece b rest).2 := by
  rcases Utf8.firstPiece_cases b rest with ⟨ch, t, piece, starts⟩ | ⟨piece, _⟩
  · rw [piece]
    rcases Utf8.encodeChar_bytes ch with ⟨_, encoded⟩ | high
    · rw [encoded] at starts
      obtain ⟨_, rfl⟩ := List.cons.inj starts
      exact wellEscaped_byte noEscape
    · have first : 0x80 ≤ b := by
        obtain ⟨d, ds, encoded, _⟩ := Utf8.firstPiece_encodeChar ch
        have first := starts
        rw [encoded] at first
        obtain ⟨rfl, _⟩ := List.cons.inj first
        exact high b (by rw [encoded]; exact List.mem_cons_self)
      rw [starts, wellEscaped_append high]
      exact (and_iff_right (UInt8.not_lt.mpr (UInt8.le_trans (by decide) first))).symm
  · rw [piece]
    exact wellEscaped_byte noEscape

theorem standsFor_raw (noEscape : b ≠ backslash) {cs : List Char} :
    StandsFor unit (b :: rest) cs ↔
      ∃ cs', cs = (Utf8.firstPiece b rest).1.shown :: cs' ∧
        StandsFor unit (Utf8.firstPiece b rest).2 cs' := by
  constructor
  · intro stands
    generalize whole : b :: rest = body at stands
    cases stands with
    | nil => cases whole
    | @plain ch t cs' _ stands =>
      rw [Utf8.firstPiece_eq_char.mpr whole]
      exact ⟨cs', rfl, stands⟩
    | @stray b' t cs' noChar stands =>
      obtain ⟨rfl, rfl⟩ := List.cons.inj whole
      rcases Utf8.firstPiece_cases b rest with ⟨ch, t, _, starts⟩ | ⟨piece, _⟩
      · exact absurd starts (noChar ch t)
      · rw [piece]
        exact ⟨cs', rfl, stands⟩
    | escape => exact absurd (List.cons.inj whole).1 noEscape
  · rintro ⟨cs', rfl, stands⟩
    rcases Utf8.firstPiece_cases b rest with ⟨ch, t, piece, starts⟩ | ⟨piece, noChar⟩
    · rw [piece] at stands ⊢
      rw [starts]
      refine .plain ?_ stands
      rintro rfl
      exact noEscape (List.cons.inj starts).1
    · rw [piece] at stands ⊢
      exact .stray noChar stands

end Raw

/-! ### Bodies -/

section Escape

variable {unit : UnitForm} {s : List UInt8}

theorem wellEscaped_escape :
    WellEscaped unit (backslash :: s) ↔ ∃ ch t, EscapeStands unit s ch t ∧ WellEscaped unit t := by
  constructor
  · intro well
    cases well with
    | byte noEscape => exact absurd rfl noEscape
    | letter known rest => exact ⟨_, _, .letter known, rest⟩
    | @unit a b c d u t isUnit rest =>
      by_cases half : 0xD800 ≤ u ∧ u < 0xE000
      · by_cases partner : u < 0xDC00 ∧ ∃ a' b' c' d' lo t', lo < 0x400 ∧
            unit a' b' c' d' (0xDC00 + lo) ∧ t = backslash :: 0x75 :: a' :: b' :: c' :: d' :: t'
        · obtain ⟨below, a', b', c', d', lo, t', low, second, rfl⟩ := partner
          obtain ⟨hi, rfl⟩ := Nat.exists_eq_add_of_le half.1
          have rest' : WellEscaped unit t' := by
            cases rest with
            | byte noEscape => exact absurd rfl noEscape
            | letter known => exact absurd known (not_letter _)
            | unit _ rest' => exact rest'
          exact ⟨_, t', .pair (by omega) low isUnit second, rest'⟩
        · refine ⟨_, t, .half isUnit half fun below a' b' c' d' lo t' low second same => ?_, rest⟩
          exact partner ⟨below, a', b', c', d', lo, t', low, second, same⟩
      · exact ⟨_, t, .single isUnit half, rest⟩
  · rintro ⟨ch, t, stands, well⟩
    cases stands with
    | letter known => exact .letter known well
    | single isUnit => exact .unit isUnit well
    | pair _ _ first second => exact .unit first (.unit second well)
    | half isUnit => exact .unit isUnit well

theorem standsFor_nil {cs : List Char} : StandsFor unit [] cs ↔ cs = [] := by
  constructor
  · intro stands
    generalize whole : [] = body at stands
    cases stands with
    | nil => rfl
    | @plain ch =>
      obtain ⟨b, bs, encoded, _⟩ := Utf8.firstPiece_encodeChar ch
      rw [encoded] at whole
      cases whole
    | stray => cases whole
    | escape => cases whole
  · rintro rfl
    exact .nil

theorem standsFor_escape {cs : List Char} :
    StandsFor unit (backslash :: s) cs ↔
      ∃ ch t cs', cs = ch :: cs' ∧ EscapeStands unit s ch t ∧ StandsFor unit t cs' := by
  constructor
  · intro stands
    generalize whole : backslash :: s = body at stands
    cases stands with
    | nil => cases whole
    | @plain ch t cs' noEscape _ =>
      have slash : String.utf8EncodeChar '\\' = [backslash] := by decide
      have other := Utf8.firstPiece_eq_char.mpr whole
      have starts : backslash :: s = String.utf8EncodeChar '\\' ++ s := by rw [slash]; rfl
      rw [Utf8.firstPiece_eq_char.mpr starts] at other
      cases other
      exact absurd rfl noEscape
    | @stray b' t cs' noChar _ =>
      refine absurd ?_ (noChar '\\' s)
      rw [← whole]
      rfl
    | @escape s' t ch cs' stands rest =>
      cases whole
      exact ⟨ch, t, cs', rfl, stands, rest⟩
  · rintro ⟨ch, t, cs', rfl, stands, rest⟩
    exact .escape stands rest

theorem WellEscaped.standsFor {body : List UInt8} (well : WellEscaped unit body) :
    ∃ cs, StandsFor unit body cs := by
  induction body using decodeBody.induct with
  | case1 => exact ⟨[], .nil⟩
  | case2 =>
    obtain ⟨_, _, stands, _⟩ := wellEscaped_escape.mp well
    cases stands
  | case3 letter rest ih =>
    obtain ⟨ch, t, stands, well⟩ := wellEscaped_escape.mp well
    obtain ⟨_, _, n, same, rfl⟩ := stands.drop
    cases same
    obtain ⟨cs, rest⟩ := ih n well
    exact ⟨ch :: cs, .escape stands rest⟩
  | case4 b rest noEscape control => exact absurd control ((wellEscaped_raw noEscape).mp well).1
  | case5 b rest noEscape printable _ ih =>
    obtain ⟨cs, stands⟩ := ih ((wellEscaped_raw noEscape).mp well).2
    exact ⟨_, (standsFor_raw noEscape).mpr ⟨cs, rfl, stands⟩⟩

end Escape

theorem decodeBody_backslash {s : List UInt8} {cs : List Char} :
    decodeBody (backslash :: s) = .ok cs ↔
      ∃ ch t cs', cs = ch :: cs' ∧ EscapeStands ReadsUnit s ch t ∧ decodeBody t = .ok cs' := by
  constructor
  · intro read
    cases s with
    | nil =>
      rw [decodeBody.eq_def] at read
      cases read
    | cons letter rest =>
      cases decoded : decodeEscape letter rest with
      | error e =>
        rw [decodeBody.eq_def] at read
        dsimp only at read
        rw [if_pos rfl, decoded] at read
        cases read
      | ok escape =>
        obtain ⟨ch, n⟩ := escape
        rw [decodeBody_escape decoded] at read
        obtain ⟨cs', rest', rfl⟩ := map_eq_ok.mp read
        exact ⟨ch, _, cs', rfl, decodeEscape_stands.mpr ⟨letter, rest, n, rfl, decoded, rfl⟩, rest'⟩
  · rintro ⟨ch, t, cs', rfl, stands, read⟩
    obtain ⟨letter, rest, n, rfl, decoded, rfl⟩ := decodeEscape_stands.mp stands
    rw [decodeBody_escape decoded, read]
    rfl

theorem decodeBody_eq_ok {body : List UInt8} {cs : List Char} :
    decodeBody body = .ok cs ↔ WellEscaped ReadsUnit body ∧ StandsFor ReadsUnit body cs := by
  induction body using decodeBody.induct generalizing cs with
  | case1 =>
    rw [decodeBody.eq_def]
    constructor
    · intro read
      cases read
      exact ⟨.nil, .nil⟩
    · rintro ⟨_, stands⟩
      rw [standsFor_nil.mp stands]
  | case2 =>
    rw [decodeBody_backslash, wellEscaped_escape]
    constructor
    · rintro ⟨_, _, _, _, stands, _⟩
      cases stands
    · rintro ⟨⟨_, _, stands, _⟩, _⟩
      cases stands
  | case3 letter rest ih =>
    rw [decodeBody_backslash, wellEscaped_escape, standsFor_escape]
    constructor
    · rintro ⟨ch, t, cs', rfl, stands, read⟩
      obtain ⟨_, _, n, same, _, rfl⟩ := decodeEscape_stands.mp stands
      cases same
      obtain ⟨well, rest⟩ := (ih n).mp read
      exact ⟨⟨ch, _, stands, well⟩, ch, _, cs', rfl, stands, rest⟩
    · rintro ⟨⟨_, _, stands, well⟩, ch, t, cs', rfl, stands', rest'⟩
      obtain ⟨_, rfl⟩ := escapeStands_unique stands stands'
      obtain ⟨_, _, n, same, _, rfl⟩ := decodeEscape_stands.mp stands
      cases same
      exact ⟨ch, _, cs', rfl, stands', (ih n).mpr ⟨well, rest'⟩⟩
  | case4 b rest noEscape control =>
    rw [decodeBody_raw noEscape, if_pos control, wellEscaped_raw noEscape]
    simp [control]
  | case5 b rest noEscape printable _ ih =>
    rw [decodeBody_raw noEscape, if_neg printable, wellEscaped_raw noEscape, standsFor_raw noEscape,
      map_eq_ok]
    constructor
    · rintro ⟨cs', read, rfl⟩
      obtain ⟨well, stands⟩ := ih.mp read
      exact ⟨⟨printable, well⟩, cs', rfl, stands⟩
    · rintro ⟨⟨_, well⟩, cs', rfl, stands⟩
      exact ⟨cs', ih.mpr ⟨well, stands⟩, rfl⟩

/-! ### Four digits -/

theorem StandsFor.reads {body : List UInt8} {cs : List Char} (stands : StandsFor FourDigits body cs) :
    StandsFor ReadsUnit body cs := by
  induction stands with
  | nil => exact .nil
  | plain noEscape _ ih => exact .plain noEscape ih
  | stray noChar _ ih => exact .stray noChar ih
  | escape stands _ ih => exact .escape stands.reads ih

theorem WellEscaped.reads {body : List UInt8} (well : WellEscaped FourDigits body) :
    WellEscaped ReadsUnit body := by
  induction well with
  | nil => exact .nil
  | byte noEscape printable _ ih => exact .byte noEscape printable ih
  | letter known _ ih => exact .letter known ih
  | unit isUnit _ ih => exact .unit (.digits isUnit) ih

/-- A body is read iff its escapes are, as the text that it stands for. Where each code unit is
written with four digits, that is the text by these digits. -/
theorem decodeBody_reads (body : List UInt8) :
    ((∃ cs, decodeBody body = .ok cs) ↔ WellEscaped ReadsUnit body) ∧
      (∀ cs, decodeBody body = .ok cs ↔ WellEscaped ReadsUnit body ∧ StandsFor ReadsUnit body cs) ∧
      (WellEscaped FourDigits body →
        ∀ cs, decodeBody body = .ok cs ↔ StandsFor FourDigits body cs) := by
  refine ⟨⟨?_, ?_⟩, fun cs => decodeBody_eq_ok, ?_⟩
  · rintro ⟨cs, read⟩
    exact (decodeBody_eq_ok.mp read).1
  · intro well
    obtain ⟨cs, stands⟩ := well.standsFor
    exact ⟨cs, decodeBody_eq_ok.mpr ⟨well, stands⟩⟩
  · intro well cs
    constructor
    · intro read
      obtain ⟨cs', stands⟩ := well.standsFor
      have read' := decodeBody_eq_ok.mpr ⟨well.reads, stands.reads⟩
      rw [read] at read'
      cases read'
      exact stands
    · intro stands
      exact decodeBody_eq_ok.mpr ⟨well.reads, stands.reads⟩

theorem decodeBody_reads_digits :
    WellEscaped FourDigits [backslash, 0x75, 0x30, 0x30, 0x34, 0x31] ∧
      decodeBody [backslash, 0x75, 0x30, 0x30, 0x34, 0x31] = .ok ['A'] := by
  have value : FourDigits 0x30 0x30 0x34 0x31 0x41 := hexNumber?_eq_some.mp (by decide)
  have well : WellEscaped FourDigits [backslash, 0x75, 0x30, 0x30, 0x34, 0x31] := .unit value .nil
  refine ⟨well, ((decodeBody_reads _).2.2 well _).mpr ?_⟩
  exact .escape (.single value (by decide)) .nil

/-- `\u+041` has no four digits, and is read as `A`. -/
theorem decodeBody_signed :
    IsBody [backslash, 0x75, 0x2B, 0x30, 0x34, 0x31] ∧
      ¬WellEscaped FourDigits [backslash, 0x75, 0x2B, 0x30, 0x34, 0x31] ∧
      decodeBody [backslash, 0x75, 0x2B, 0x30, 0x34, 0x31] = .ok ['A'] := by
  refine ⟨?_, ?_, ?_⟩
  · refine .escape (IsBody.bytes (s := [0x2B, 0x30, 0x34, 0x31]) ?_ .nil)
    simp [quote, backslash]
  · intro well
    cases well with
    | byte noEscape => exact noEscape rfl
    | letter known => exact not_letter _ known
    | unit isUnit => cases hexNumber?_eq_some.mpr isUnit
  · have value : HexNumber [0x30, 0x34, 0x31] 0x41 := hexNumber?_eq_some.mp (by decide)
    refine decodeBody_backslash.mpr ⟨'A', [], [], rfl, .single (.plus value) (by decide), ?_⟩
    rw [decodeBody.eq_def]

end FilterQuery.Json
