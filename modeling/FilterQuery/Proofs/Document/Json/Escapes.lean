import FilterQuery.Proofs.Document.Json.Strings
import Mathlib.Tactic.NormNum

/-!
# Escapes in JSON strings

`EscapeStands` says what may stand after a backslash and which character it stands for, for a given
form of the four characters behind `\u`. The reader has the form `ReadsUnit` (`decodeEscape_stands`),
in which a sign may stand in the place of the first digit.
-/

namespace FilterQuery.Json

/-! ### Code units -/

/-- A hexadecimal digit, of either case, and its value. -/
def IsHexDigit (b : UInt8) (v : Nat) : Prop :=
  v < 16 ∧ (b.toNat = v.digitChar.toNat ∨ b.toNat = v.digitChar.toUpper.toNat)

instance (b : UInt8) (v : Nat) : Decidable (IsHexDigit b v) := inferInstanceAs (Decidable (_ ∧ _))

inductive HexNumber : List UInt8 → Nat → Prop
  | nil : HexNumber [] 0
  | digit {bs : List UInt8} {b : UInt8} {u v : Nat} (before : HexNumber bs u) (last : IsHexDigit b v) :
    HexNumber (bs ++ [b]) (u * 16 + v)

/-- Which four characters are written for which code unit. -/
abbrev UnitForm := UInt8 → UInt8 → UInt8 → UInt8 → Nat → Prop

def FourDigits : UnitForm := fun a b c d u => HexNumber [a, b, c, d] u

/-- Four characters that are read as a code unit. The first may be a sign, but only zero is negative. -/
inductive ReadsUnit : UnitForm
  | digits {a b c d : UInt8} {u : Nat} (value : FourDigits a b c d u) : ReadsUnit a b c d u
  | plus {b c d : UInt8} {u : Nat} (value : HexNumber [b, c, d] u) : ReadsUnit 0x2B b c d u
  | minus {b c d : UInt8} (zero : HexNumber [b, c, d] 0) : ReadsUnit 0x2D b c d 0

theorem hexValue?_lt {b : UInt8} {v : Nat} (value : hexValue? b = some v) : v < 16 := by
  unfold hexValue? at value
  simp only [UInt8.le_iff_toNat_le] at value
  split at value
  · rename_i range
    change 48 ≤ _ ∧ _ ≤ 57 at range
    cases value
    omega
  split at value
  · rename_i range
    change 97 ≤ _ ∧ _ ≤ 102 at range
    cases value
    omega
  split at value
  · rename_i range
    change 65 ≤ _ ∧ _ ≤ 70 at range
    cases value
    omega
  · cases value

theorem hexValue?_eq_some {b : UInt8} {v : Nat} : hexValue? b = some v ↔ IsHexDigit b v := by
  by_cases small : v < 16
  · exact Utf8.forall_byte (P := fun b => ∀ v < 16, (hexValue? b = some v ↔ IsHexDigit b v))
      (by decide +kernel) b v small
  · constructor
    · intro value
      exact absurd (hexValue?_lt value) small
    · intro digit
      exact absurd digit.1 small

theorem hexNumber?_eq_some {bs : List UInt8} {u : Nat} : hexNumber? bs = some u ↔ HexNumber bs u := by
  constructor
  · intro read
    induction bs using List.reverseRecOn generalizing u with
    | nil =>
      cases read
      exact .nil
    | append_singleton bs b ih =>
      rw [hexNumber?, List.foldlM_append] at read
      obtain ⟨n, before, last⟩ := Option.bind_eq_some_iff.mp read
      obtain ⟨m, last, done⟩ := Option.bind_eq_some_iff.mp last
      cases done
      obtain ⟨v, digit, rfl⟩ := Option.map_eq_some_iff.mp last
      exact .digit (ih before) (hexValue?_eq_some.mp digit)
  · intro number
    induction number with
    | nil => rfl
    | digit _ last ih =>
      rw [hexNumber?] at ih ⊢
      rw [List.foldlM_append, ih, Option.bind_eq_bind, Option.bind_some, List.foldlM_cons,
        hexValue?_eq_some.mpr last]
      rfl

theorem HexNumber.lt {bs : List UInt8} {u : Nat} (number : HexNumber bs u) : u < 16 ^ bs.length := by
  induction number with
  | nil => decide
  | digit _ last ih =>
    have small := last.1
    rw [List.length_append, List.length_singleton, Nat.pow_succ]
    omega

/-- Three digits denote no half of a pair. -/
theorem ReadsUnit.fourDigits {a b c d : UInt8} {u : Nat} (isUnit : ReadsUnit a b c d u)
    (large : 0x1000 ≤ u) : FourDigits a b c d u := by
  cases isUnit with
  | digits value => exact value
  | plus value =>
    have small := value.lt
    simp only [List.length_cons, List.length_nil] at small
    omega
  | minus => cases large

theorem codeUnit?_eq_some {a b c d : UInt8} {u : Nat} :
    codeUnit? a b c d = some u ↔ ReadsUnit a b c d u := by
  constructor
  · intro read
    unfold codeUnit? at read
    split at read
    · rename_i plus
      subst plus
      exact .plus (hexNumber?_eq_some.mp read)
    · split at read
      · rename_i minus
        subst minus
        obtain ⟨value, zero⟩ := Option.filter_eq_some_iff.mp read
        rw [beq_iff_eq] at zero
        subst zero
        exact .minus (hexNumber?_eq_some.mp value)
      · exact .digits (hexNumber?_eq_some.mp read)
  · intro unit
    cases unit with
    | digits value => exact codeUnit?_digits (hexNumber?_eq_some.mpr value)
    | plus value => exact (if_pos rfl).trans (hexNumber?_eq_some.mpr value)
    | minus zero =>
      rw [codeUnit?, if_neg (by decide), if_pos rfl, hexNumber?_eq_some.mpr zero]
      rfl

/-! ### Escapes -/

/-- The letters of escapes and what they stand for. Unlike in other documents the single quote is one. -/
def letters : List (UInt8 × Char) := (0x27, '\'') :: escapes

theorem simpleEscape?_eq_some {letter : UInt8} {c : Char} :
    simpleEscape? letter = some c ↔ (letter, c) ∈ letters := by
  constructor
  · intro simple
    unfold simpleEscape? at simple
    split at simple
    all_goals first | cases simple; decide | cases simple
  · intro known
    rcases List.mem_cons.mp known with same | known
    · cases same
      rfl
    · have decoded := decodeEscape_letter known []
      unfold decodeEscape at decoded
      split at decoded
      · rename_i found
        cases decoded
        exact found
      · split at decoded <;> cases decoded

/-- What stands after a backslash, the character it stands for, and what is left. -/
inductive EscapeStands (unit : UnitForm) :
    List UInt8 → Char → List UInt8 → Prop
  | letter {l : UInt8} {ch : Char} {rest : List UInt8} (known : (l, ch) ∈ letters) :
    EscapeStands unit (l :: rest) ch rest
  | single {a b c d : UInt8} {u : Nat} {rest : List UInt8} (isUnit : unit a b c d u)
    (noHalf : ¬(0xD800 ≤ u ∧ u < 0xE000)) :
    EscapeStands unit (0x75 :: a :: b :: c :: d :: rest) (Char.ofNat u) rest
  | pair {a b c d a' b' c' d' : UInt8} {hi lo : Nat} {rest : List UInt8} (high : hi < 0x400)
    (low : lo < 0x400) (first : unit a b c d (0xD800 + hi)) (second : unit a' b' c' d' (0xDC00 + lo)) :
    EscapeStands unit
      (0x75 :: a :: b :: c :: d :: backslash :: 0x75 :: a' :: b' :: c' :: d' :: rest)
      (Char.ofNat (hi * 0x400 + lo + 0x10000)) rest
  | half {a b c d : UInt8} {u : Nat} {rest : List UInt8} (isUnit : unit a b c d u)
    (half : 0xD800 ≤ u ∧ u < 0xE000)
    (alone : u < 0xDC00 → ∀ a' b' c' d' lo rest', lo < 0x400 → unit a' b' c' d' (0xDC00 + lo) →
      rest ≠ backslash :: 0x75 :: a' :: b' :: c' :: d' :: rest') :
    EscapeStands unit (0x75 :: a :: b :: c :: d :: rest) '\uFFFD' rest

theorem EscapeStands.drop {unit : UnitForm} {s t : List UInt8} {ch : Char}
    (stands : EscapeStands unit s ch t) :
    ∃ letter rest n, s = letter :: rest ∧ t = rest.drop n := by
  cases stands with
  | letter => exact ⟨_, _, 0, rfl, rfl⟩
  | single => exact ⟨_, _, 4, rfl, rfl⟩
  | pair => exact ⟨_, _, 10, rfl, rfl⟩
  | half => exact ⟨_, _, 4, rfl, rfl⟩

theorem pair?_eq_some {u v : Nat} {ch : Char} :
    pair? u v = some ch ↔ ∃ hi lo, hi < 0x400 ∧ lo < 0x400 ∧ u = 0xD800 + hi ∧ v = 0xDC00 + lo ∧
      ch = Char.ofNat (hi * 0x400 + lo + 0x10000) := by
  unfold pair?
  constructor
  · intro both
    obtain ⟨range, same⟩ := Option.ite_none_right_eq_some.mp both
    have same := Option.some.inj same
    exact ⟨u - 0xD800, v - 0xDC00, by omega, by omega, by omega, by omega, same.symm⟩
  · rintro ⟨hi, lo, high, low, rfl, rfl, same⟩
    have range : 0xD800 ≤ 0xD800 + hi ∧ 0xD800 + hi < 0xDC00 ∧ 0xDC00 ≤ 0xDC00 + lo ∧
        0xDC00 + lo < 0xE000 := by omega
    rw [if_pos range, Nat.add_sub_cancel_left, Nat.add_sub_cancel_left, same]

theorem nextUnit?_eq_some {s : List UInt8} {u : Nat} :
    nextUnit? s = some u ↔
      ∃ a b c d t, s = backslash :: 0x75 :: a :: b :: c :: d :: t ∧ ReadsUnit a b c d u := by
  constructor
  · intro next
    unfold nextUnit? at next
    split at next
    · rename_i x y a b c d t
      obtain ⟨⟨rfl, rfl⟩, next⟩ := Option.ite_none_right_eq_some.mp next
      exact ⟨a, b, c, d, t, rfl, codeUnit?_eq_some.mp next⟩
    · cases next
  · rintro ⟨a, b, c, d, t, rfl, isUnit⟩
    rw [nextUnit?, if_pos ⟨rfl, rfl⟩]
    exact codeUnit?_eq_some.mpr isUnit

theorem isSurrogate_iff {u : Nat} : isSurrogate u = true ↔ 0xD800 ≤ u ∧ u < 0xE000 := by
  rw [isSurrogate, Bool.and_eq_true, decide_eq_true_eq, decide_eq_true_eq]

theorem not_letter : ∀ ch, (0x75, ch) ∉ letters := by
  intro ch known
  cases simpleEscape?_eq_some.mpr known

theorem letter_or_unit {letter : UInt8} {rest : List UInt8} {ch : Char} {n : Nat}
    (decoded : decodeEscape letter rest = .ok (ch, n)) :
    ((letter, ch) ∈ letters ∧ n = 0) ∨
      letter = 0x75 ∧ ∃ a b c d t u, rest = a :: b :: c :: d :: t ∧ codeUnit? a b c d = some u := by
  unfold decodeEscape at decoded
  split at decoded
  · rename_i simple
    cases decoded
    exact .inl ⟨simpleEscape?_eq_some.mp simple, rfl⟩
  split at decoded
  · rename_i isU
    split at decoded
    · rename_i a b c d t
      cases value : codeUnit? a b c d with
      | none =>
        rw [value] at decoded
        cases decoded
      | some u => exact .inr ⟨isU, a, b, c, d, t, u, rfl, value⟩
    · cases decoded
  · cases decoded

theorem EscapeStands.decoded {s t : List UInt8} {ch : Char} (stands : EscapeStands ReadsUnit s ch t) :
    ∃ letter rest n, s = letter :: rest ∧ decodeEscape letter rest = .ok (ch, n) ∧
      t = rest.drop n := by
  cases stands with
  | @letter l _ _ known =>
    refine ⟨l, t, 0, rfl, ?_, rfl⟩
    unfold decodeEscape
    rw [simpleEscape?_eq_some.mpr known]
  | @single a b c d u _ isUnit noHalf =>
    have single : isSurrogate u = false := by
      rw [← Bool.not_eq_true, isSurrogate_iff]
      exact noHalf
    exact ⟨_, _, 4, rfl, decodeEscape_unit (codeUnit?_eq_some.mpr isUnit) single t, rfl⟩
  | @pair a b c d a' b' c' d' hi lo _ high low first second =>
    refine ⟨_, _, 10, rfl, ?_, rfl⟩
    have next := nextUnit?_eq_some.mpr ⟨a', b', c', d', t, rfl, second⟩
    rw [decodeEscape_half (codeUnit?_eq_some.mpr first) (isSurrogate_iff.mpr (by omega)), next,
      Option.bind_some, pair?_eq_some.mpr ⟨hi, lo, high, low, rfl, rfl, rfl⟩]
  | @half a b c d u _ isUnit half alone =>
    refine ⟨_, _, 4, rfl, ?_, rfl⟩
    have noPair : (nextUnit? t).bind (pair? u) = none := by
      rw [Option.eq_none_iff_forall_ne_some]
      intro both found
      obtain ⟨v, next, pair⟩ := Option.bind_eq_some_iff.mp found
      obtain ⟨hi, lo, high, low, rfl, rfl, _⟩ := pair?_eq_some.mp pair
      obtain ⟨a', b', c', d', rest', same, isUnit'⟩ := nextUnit?_eq_some.mp next
      exact alone (by omega) a' b' c' d' lo rest' low isUnit' same
    rw [decodeEscape_half (codeUnit?_eq_some.mpr isUnit) (isSurrogate_iff.mpr half), noPair]

theorem EscapeStands.of_decoded {letter : UInt8} {rest : List UInt8} {ch : Char} {n : Nat}
    (decoded : decodeEscape letter rest = .ok (ch, n)) :
    EscapeStands ReadsUnit (letter :: rest) ch (rest.drop n) := by
  rcases letter_or_unit decoded with ⟨known, rfl⟩ | ⟨rfl, a, b, c, d, tail, u, rfl, value⟩
  · exact .letter known
  have isUnit := codeUnit?_eq_some.mp value
  by_cases half : 0xD800 ≤ u ∧ u < 0xE000
  · rw [decodeEscape_half value (isSurrogate_iff.mpr half)] at decoded
    cases both : (nextUnit? tail).bind (pair? u) with
    | some ch' =>
      rw [both] at decoded
      cases decoded
      obtain ⟨v, next, pair⟩ := Option.bind_eq_some_iff.mp both
      obtain ⟨hi, lo, high, low, rfl, rfl, same⟩ := pair?_eq_some.mp pair
      obtain ⟨a', b', c', d', rest', rfl, isUnit'⟩ := nextUnit?_eq_some.mp next
      rw [same]
      exact .pair high low isUnit isUnit'
    | none =>
      rw [both] at decoded
      cases decoded
      refine .half isUnit half fun below a' b' c' d' lo rest' low isUnit' same => ?_
      have next := nextUnit?_eq_some.mpr ⟨a', b', c', d', rest', same, isUnit'⟩
      have pair : pair? u (0xDC00 + lo) = some _ :=
        pair?_eq_some.mpr ⟨u - 0xD800, lo, by omega, low, by omega, rfl, rfl⟩
      rw [next, Option.bind_some, pair] at both
      cases both
  · have single : isSurrogate u = false := by
      rw [← Bool.not_eq_true, isSurrogate_iff]
      exact half
    rw [decodeEscape_unit value single] at decoded
    cases decoded
    exact .single isUnit half

theorem decodeEscape_stands {s t : List UInt8} {ch : Char} :
    EscapeStands ReadsUnit s ch t ↔
      ∃ letter rest n, s = letter :: rest ∧ decodeEscape letter rest = .ok (ch, n) ∧ t = rest.drop n := by
  constructor
  · exact EscapeStands.decoded
  · rintro ⟨letter, rest, n, rfl, decoded, rfl⟩
    exact .of_decoded decoded

theorem escapeStands_unique {s t t' : List UInt8} {ch ch' : Char}
    (stands : EscapeStands ReadsUnit s ch t) (stands' : EscapeStands ReadsUnit s ch' t') :
    ch' = ch ∧ t' = t := by
  obtain ⟨letter, rest, n, rfl, decoded, rfl⟩ := decodeEscape_stands.mp stands
  obtain ⟨_, _, n', same, decoded', rfl⟩ := decodeEscape_stands.mp stands'
  cases same
  rw [decoded] at decoded'
  cases decoded'
  exact ⟨rfl, rfl⟩

theorem EscapeStands.reads {s t : List UInt8} {ch : Char} (stands : EscapeStands FourDigits s ch t) :
    EscapeStands ReadsUnit s ch t := by
  cases stands with
  | letter known => exact .letter known
  | single isUnit noHalf => exact .single (.digits isUnit) noHalf
  | pair high low first second => exact .pair high low (.digits first) (.digits second)
  | half isUnit half alone =>
    refine .half (.digits isUnit) half fun below a' b' c' d' lo rest' low second => ?_
    exact alone below a' b' c' d' lo rest' low (second.fourDigits (by omega))

end FilterQuery.Json
