import FilterQuery.Text.Utf8

/-!
# Encoded characters

The first piece of bytes is a character exactly if the bytes start with its encoding
(`firstPiece_eq_char`), so an encoded text is read back (`decode?_encode`).
-/

namespace FilterQuery.Utf8

/-! ### Bytes -/

section Bytes

variable {m n : Nat} {mark x y : UInt8}

theorem toNat_ofNat (small : n < 256) : (UInt8.ofNat n).toNat = n := by
  rw [UInt8.toNat_ofNat']
  exact Nat.mod_eq_of_lt small

theorem forall_byte {P : UInt8 → Prop} (each : ∀ n < 256, P (UInt8.ofNat n)) (b : UInt8) : P b := by
  have checked := each b.toNat b.toNat_lt
  rwa [UInt8.ofNat_toNat] at checked

theorem le_ofNat (small : n < 256) (bound : x.toNat ≤ n) : x ≤ UInt8.ofNat n := by
  rwa [UInt8.le_iff_toNat_le, toNat_ofNat small]

theorem ofNat_le (small : n < 256) (bound : n ≤ x.toNat) : UInt8.ofNat n ≤ x := by
  rwa [UInt8.le_iff_toNat_le, toNat_ofNat small]

theorem not_ofNat_le (small : n < 256) (bound : x.toNat < n) : ¬UInt8.ofNat n ≤ x := by
  rw [UInt8.le_iff_toNat_le, toNat_ofNat small]
  exact Nat.not_le.mpr bound

theorem eq_toNat (small : m < 256) (same : UInt8.ofNat m = x) : m = x.toNat := by
  rw [← same, toNat_ofNat small]

theorem ite_le_ofNat (small : m < 256) (small' : n < 256) (special : m = mark.toNat → x.toNat ≤ n)
    (usual : y.toNat ≤ n) : (if UInt8.ofNat m = mark then x else y) ≤ UInt8.ofNat n := by
  split
  · rename_i same
    exact le_ofNat small' (special (eq_toNat small same))
  · exact le_ofNat small' usual

theorem ofNat_le_ite (small : m < 256) (small' : n < 256) (special : m = mark.toNat → n ≤ x.toNat)
    (usual : n ≤ y.toNat) : UInt8.ofNat n ≤ (if UInt8.ofNat m = mark then x else y) := by
  split
  · rename_i same
    exact ofNat_le small' (special (eq_toNat small same))
  · exact ofNat_le small' usual

theorem isContinuation_ofNat (n : Nat) : isContinuation (UInt8.ofNat (n % 64 + 128)) = true := by
  have small : n % 64 + 128 < 256 := by omega
  rw [isContinuation, Bool.and_eq_true, decide_eq_true_eq, decide_eq_true_eq]
  exact ⟨le_ofNat small (Nat.le_add_left 128 _), ofNat_le small (by change _ ≤ 191; omega)⟩

theorem low6_ofNat (n : Nat) : low6 (UInt8.ofNat (n % 64 + 128)) = n % 64 := by
  rw [low6, toNat_ofNat (by omega)]
  omega

end Bytes

/-! ### Characters -/

theorem char_bounds (c : Char) : c.toNat < 0xD800 ∨ 0xDFFF < c.toNat ∧ c.toNat < 0x110000 := c.valid

variable {c : Char}

theorem encodeChar_one (high : c.toNat < 0x80) :
    String.utf8EncodeChar c = [UInt8.ofNat c.toNat] := if_pos (Nat.le_of_lt_succ high)

theorem encodeChar_two (low : 0x80 ≤ c.toNat) (high : c.toNat < 0x800) :
    String.utf8EncodeChar c =
      [UInt8.ofNat (c.toNat / 64 % 32 + 192), UInt8.ofNat (c.toNat % 64 + 128)] :=
  (if_neg (Nat.not_le.mpr low)).trans (if_pos (Nat.le_of_lt_succ high))

theorem encodeChar_three (low : 0x800 ≤ c.toNat) (high : c.toNat < 0x10000) :
    String.utf8EncodeChar c =
      [UInt8.ofNat (c.toNat / 4096 % 16 + 224), UInt8.ofNat (c.toNat / 64 % 64 + 128),
        UInt8.ofNat (c.toNat % 64 + 128)] :=
  (if_neg (by change ¬c.toNat ≤ 127; omega)).trans
    ((if_neg (by change ¬c.toNat ≤ 2047; omega)).trans (if_pos (Nat.le_of_lt_succ high)))

theorem encodeChar_four (low : 0x10000 ≤ c.toNat) :
    String.utf8EncodeChar c =
      [UInt8.ofNat (c.toNat / 262144 % 8 + 240), UInt8.ofNat (c.toNat / 4096 % 64 + 128),
        UInt8.ofNat (c.toNat / 64 % 64 + 128), UInt8.ofNat (c.toNat % 64 + 128)] :=
  (if_neg (by change ¬c.toNat ≤ 127; omega)).trans
    ((if_neg (by change ¬c.toNat ≤ 2047; omega)).trans (if_neg (by change ¬c.toNat ≤ 65535; omega)))

theorem multibyte?_two (low : 0x80 ≤ c.toNat) (high : c.toNat < 0x800) (t : List UInt8) :
    multibyte? (UInt8.ofNat (c.toNat / 64 % 32 + 192)) (UInt8.ofNat (c.toNat % 64 + 128) :: t) =
      some (c, 1) := by
  have lead : c.toNat / 64 % 32 + 192 < 256 := by omega
  have least : 0xC2 ≤ UInt8.ofNat (c.toNat / 64 % 32 + 192) :=
    le_ofNat lead (by change 194 ≤ _; omega)
  have greatest : UInt8.ofNat (c.toNat / 64 % 32 + 192) ≤ 0xDF :=
    ofNat_le lead (by change _ ≤ 223; omega)
  have value : (c.toNat / 64 % 32 + 192) % 32 * 64 + c.toNat % 64 = c.toNat := by omega
  rw [multibyte?, if_pos ⟨least, greatest⟩, if_pos (isContinuation_ofNat _), low6_ofNat,
    toNat_ofNat lead, value, Char.ofNat_toNat]

theorem multibyte?_three (low : 0x800 ≤ c.toNat) (high : c.toNat < 0x10000) (t : List UInt8) :
    multibyte? (UInt8.ofNat (c.toNat / 4096 % 16 + 224))
      (UInt8.ofNat (c.toNat / 64 % 64 + 128) :: UInt8.ofNat (c.toNat % 64 + 128) :: t) =
      some (c, 2) := by
  have lead : c.toNat / 4096 % 16 + 224 < 256 := by omega
  have second : c.toNat / 64 % 64 + 128 < 256 := by omega
  have noSurrogate := char_bounds c
  have beyond : ¬UInt8.ofNat (c.toNat / 4096 % 16 + 224) ≤ 0xDF :=
    not_ofNat_le lead (by change 223 < _; omega)
  have least : 0xE0 ≤ UInt8.ofNat (c.toNat / 4096 % 16 + 224) :=
    le_ofNat lead (by change 224 ≤ _; omega)
  have greatest : UInt8.ofNat (c.toNat / 4096 % 16 + 224) ≤ 0xEF :=
    ofNat_le lead (by change _ ≤ 239; omega)
  have lower : (if UInt8.ofNat (c.toNat / 4096 % 16 + 224) = 0xE0 then 0xA0 else 0x80) ≤
      UInt8.ofNat (c.toNat / 64 % 64 + 128) := by
    refine ite_le_ofNat lead second (fun first => ?_) (by change 128 ≤ _; omega)
    change _ = 224 at first
    change 160 ≤ _
    omega
  have upper : UInt8.ofNat (c.toNat / 64 % 64 + 128) ≤
      (if UInt8.ofNat (c.toNat / 4096 % 16 + 224) = 0xED then 0x9F else 0xBF) := by
    refine ofNat_le_ite lead second (fun first => ?_) (by change _ ≤ 191; omega)
    change _ = 237 at first
    change _ ≤ 159
    omega
  have value : (c.toNat / 4096 % 16 + 224) % 16 * 4096 + c.toNat / 64 % 64 * 64 + c.toNat % 64 =
      c.toNat := by omega
  rw [multibyte?, if_neg fun range => beyond range.2, if_pos ⟨least, greatest⟩]
  dsimp only
  rw [if_pos ⟨lower, upper, isContinuation_ofNat _⟩, low6_ofNat, low6_ofNat, toNat_ofNat lead, value,
    Char.ofNat_toNat]

theorem multibyte?_four (low : 0x10000 ≤ c.toNat) (t : List UInt8) :
    multibyte? (UInt8.ofNat (c.toNat / 262144 % 8 + 240))
      (UInt8.ofNat (c.toNat / 4096 % 64 + 128) :: UInt8.ofNat (c.toNat / 64 % 64 + 128) ::
        UInt8.ofNat (c.toNat % 64 + 128) :: t) = some (c, 3) := by
  have lead : c.toNat / 262144 % 8 + 240 < 256 := by omega
  have second : c.toNat / 4096 % 64 + 128 < 256 := by omega
  have last := char_bounds c
  have beyond : ¬UInt8.ofNat (c.toNat / 262144 % 8 + 240) ≤ 0xDF :=
    not_ofNat_le lead (by change 223 < _; omega)
  have beyond' : ¬UInt8.ofNat (c.toNat / 262144 % 8 + 240) ≤ 0xEF :=
    not_ofNat_le lead (by change 239 < _; omega)
  have least : 0xF0 ≤ UInt8.ofNat (c.toNat / 262144 % 8 + 240) :=
    le_ofNat lead (by change 240 ≤ _; omega)
  have greatest : UInt8.ofNat (c.toNat / 262144 % 8 + 240) ≤ 0xF4 :=
    ofNat_le lead (by change _ ≤ 244; omega)
  have lower : (if UInt8.ofNat (c.toNat / 262144 % 8 + 240) = 0xF0 then 0x90 else 0x80) ≤
      UInt8.ofNat (c.toNat / 4096 % 64 + 128) := by
    refine ite_le_ofNat lead second (fun first => ?_) (by change 128 ≤ _; omega)
    change _ = 240 at first
    change 144 ≤ _
    omega
  have upper : UInt8.ofNat (c.toNat / 4096 % 64 + 128) ≤
      (if UInt8.ofNat (c.toNat / 262144 % 8 + 240) = 0xF4 then 0x8F else 0xBF) := by
    refine ofNat_le_ite lead second (fun first => ?_) (by change _ ≤ 191; omega)
    change _ = 244 at first
    change _ ≤ 143
    omega
  have value : (c.toNat / 262144 % 8 + 240) % 8 * 262144 + c.toNat / 4096 % 64 * 4096 +
      c.toNat / 64 % 64 * 64 + c.toNat % 64 = c.toNat := by omega
  rw [multibyte?, if_neg fun range => beyond range.2, if_neg fun range => beyond' range.2,
    if_pos ⟨least, greatest⟩]
  dsimp only
  rw [if_pos ⟨lower, upper, isContinuation_ofNat _, isContinuation_ofNat _⟩, low6_ofNat, low6_ofNat,
    low6_ofNat, toNat_ofNat lead, value, Char.ofNat_toNat]

theorem firstPiece_ascii (low : c.toNat < 0x80) (t : List UInt8) :
    firstPiece (UInt8.ofNat c.toNat) t = (.char c, t) := by
  have below : UInt8.ofNat c.toNat < 0x80 := by
    rw [UInt8.lt_iff_toNat_lt, toNat_ofNat (by omega)]
    exact low
  rw [firstPiece, if_pos below, toNat_ofNat (by omega), Char.ofNat_toNat]

theorem firstPiece_multibyte {m n : Nat} {rest : List UInt8} (small : m < 256) (high : 0x80 ≤ m)
    (found : multibyte? (UInt8.ofNat m) rest = some (c, n)) :
    firstPiece (UInt8.ofNat m) rest = (.char c, rest.drop n) := by
  rw [firstPiece, if_neg (UInt8.not_lt.mpr (le_ofNat (x := 0x80) small high)), found]

theorem encodeChar_bytes (c : Char) :
    (c.toNat < 0x80 ∧ String.utf8EncodeChar c = [UInt8.ofNat c.toNat]) ∨
      ∀ b ∈ String.utf8EncodeChar c, 0x80 ≤ b := by
  have high {n : Nat} (small : n < 256) (above : 128 ≤ n) : 0x80 ≤ UInt8.ofNat n := le_ofNat small above
  have bounds := char_bounds c
  by_cases one : c.toNat < 0x80
  · exact .inl ⟨one, encodeChar_one one⟩
  right
  by_cases two : c.toNat < 0x800
  · rw [encodeChar_two (by omega) two]
    simp only [List.forall_mem_cons]
    exact ⟨high (by omega) (by omega), high (by omega) (by omega), List.forall_mem_nil _⟩
  by_cases three : c.toNat < 0x10000
  · rw [encodeChar_three (by omega) three]
    simp only [List.forall_mem_cons]
    exact ⟨high (by omega) (by omega), high (by omega) (by omega), high (by omega) (by omega),
      List.forall_mem_nil _⟩
  · rw [encodeChar_four (by omega)]
    simp only [List.forall_mem_cons]
    exact ⟨high (by omega) (by omega), high (by omega) (by omega), high (by omega) (by omega),
      high (by omega) (by omega), List.forall_mem_nil _⟩

theorem encodeChar_cons (c : Char) :
    ∃ b bs, String.utf8EncodeChar c = b :: bs ∧ ∀ b' ∈ bs, 0x80 ≤ b' := by
  rcases encodeChar_bytes c with ⟨_, encoded⟩ | high
  · exact ⟨_, [], encoded, List.forall_mem_nil _⟩
  · obtain ⟨b, bs, encoded⟩ := List.exists_cons_of_ne_nil (String.utf8EncodeChar_ne_nil (c := c))
    rw [encoded] at high
    exact ⟨b, bs, encoded, (List.forall_mem_cons.mp high).2⟩

/-- The byte of an ASCII character begins or continues no other character. -/
theorem mem_encodeChar_ascii {c d : Char} (ascii : c.toNat < 0x80) :
    UInt8.ofNat c.toNat ∈ String.utf8EncodeChar d ↔ d = c := by
  have value : (UInt8.ofNat c.toNat).toNat = c.toNat := toNat_ofNat (by omega)
  constructor
  · intro member
    rcases encodeChar_bytes d with ⟨small, encoded⟩ | high
    · rw [encoded, List.mem_singleton] at member
      have same := congrArg UInt8.toNat member
      rw [value, toNat_ofNat (by omega)] at same
      exact Char.toNat_inj.mp same.symm
    · have above : 0x80 ≤ c.toNat := value ▸ high _ member
      omega
  · rintro rfl
    rw [encodeChar_one ascii]
    exact List.mem_singleton_self _

theorem firstPiece_encodeChar (c : Char) :
    ∃ b bs, String.utf8EncodeChar c = b :: bs ∧ ∀ t, firstPiece b (bs ++ t) = (.char c, t) := by
  have bounds := char_bounds c
  by_cases one : c.toNat < 0x80
  · exact ⟨_, _, encodeChar_one one, fun t => firstPiece_ascii one t⟩
  by_cases two : c.toNat < 0x800
  · refine ⟨_, _, encodeChar_two (by omega) two, fun t => ?_⟩
    exact firstPiece_multibyte (by omega) (by omega) (multibyte?_two (by omega) two t)
  by_cases three : c.toNat < 0x10000
  · refine ⟨_, _, encodeChar_three (by omega) three, fun t => ?_⟩
    exact firstPiece_multibyte (by omega) (by omega) (multibyte?_three (by omega) three t)
  · refine ⟨_, _, encodeChar_four (by omega), fun t => ?_⟩
    exact firstPiece_multibyte (by omega) (by omega) (multibyte?_four (by omega) t)

/-! ### Characters that are read -/

theorem toNat_ofNat_char {n : Nat} (valid : n < 0xD800 ∨ 0xDFFF < n ∧ n < 0x110000) :
    (Char.ofNat n).toNat = n := by
  rw [Char.ofNat, dif_pos valid]
  rfl

theorem ofNat_eq {b : UInt8} {n : Nat} (same : n = b.toNat) : UInt8.ofNat n = b := by
  rw [same]
  exact UInt8.ofNat_toNat

theorem isContinuation_iff {b : UInt8} :
    isContinuation b = true ↔ 0x80 ≤ b.toNat ∧ b.toNat ≤ 0xBF := by
  rw [isContinuation, Bool.and_eq_true, decide_eq_true_eq, decide_eq_true_eq, UInt8.le_iff_toNat_le,
    UInt8.le_iff_toNat_le]
  rfl

section Read

variable {b b₁ b₂ b₃ : UInt8}

theorem encodeChar_two_bytes (lead : 0xC2 ≤ b.toNat ∧ b.toNat ≤ 0xDF)
    (second : isContinuation b₁ = true) :
    String.utf8EncodeChar (Char.ofNat (b.toNat % 32 * 64 + low6 b₁)) = [b, b₁] := by
  rw [isContinuation_iff] at second
  unfold low6
  have value := toNat_ofNat_char (n := b.toNat % 32 * 64 + b₁.toNat % 64) (by omega)
  rw [encodeChar_two (by omega) (by omega), value, ofNat_eq (b := b) (by omega),
    ofNat_eq (b := b₁) (by omega)]

/-- An overlong form or a surrogate would have a second byte beyond the bounds. -/
theorem encodeChar_three_bytes (lead : 0xE0 ≤ b.toNat ∧ b.toNat ≤ 0xEF)
    (second : isContinuation b₁ = true) (third : isContinuation b₂ = true)
    (noOverlong : b.toNat = 0xE0 → 0xA0 ≤ b₁.toNat) (noSurrogate : b.toNat = 0xED → b₁.toNat ≤ 0x9F) :
    String.utf8EncodeChar (Char.ofNat (b.toNat % 16 * 4096 + low6 b₁ * 64 + low6 b₂)) =
      [b, b₁, b₂] := by
  rw [isContinuation_iff] at second third
  unfold low6
  have value := toNat_ofNat_char (n := b.toNat % 16 * 4096 + b₁.toNat % 64 * 64 + b₂.toNat % 64)
    (by omega)
  rw [encodeChar_three (by omega) (by omega), value, ofNat_eq (b := b) (by omega),
    ofNat_eq (b := b₁) (by omega), ofNat_eq (b := b₂) (by omega)]

theorem encodeChar_four_bytes (lead : 0xF0 ≤ b.toNat ∧ b.toNat ≤ 0xF4)
    (second : isContinuation b₁ = true) (third : isContinuation b₂ = true)
    (fourth : isContinuation b₃ = true) (noOverlong : b.toNat = 0xF0 → 0x90 ≤ b₁.toNat)
    (inRange : b.toNat = 0xF4 → b₁.toNat ≤ 0x8F) :
    String.utf8EncodeChar
        (Char.ofNat (b.toNat % 8 * 262144 + low6 b₁ * 4096 + low6 b₂ * 64 + low6 b₃)) =
      [b, b₁, b₂, b₃] := by
  rw [isContinuation_iff] at second third fourth
  unfold low6
  have value := toNat_ofNat_char
    (n := b.toNat % 8 * 262144 + b₁.toNat % 64 * 4096 + b₂.toNat % 64 * 64 + b₃.toNat % 64) (by omega)
  rw [encodeChar_four (by omega), value, ofNat_eq (b := b) (by omega), ofNat_eq (b := b₁) (by omega),
    ofNat_eq (b := b₂) (by omega), ofNat_eq (b := b₃) (by omega)]

end Read

theorem le_of_ite_le {p : Prop} [Decidable p] {x y z : UInt8} (weaker : y ≤ x)
    (bound : (if p then x else y) ≤ z) : y ≤ z ∧ (p → x ≤ z) := by
  split at bound
  · exact ⟨UInt8.le_trans weaker bound, fun _ => bound⟩
  · rename_i other
    exact ⟨bound, fun holds => absurd holds other⟩

theorem le_of_le_ite {p : Prop} [Decidable p] {x y z : UInt8} (weaker : x ≤ y)
    (bound : z ≤ if p then x else y) : z ≤ y ∧ (p → z ≤ x) := by
  split at bound
  · exact ⟨UInt8.le_trans bound weaker, fun _ => bound⟩
  · rename_i other
    exact ⟨bound, fun holds => absurd holds other⟩

theorem encodeChar_of_multibyte? {b : UInt8} {rest : List UInt8} {c : Char} {n : Nat}
    (read : multibyte? b rest = some (c, n)) :
    b :: rest = String.utf8EncodeChar c ++ rest.drop n := by
  unfold multibyte? at read
  split at read
  · rename_i lead
    split at read
    · obtain ⟨second, same⟩ := Option.ite_none_right_eq_some.mp read
      cases same
      rw [encodeChar_two_bytes lead second]
      rfl
    · cases read
  · split at read
    · rename_i lead
      split at read
      · obtain ⟨⟨lower, upper, third⟩, same⟩ := Option.ite_none_right_eq_some.mp read
        cases same
        obtain ⟨least, noOverlong⟩ := le_of_ite_le (by decide) lower
        obtain ⟨greatest, noSurrogate⟩ := le_of_le_ite (by decide) upper
        rw [encodeChar_three_bytes lead (by simp [isContinuation, least, greatest]) third
          (fun same => noOverlong (UInt8.toNat_inj.mp same))
          (fun same => noSurrogate (UInt8.toNat_inj.mp same))]
        rfl
      · cases read
    · split at read
      · rename_i lead
        split at read
        · obtain ⟨⟨lower, upper, third, fourth⟩, same⟩ := Option.ite_none_right_eq_some.mp read
          cases same
          obtain ⟨least, noOverlong⟩ := le_of_ite_le (by decide) lower
          obtain ⟨greatest, inRange⟩ := le_of_le_ite (by decide) upper
          rw [encodeChar_four_bytes lead (by simp [isContinuation, least, greatest]) third fourth
            (fun same => noOverlong (UInt8.toNat_inj.mp same))
            (fun same => inRange (UInt8.toNat_inj.mp same))]
          rfl
        · cases read
      · cases read

theorem firstPiece_eq_char {b : UInt8} {rest t : List UInt8} {c : Char} :
    firstPiece b rest = (.char c, t) ↔ b :: rest = String.utf8EncodeChar c ++ t := by
  constructor
  · intro read
    unfold firstPiece at read
    split at read
    · rename_i ascii
      cases read
      have small : b.toNat < 0x80 := ascii
      have value := toNat_ofNat_char (n := b.toNat) (by omega)
      rw [encodeChar_one (by omega), value, ofNat_eq (b := b) rfl]
      rfl
    · split at read
      · rename_i found
        cases read
        exact encodeChar_of_multibyte? found
      · cases read
  · intro starts
    obtain ⟨d, ds, encoded, read⟩ := firstPiece_encodeChar c
    rw [encoded] at starts
    obtain ⟨rfl, rfl⟩ := List.cons.inj starts
    exact read t

theorem firstPiece_cases (b : UInt8) (rest : List UInt8) :
    (∃ ch t, firstPiece b rest = (.char ch, t) ∧ b :: rest = String.utf8EncodeChar ch ++ t) ∨
      firstPiece b rest = (.stray b, rest) ∧
        ∀ ch t, b :: rest ≠ String.utf8EncodeChar ch ++ t := by
  cases first : firstPiece b rest with
  | mk piece t =>
    cases piece with
    | char ch => exact .inl ⟨ch, t, rfl, firstPiece_eq_char.mp first⟩
    | stray b' =>
      right
      constructor
      · unfold firstPiece at first
        split at first
        · cases first
        · split at first
          · cases first
          · exact first.symm
      · intro ch t starts
        rw [firstPiece_eq_char.mpr starts] at first
        cases first

/-! ### Encoded texts -/

theorem encode_eq_flatMap (s : String) : encode s = s.toList.flatMap String.utf8EncodeChar := by
  rw [encode, String.toUTF8_eq_toByteArray, ← String.utf8Encode_toList, List.utf8Encode,
    List.toList_data_toByteArray]

theorem pieces_flatMap (cs : List Char) :
    pieces (cs.flatMap String.utf8EncodeChar) = cs.map .char := by
  induction cs with
  | nil => rw [List.flatMap_nil, pieces.eq_def]; rfl
  | cons c cs ih =>
    obtain ⟨b, bs, encoded, piece⟩ := firstPiece_encodeChar c
    rw [List.flatMap_cons, encoded, List.cons_append, pieces.eq_def]
    dsimp only
    rw [piece, ih, List.map_cons]

/-- The bytes that a piece was read from. -/
def Piece.bytes : Piece → List UInt8
  | .char c => String.utf8EncodeChar c
  | .stray b => [b]

theorem flatMap_pieces (bs : List UInt8) : (pieces bs).flatMap Piece.bytes = bs := by
  fun_induction pieces bs with
  | case1 => rfl
  | case2 b rest _ ih =>
    rw [List.flatMap_cons, ih]
    rcases firstPiece_cases b rest with ⟨c, t, read, split⟩ | ⟨read, _⟩
    · rw [read, split]
      rfl
    · rw [read]
      rfl

theorem decodeLossy_flatMap (cs : List Char) :
    decodeLossy (cs.flatMap String.utf8EncodeChar) = cs := by
  rw [decodeLossy, pieces_flatMap, List.map_map]
  exact List.map_id cs

theorem decode?_encode (s : String) : decode? (encode s) = some s.toList := by
  rw [encode_eq_flatMap, decode?, pieces_flatMap]
  induction s.toList with
  | nil => rfl
  | cons c cs ih =>
    rw [List.map_cons, List.mapM_cons, ih]
    rfl

end FilterQuery.Utf8
