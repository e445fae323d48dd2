import FilterQuery.Proofs.Text.Utf8

/-!
# The order of encoded texts

Texts compare by code points as their encodings compare by bytes (`lt_iff_encode_lt`): the leading bytes
grow with the length of an encoding, and encodings of one length compare digit by digit.
-/

namespace FilterQuery.Utf8

theorem ofNat_lt_ofNat {m n : Nat} (below : m < n) (small : n < 256) :
    UInt8.ofNat m < UInt8.ofNat n := by
  rw [UInt8.lt_iff_toNat_lt, toNat_ofNat small, toNat_ofNat (by omega)]
  exact below

theorem leading_lt {m n : Nat} (below : m < n) (small : n < 256) (s t x y : List UInt8) :
    UInt8.ofNat m :: s ++ x < UInt8.ofNat n :: t ++ y :=
  List.cons_lt_cons_iff.mpr (.inl (ofNat_lt_ofNat below small))

theorem following_lt {m n : Nat} {s t x y : List UInt8} (same : m = n) (rest : s ++ x < t ++ y) :
    UInt8.ofNat m :: s ++ x < UInt8.ofNat n :: t ++ y :=
  List.cons_lt_cons_iff.mpr (.inr ⟨congrArg _ same, rest⟩)

theorem encodeChar_lead (c : Char) :
    ∃ m bs, String.utf8EncodeChar c = UInt8.ofNat m :: bs ∧ m < 256 ∧
      (c.toNat < 0x80 ∧ m < 0x80 ∨ 0x80 ≤ c.toNat ∧ c.toNat < 0x800 ∧ 0xC0 ≤ m ∧ m < 0xE0 ∨
        0x800 ≤ c.toNat ∧ c.toNat < 0x10000 ∧ 0xE0 ≤ m ∧ m < 0xF0 ∨
        0x10000 ≤ c.toNat ∧ 0xF0 ≤ m) := by
  have last := char_bounds c
  by_cases one : c.toNat < 0x80
  · exact ⟨_, _, encodeChar_one one, by omega, by omega⟩
  by_cases two : c.toNat < 0x800
  · exact ⟨_, _, encodeChar_two (by omega) two, by omega, by omega⟩
  by_cases three : c.toNat < 0x10000
  · exact ⟨_, _, encodeChar_three (by omega) three, by omega, by omega⟩
  · exact ⟨_, _, encodeChar_four (by omega), by omega, by omega⟩

section Characters

variable {c d : Char} (below : c.toNat < d.toNat) (x y : List UInt8)
include below

theorem encodeChar_lt_two (low : 0x80 ≤ c.toNat) (high : d.toNat < 0x800) :
    String.utf8EncodeChar c ++ x < String.utf8EncodeChar d ++ y := by
  rw [encodeChar_two low (by omega), encodeChar_two (by omega) high]
  rcases Nat.lt_or_eq_of_le (show c.toNat / 64 % 32 + 192 ≤ d.toNat / 64 % 32 + 192 by omega)
    with first | first
  · exact leading_lt first (by omega) _ _ x y
  · exact following_lt first (leading_lt (by omega) (by omega) [] [] x y)

theorem encodeChar_lt_three (low : 0x800 ≤ c.toNat) (high : d.toNat < 0x10000) :
    String.utf8EncodeChar c ++ x < String.utf8EncodeChar d ++ y := by
  rw [encodeChar_three low (by omega), encodeChar_three (by omega) high]
  rcases Nat.lt_or_eq_of_le (show c.toNat / 4096 % 16 + 224 ≤ d.toNat / 4096 % 16 + 224 by omega)
    with first | first
  · exact leading_lt first (by omega) _ _ x y
  refine following_lt first ?_
  rcases Nat.lt_or_eq_of_le (show c.toNat / 64 % 64 + 128 ≤ d.toNat / 64 % 64 + 128 by omega)
    with second | second
  · exact leading_lt second (by omega) _ _ x y
  · exact following_lt second (leading_lt (by omega) (by omega) [] [] x y)

theorem encodeChar_lt_four (low : 0x10000 ≤ c.toNat) :
    String.utf8EncodeChar c ++ x < String.utf8EncodeChar d ++ y := by
  have last := char_bounds d
  rw [encodeChar_four low, encodeChar_four (by omega)]
  rcases Nat.lt_or_eq_of_le (show c.toNat / 262144 % 8 + 240 ≤ d.toNat / 262144 % 8 + 240 by omega)
    with first | first
  · exact leading_lt first (by omega) _ _ x y
  refine following_lt first ?_
  rcases Nat.lt_or_eq_of_le (show c.toNat / 4096 % 64 + 128 ≤ d.toNat / 4096 % 64 + 128 by omega)
    with second | second
  · exact leading_lt second (by omega) _ _ x y
  refine following_lt second ?_
  rcases Nat.lt_or_eq_of_le (show c.toNat / 64 % 64 + 128 ≤ d.toNat / 64 % 64 + 128 by omega)
    with third | third
  · exact leading_lt third (by omega) _ _ x y
  · exact following_lt third (leading_lt (by omega) (by omega) [] [] x y)

theorem encodeChar_lt : String.utf8EncodeChar c ++ x < String.utf8EncodeChar d ++ y := by
  by_cases one : d.toNat < 0x80
  · rw [encodeChar_one (c := c) (by omega), encodeChar_one one]
    exact leading_lt below (by omega) [] [] x y
  by_cases two : 0x80 ≤ c.toNat ∧ d.toNat < 0x800
  · exact encodeChar_lt_two below x y two.1 two.2
  by_cases three : 0x800 ≤ c.toNat ∧ d.toNat < 0x10000
  · exact encodeChar_lt_three below x y three.1 three.2
  by_cases four : 0x10000 ≤ c.toNat
  · exact encodeChar_lt_four below x y four
  -- the encodings differ in length
  obtain ⟨m, bs, encoded, _, lead⟩ := encodeChar_lead c
  obtain ⟨n, bs', encoded', small, lead'⟩ := encodeChar_lead d
  rw [encoded, encoded']
  exact leading_lt (by omega) small bs bs' x y

end Characters

theorem flatMap_encodeChar_lt {cs ds : List Char} (below : cs < ds) :
    cs.flatMap String.utf8EncodeChar < ds.flatMap String.utf8EncodeChar := by
  induction below with
  | nil =>
    rename_i d ds
    obtain ⟨m, bs, encoded, _⟩ := encodeChar_lead d
    rw [List.flatMap_nil, List.flatMap_cons, encoded]
    exact List.nil_lt_cons _ _
  | cons _ ih =>
    rw [List.flatMap_cons, List.flatMap_cons]
    exact List.append_left_lt ih
  | rel first =>
    rw [List.flatMap_cons, List.flatMap_cons]
    exact encodeChar_lt first _ _

/-- Texts are in the order of their bytes. -/
theorem lt_iff_encode_lt {s t : String} : s < t ↔ encode s < encode t := by
  have increasing {s t : String} (below : s < t) : encode s < encode t := by
    rw [encode_eq_flatMap, encode_eq_flatMap]
    exact flatMap_encodeChar_lt (String.lt_iff.mp below)
  refine ⟨increasing, fun below => Decidable.byContradiction fun above => ?_⟩
  rcases Std.le_iff_lt_or_eq.mp (String.not_lt.mp above) with below' | rfl
  · exact absurd (List.lt_trans below (increasing below')) (List.lt_irrefl _)
  · exact absurd below (List.lt_irrefl _)

theorem mergeSort_increases {α : Type} (key : α → String) {xs : List α}
    (distinct : (xs.map key).Nodup) :
    (xs.mergeSort fun x y => encode (key x) ≤ encode (key y)).Pairwise fun x y => key x < key y := by
  let le (x y : α) : Bool := encode (key x) ≤ encode (key y)
  have trans (x y z : α) (below : le x y = true) (below' : le y z = true) : le x z = true :=
    decide_eq_true (List.le_trans (of_decide_eq_true below) (of_decide_eq_true below'))
  have total (x y : α) : (le x y || le y x) = true := by
    rw [Bool.or_eq_true, decide_eq_true_eq, decide_eq_true_eq]
    exact List.le_total _ _
  have sorted := List.pairwise_mergeSort trans total xs
  have different := List.pairwise_map.mp
    (((List.mergeSort_perm xs fun x y => encode (key x) ≤ encode (key y)).map key).nodup_iff.mpr
      distinct)
  refine (sorted.and different).imp fun {x y} ⟨below, other⟩ => ?_
  rw [decide_eq_true_eq] at below
  refine Std.lt_of_le_of_ne (String.not_lt.mp fun above => ?_) other
  exact below (lt_iff_encode_lt.mp above)

end FilterQuery.Utf8
