import FilterQuery.Proofs.Text.Utf8
import FilterQuery.Regex.Reader
import FilterQuery.Text.Quoted
import Mathlib.Algebra.Group.Nat.Defs

/-!
# Reading quoted text

`unquote?` reads text between double quotes to the bytes that it stands for. Escapes may be short, octal
or hexadecimal; a line break has to be written as an escape, and so have the quote and the backslash. Bytes
that are quoted are read back as they were (`unquote?_quoteBytes`).
-/

namespace FilterQuery.Quoted

open Regex (hexValue? octalValue?)

/-! ### Reading -/

/-- The number that the first characters denote, if all of them are digits. -/
def number? (value? : Char → Option Nat) (base width : Nat) (cs : List Char) : Option Nat :=
  if width ≤ cs.length then (cs.take width).foldlM (fun n c => (value? c).map (base * n + ·)) 0
  else none

/-- The character with a code point. -/
def codePoint? (n : Nat) : Option Char := if n.isValidChar then some (Char.ofNat n) else none

/-- The bytes for which an escape stands, and how many characters behind the backslash it takes. -/
def escape? : List Char → Option (List UInt8 × Nat)
  | [] => none
  | mark :: cs =>
    match mark with
    | 'a' => some ([0x07], 1)
    | 'b' => some ([0x08], 1)
    | 'f' => some ([0x0C], 1)
    | 'n' => some ([0x0A], 1)
    | 'r' => some ([0x0D], 1)
    | 't' => some ([0x09], 1)
    | 'v' => some ([0x0B], 1)
    | '"' => some ([0x22], 1)
    | '\\' => some ([0x5C], 1)
    | 'x' => (number? hexValue? 16 2 cs).map fun n => ([UInt8.ofNat n], 3)
    | 'u' => ((number? hexValue? 16 4 cs).bind codePoint?).map fun c => (String.utf8EncodeChar c, 5)
    | 'U' => ((number? hexValue? 16 8 cs).bind codePoint?).map fun c => (String.utf8EncodeChar c, 9)
    | _ => ((number? octalValue? 8 3 (mark :: cs)).filter (· < 256)).map fun n => ([UInt8.ofNat n], 3)

/-- Reads up to the closing quote, which has to be the last character. -/
def unquoteBody? : List Char → Option (List UInt8)
  | [] => none
  | c :: cs =>
    if c = '"' then if cs.isEmpty then some [] else none
    else if c = '\n' then none
    else if c = '\\' then
      match escape? cs with
      | some (bs, k) => (unquoteBody? (cs.drop k)).map (bs ++ ·)
      | none => none
    else (unquoteBody? cs).map (String.utf8EncodeChar c ++ ·)
termination_by cs => cs.length
decreasing_by
  · simp only [List.length_drop, List.length_cons]
    omega
  · exact Nat.lt_succ_self _

def unquote? : List Char → Option (List UInt8)
  | '"' :: cs => unquoteBody? cs
  | _ => none

/-! ### Digits -/

theorem mem_toDigits {base n : Nat} (proper : 1 < base) {d : Char} (member : d ∈ Nat.toDigits base n) :
    ∃ k < base, d = k.digitChar := by
  induction n using Nat.strongRecOn with
  | ind n ih =>
    rw [Nat.toDigits_eq_if proper] at member
    split at member
    · rename_i last
      exact ⟨n, last, List.mem_singleton.mp member⟩
    · rename_i more
      rcases List.mem_append.mp member with member | last
      · exact ih _ (Nat.div_lt_self (by omega) proper) member
      · exact ⟨n % base, Nat.mod_lt n (by omega), List.mem_singleton.mp last⟩

theorem hexValue?_digitChar {k : Nat} (small : k < 16) : hexValue? k.digitChar = some k := by
  revert k
  decide

theorem foldlM_toDigits (n : Nat) :
    (Nat.toDigits 16 n).foldlM (fun n c => (hexValue? c).map (16 * n + ·)) 0 = some n := by
  induction n using Nat.strongRecOn with
  | ind n ih =>
    rw [Nat.toDigits_eq_if (by decide)]
    split
    · rename_i last
      simp [hexValue?_digitChar last]
    · rename_i more
      rw [List.foldlM_append, ih _ (Nat.div_lt_self (by omega) (by decide))]
      simp [hexValue?_digitChar (Nat.mod_lt n (by decide : 0 < 16)), Nat.div_add_mod]

theorem foldlM_zeros (k : Nat) :
    (List.replicate k '0').foldlM (fun n c => (hexValue? c).map (16 * n + ·)) 0 = some 0 := by
  induction k with
  | zero => rfl
  | succ k ih => exact ih

variable {width n : Nat}

theorem length_hex (positive : 0 < width) (fits : n < 16 ^ width) : (hex width n).length = width := by
  have short := (Nat.length_toDigits_le_iff (b := 16) (by decide) positive).mpr fits
  rw [hex, List.length_append, List.length_replicate]
  omega

theorem number?_hex (positive : 0 < width) (fits : n < 16 ^ width) (cs : List Char) :
    number? hexValue? 16 width (hex width n ++ cs) = some n := by
  have len := length_hex positive fits
  have enough : width ≤ (hex width n ++ cs).length := by
    rw [List.length_append, len]
    exact Nat.le_add_right width _
  rw [number?, if_pos enough, List.take_left' len, hex, List.foldlM_append, foldlM_zeros]
  exact foldlM_toDigits n

/-- A character that needs no escape between quotes. -/
def IsPlain (c : Char) : Prop := c ≠ '"' ∧ c ≠ '\\' ∧ c ≠ '\n'

theorem isPlain_of_mem_hex {d : Char} (member : d ∈ hex width n) : IsPlain d := by
  have digit : ∃ k < 16, d = Nat.digitChar k := by
    rcases List.mem_append.mp member with zero | digit
    · exact ⟨0, by decide, List.eq_of_mem_replicate zero⟩
    · exact mem_toDigits (by decide) digit
  obtain ⟨k, small, rfl⟩ := digit
  have each : ∀ k < 16, k.digitChar ≠ '"' ∧ k.digitChar ≠ '\\' ∧ k.digitChar ≠ '\n' := by decide
  exact each k small

/-! ### Reading back -/

/-- What is written for bytes between double quotes: a plain character stands for itself, and other bytes
have an escape, which is read as the bytes. -/
inductive Writes : List UInt8 → List Char → Prop
  | plain {c : Char} (plain : IsPlain c) : Writes (String.utf8EncodeChar c) [c]
  | escape {bs : List UInt8} {mark : Char} {ds : List Char} (marked : mark ≠ '\n')
    (digits : ∀ d ∈ ds, IsPlain d)
    (reads : ∀ cs, escape? (mark :: ds ++ cs) = some (bs, (mark :: ds).length)) :
    Writes bs ('\\' :: mark :: ds)

theorem toNat_eq {c : Char} {n : Nat} (same : c.toNat = n) : c = Char.ofNat n := by
  rw [← same, Char.ofNat_toNat]

theorem codePoint?_toNat (c : Char) : codePoint? c.toNat = some c := by
  rw [codePoint?, if_pos (show c.toNat.isValidChar from c.valid), Char.ofNat_toNat]

theorem writes_hex {bs : List UInt8} {mark : Char} (positive : 0 < width) (fits : n < 16 ^ width)
    (marked : mark ≠ '\n')
    (reads : ∀ cs, number? hexValue? 16 width cs = some n →
      escape? (mark :: cs) = some (bs, width + 1)) :
    Writes bs ('\\' :: mark :: hex width n) := by
  refine .escape marked (fun d => isPlain_of_mem_hex) fun cs => ?_
  rw [List.cons_append, reads _ (number?_hex positive fits cs), List.length_cons,
    length_hex positive fits]

theorem writes_escapeChar (c : Char) : Writes (String.utf8EncodeChar c) (escapeChar '"' c) := by
  have last := Utf8.char_bounds c
  rw [escapeChar]
  split
  · rename_i special
    refine .escape ?_ (List.forall_mem_nil _) fun cs => ?_
    · rcases special with rfl | rfl <;> decide
    · rcases special with rfl | rfl <;> rfl
  split
  · rename_i ordinary printable
    rw [not_or] at ordinary
    refine .plain ⟨ordinary.1, ordinary.2, ?_⟩
    rintro rfl
    cases printable
  split
  · rename_i e short
    unfold shortEscape? at short
    split at short <;> cases short
    all_goals
      rename_i code
      obtain rfl := toNat_eq code
      exact .escape (by decide) (List.forall_mem_nil _) fun cs => rfl
  split
  · rename_i control
    refine writes_hex (by decide) (by omega) (by decide) fun cs read => ?_
    rw [Utf8.encodeChar_one (by omega)]
    simp [escape?, read]
  split
  · rename_i short
    refine writes_hex (by decide) (by omega) (by decide) fun cs read => ?_
    simp [escape?, read, codePoint?_toNat]
  · refine writes_hex (by decide) (by omega) (by decide) fun cs read => ?_
    simp [escape?, read, codePoint?_toNat]

theorem writes_escapePiece (p : Utf8.Piece) : Writes p.bytes (escapePiece p) := by
  cases p with
  | char c => exact writes_escapeChar c
  | stray b =>
    refine writes_hex (by decide) b.toNat_lt (by decide) fun cs read => ?_
    simp [escape?, read, Utf8.Piece.bytes]

theorem unquoteBody?_append {bs : List UInt8} {written : List Char} (writes : Writes bs written)
    (cs : List Char) : unquoteBody? (written ++ cs) = (unquoteBody? cs).map (bs ++ ·) := by
  cases writes with
  | plain plain =>
    obtain ⟨noQuote, noSlash, noBreak⟩ := plain
    rw [List.singleton_append, unquoteBody?, if_neg noQuote, if_neg noBreak, if_neg noSlash]
  | escape marked digits reads =>
    rw [List.cons_append, unquoteBody?, if_neg (by decide), if_neg (by decide), if_pos rfl, reads]
    dsimp only
    rw [List.drop_left]

/-- Bytes that are quoted stand for themselves. -/
theorem unquote?_quoteBytes (bs : List UInt8) : unquote? (quoteBytes bs).toList = some bs := by
  have body (ps : List Utf8.Piece) :
      unquoteBody? (ps.flatMap escapePiece ++ ['"']) = some (ps.flatMap Utf8.Piece.bytes) := by
    induction ps with
    | nil =>
      rw [List.flatMap_nil, List.nil_append, unquoteBody?, if_pos rfl]
      rfl
    | cons p ps ih =>
      rw [List.flatMap_cons, List.append_assoc, unquoteBody?_append (writes_escapePiece p), ih,
        List.flatMap_cons, Option.map_some]
  rw [quoteBytes, String.toList_ofList, unquote?, body, Utf8.flatMap_pieces]

end FilterQuery.Quoted
