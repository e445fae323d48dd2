/-!
# UTF-8

Reading characters from bytes that need not be well formed: a byte that starts no character stands
for itself alone.
-/

namespace FilterQuery.Utf8

def encode (s : String) : List UInt8 := s.toUTF8.data.toList

def isContinuation (b : UInt8) : Bool := 0x80 ≤ b && b ≤ 0xBF

/-- The bits that a continuation byte carries. -/
def low6 (b : UInt8) : Nat := b.toNat % 64

/-- The character that starts with the byte `b` and goes on with `rest`, and the number of bytes
it takes of `rest`. -/
def multibyte? (b : UInt8) (rest : List UInt8) : Option (Char × Nat) :=
  if 0xC2 ≤ b ∧ b ≤ 0xDF then
    match rest with
    | b₁ :: _ =>
      if isContinuation b₁ then some (Char.ofNat ((b.toNat % 32) * 64 + low6 b₁), 1) else none
    | _ => none
  else if 0xE0 ≤ b ∧ b ≤ 0xEF then
    match rest with
    | b₁ :: b₂ :: _ =>
      -- no overlong form below, and no surrogate above
      let lo : UInt8 := if b = 0xE0 then 0xA0 else 0x80
      let hi : UInt8 := if b = 0xED then 0x9F else 0xBF
      if lo ≤ b₁ ∧ b₁ ≤ hi ∧ isContinuation b₂ then
        some (Char.ofNat ((b.toNat % 16) * 4096 + low6 b₁ * 64 + low6 b₂), 2)
      else none
    | _ => none
  else if 0xF0 ≤ b ∧ b ≤ 0xF4 then
    match rest with
    | b₁ :: b₂ :: b₃ :: _ =>
      -- no overlong form below, and nothing beyond the last code point
      let lo : UInt8 := if b = 0xF0 then 0x90 else 0x80
      let hi : UInt8 := if b = 0xF4 then 0x8F else 0xBF
      if lo ≤ b₁ ∧ b₁ ≤ hi ∧ isContinuation b₂ ∧ isContinuation b₃ then
        some (Char.ofNat ((b.toNat % 8) * 262144 + low6 b₁ * 4096 + low6 b₂ * 64 + low6 b₃), 3)
      else none
    | _ => none
  else none

/-- A piece of a byte string: a character, or a byte that starts none. -/
inductive Piece where
  | char (c : Char)
  | stray (b : UInt8)
deriving DecidableEq, Repr

/-- The first piece of a nonempty byte string, and the bytes after it. -/
def firstPiece (b : UInt8) (rest : List UInt8) : Piece × List UInt8 :=
  if b < 0x80 then (.char (Char.ofNat b.toNat), rest)
  else match multibyte? b rest with
    | some (c, n) => (.char c, rest.drop n)
    | none => (.stray b, rest)

theorem length_firstPiece_le (b : UInt8) (rest : List UInt8) :
    (firstPiece b rest).2.length ≤ rest.length := by
  unfold firstPiece
  split
  · exact Nat.le_refl _
  · split <;> simp

def pieces : List UInt8 → List Piece
  | [] => []
  | b :: rest =>
    have := length_firstPiece_le b rest
    (firstPiece b rest).1 :: pieces (firstPiece b rest).2
termination_by bs => bs.length
decreasing_by simp only [List.length_cons]; omega

/-- The character shown for a piece: a stray byte is shown as the replacement character. -/
def Piece.shown : Piece → Char
  | .char c => c
  | .stray _ => '\uFFFD'

/-- The characters of a byte string, stray bytes replaced. -/
def decodeLossy (bs : List UInt8) : List Char := (pieces bs).map Piece.shown

/-- The characters of a byte string without stray bytes. -/
def decode? (bs : List UInt8) : Option (List Char) :=
  (pieces bs).mapM fun
    | .char c => some c
    | .stray _ => none

end FilterQuery.Utf8
