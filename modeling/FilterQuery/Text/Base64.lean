/-!
# Base64

Bytes written as text, six bits a character. Four characters hold three bytes; at the end, one or
two characters may be replaced by padding. Line breaks between the characters do not count.
-/

namespace FilterQuery.Base64

/-- The six bits of a character. -/
def digit? (c : Char) : Option Nat :=
  if c.isUpper then some (c.toNat - 'A'.toNat)
  else if c.isLower then some (c.toNat - 'a'.toNat + 26)
  else if c.isDigit then some (c.toNat - '0'.toNat + 52)
  else if c = '+' then some 62
  else if c = '/' then some 63
  else none

/-- The first `count` of the three bytes of a number with 24 bits. -/
def bytesOf (count n : Nat) : List UInt8 :=
  [n / 65536, n / 256 % 256, n % 256].take count |>.map Nat.toUInt8

/-- The bytes of groups of four characters. -/
def decodeGroups? : List Char → Option (List UInt8)
  | [] => some []
  -- the bits of the last group that fill no byte are ignored
  | [a, b, '=', '='] => do
    return bytesOf 1 ((← digit? a) * 262144 + (← digit? b) * 4096)
  | [a, b, c, '='] => do
    return bytesOf 2 ((← digit? a) * 262144 + (← digit? b) * 4096 + (← digit? c) * 64)
  | a :: b :: c :: d :: rest => do
    let n := (← digit? a) * 262144 + (← digit? b) * 4096 + (← digit? c) * 64 + (← digit? d)
    return bytesOf 3 n ++ (← decodeGroups? rest)
  | _ => none

def decode? (cs : List Char) : Option (List UInt8) :=
  decodeGroups? (cs.filter fun c => c != '\r' && c != '\n')

end FilterQuery.Base64
