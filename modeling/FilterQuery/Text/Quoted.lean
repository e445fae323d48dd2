import FilterQuery.Text.Unicode
import FilterQuery.Text.Utf8

/-!
# Quoted text

Text between quotes on one line: the quote and the backslash are escaped, control characters have
short escapes or hexadecimal ones, and every other character that is not shown is written by its
code point.
-/

namespace FilterQuery.Quoted

/-- A number in hexadecimal with at least `width` digits. -/
def hex (width : Nat) (n : Nat) : List Char :=
  let ds := Nat.toDigits 16 n
  List.replicate (width - ds.length) '0' ++ ds

def shortEscape? (c : Char) : Option Char :=
  match c.toNat with
  | 0x07 => some 'a'
  | 0x08 => some 'b'
  | 0x0C => some 'f'
  | 0x0A => some 'n'
  | 0x0D => some 'r'
  | 0x09 => some 't'
  | 0x0B => some 'v'
  | _ => none

/-- A character as it is written between the given quotes. -/
def escapeChar (quote : Char) (c : Char) : List Char :=
  if c = quote ∨ c = '\\' then ['\\', c]
  else if Unicode.isPrintable c then [c]
  else match shortEscape? c with
    | some e => ['\\', e]
    | none =>
      if c.toNat < 0x20 ∨ c.toNat = 0x7F then '\\' :: 'x' :: hex 2 c.toNat
      else if c.toNat < 0x10000 then '\\' :: 'u' :: hex 4 c.toNat
      else '\\' :: 'U' :: hex 8 c.toNat

def quote (s : String) : String :=
  String.ofList ('"' :: (s.toList.flatMap (escapeChar '"') ++ ['"']))

def quoteChar (c : Char) : String := String.ofList ('\'' :: (escapeChar '\'' c ++ ['\'']))

/-- A piece of a byte string as it is written between double quotes. -/
def escapePiece : Utf8.Piece → List Char
  | .char c => escapeChar '"' c
  | .stray b => '\\' :: 'x' :: hex 2 b.toNat

/-- Quotes bytes with double quotes; a stray byte is written in hexadecimal. -/
def quoteBytes (bs : List UInt8) : String :=
  String.ofList ('"' :: ((Utf8.pieces bs).flatMap escapePiece ++ ['"']))

end FilterQuery.Quoted
