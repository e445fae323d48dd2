import FilterQuery.Text.Unicode

/-!
# Sets of characters

The character classes of a pattern, as expressions with a membership test. Code points are plain
numbers here, since a class may mention ones that no text holds.
-/

namespace FilterQuery.Regex

inductive CharSet where
  | none
  | range (lo hi : Nat)
  | property (p : Unicode.Property)
  | union (a b : CharSet)
  | complement (a : CharSet)
  /-- The code points that differ from a member only in case. -/
  | folded (a : CharSet)

namespace CharSet

def contains : CharSet → Nat → Bool
  | .none, _ => false
  | .range lo hi, c => lo ≤ c && c ≤ hi
  | .property p, c => p.holds c
  | .union a b, c => a.contains c || b.contains c
  | .complement a, c => !a.contains c
  | .folded a, c => (Unicode.foldOrbit c).any a.contains

def singleton (c : Nat) : CharSet := .range c c

/-- The union of several ranges, given by their first and last characters. -/
def ofRanges (rs : List (Char × Char)) : CharSet :=
  rs.foldr (fun r s => .union (.range r.1.toNat r.2.toNat) s) .none

def any : CharSet := .complement .none

def notNewline : CharSet := .complement (.singleton 10)

def digit : CharSet := ofRanges [('0', '9')]

def space : CharSet := ofRanges [('\t', '\n'), ('\x0c', '\r'), (' ', ' ')]

def word : CharSet := ofRanges [('0', '9'), ('A', 'Z'), ('_', '_'), ('a', 'z')]

/-- The classes written with a backslash and a letter, in lower case. -/
def shorthand? : Char → Option CharSet
  | 'd' => some digit
  | 's' => some space
  | 'w' => some word
  | _ => Option.none

/-- The classes written by name between colons. -/
def named? : String → Option CharSet
  | "alnum" => some (ofRanges [('0', '9'), ('A', 'Z'), ('a', 'z')])
  | "alpha" => some (ofRanges [('A', 'Z'), ('a', 'z')])
  | "ascii" => some (ofRanges [('\x00', '\x7f')])
  | "blank" => some (ofRanges [('\t', '\t'), (' ', ' ')])
  | "cntrl" => some (ofRanges [('\x00', '\x1f'), ('\x7f', '\x7f')])
  | "digit" => some digit
  | "graph" => some (ofRanges [('!', '~')])
  | "lower" => some (ofRanges [('a', 'z')])
  | "print" => some (ofRanges [(' ', '~')])
  | "punct" => some (ofRanges [('!', '/'), (':', '@'), ('[', '\x60'), ('\x7b', '~')])
  | "space" => some (ofRanges [('\t', '\r'), (' ', ' ')])
  | "upper" => some (ofRanges [('A', 'Z')])
  | "word" => some word
  | "xdigit" => some (ofRanges [('0', '9'), ('A', 'F'), ('a', 'f')])
  | _ => Option.none

end CharSet

end FilterQuery.Regex
