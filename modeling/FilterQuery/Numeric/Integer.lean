import FilterQuery.Numeric.Literal
import FilterQuery.Numeric.Word

/-!
# Integer literals

Reads integers of 64 bits from digits in a base. Digits are looked at from the left, so of two
faults in a text the first one counts.
-/

namespace FilterQuery.Integer

/-- Reads digits of a base behind a number read so far. Underscores are passed over where
`spaced` says so. -/
def readDigits (base : Nat) (spaced : Bool) : Nat → List Char → Except LiteralError Nat
  | n, [] => .ok n
  | n, c :: cs =>
    if spaced && c == '_' then readDigits base spaced n cs
    else match Literal.digitValue? base c with
      | none => .error .malformed
      | some d =>
        if n * base + d < unsignedLimit then readDigits base spaced (n * base + d) cs
        else .error .outOfRange

/-- The number that digits in a base denote; there has to be a digit. -/
def ofDigits (base : Nat) (cs : List Char) : Except LiteralError Nat :=
  if cs.isEmpty then .error .malformed else readDigits base false 0 cs

/-- The base that shows in the start of a text, and the digits behind its mark: `0b`, `0o`, `0x`,
or `0` for octal numbers. -/
def splitBase : List Char → Nat × List Char
  | '0' :: mark :: d :: body =>
    match mark.toLower with
    | 'b' => (2, d :: body)
    | 'o' => (8, d :: body)
    | 'x' => (16, d :: body)
    | _ => (8, mark :: d :: body)
  | '0' :: body => (8, body)
  | cs => (10, cs)

/-- Whether a text starts with the mark of a base. -/
def isMarked (cs : List Char) : Bool :=
  cs.head? == some '0' && (cs.drop 1).head?.any fun c => ['b', 'o', 'x'].contains c.toLower

/-- Whether underscores stand only between digits, or between the mark of a base and a digit. -/
def spacedWell (cs : List Char) : Bool :=
  if isMarked cs then Literal.underscoresOk ((splitBase cs).1 == 16) .digit (cs.drop 2)
  else Literal.underscoresOk false .start cs

/-- The number that a text without a sign denotes in the base that its start shows. -/
def ofBased (cs : List Char) : Except LiteralError Nat := do
  if cs.isEmpty then throw .malformed
  let (base, body) := splitBase cs
  let n ← readDigits base true 0 body
  if cs.contains '_' && !spacedWell cs then throw .malformed
  return n

/-- The number with a sign that digits in a base denote. -/
def ofSignedIn (base : Nat) (cs : List Char) : Except LiteralError Int := do
  let (neg, body) := Literal.readSign cs
  let n ← ofDigits base body
  if neg then
    if n ≤ signedLimit then return -(n : Int) else throw .outOfRange
  else if n < signedLimit then return n else throw .outOfRange

/-- The number with a sign that decimal digits denote. -/
def ofSigned (cs : List Char) : Except LiteralError Int := ofSignedIn 10 cs

end FilterQuery.Integer
