import FilterQuery.Numeric.Integer
import FilterQuery.Text.Quoted

/-!
# Numbers in TOML

Integers are decimal, or stand in one of three other bases behind a mark; they have 64 bits.
Floating point numbers have digits on both sides of their point. Underscores may stand between
digits.
-/

namespace FilterQuery.Config.Toml

inductive Base where
  | decimal
  | hexadecimal
  | octal
  | binary
deriving DecidableEq, Repr

namespace Base

def name : Base → String
  | .decimal => "decimal"
  | .hexadecimal => "hexadecimal"
  | .octal => "octal"
  | .binary => "binary"

def radix : Base → Nat
  | .decimal => 10
  | .hexadecimal => 16
  | .octal => 8
  | .binary => 2

/-- The base that a letter behind a zero marks. -/
def ofMark? (c : Char) : Option Base :=
  match c with
  | 'x' => some .hexadecimal
  | 'o' => some .octal
  | 'b' => some .binary
  | _ => none

def admits (b : Base) (c : Char) : Bool := c == '_' || (Literal.digitValue? b.radix c).isSome

end Base

inductive NumberFault where
  | startsWithUnderscore
  | endsWithUnderscore
  | underscoreRun
  | underscoreBeforeExponent
  | underscoreAfterExponent
  | underscoreBeforePoint
  | underscoreAfterPoint
  | leadingZero
  | integer (base : Base) (digits : String) (e : LiteralError)
  | startsWithPoint
  | endsWithPoint
  | secondPoint
  | noDigitBeforePoint
  | noDigitAfterPoint
  | leadingZeros
  | float (digits : String) (e : LiteralError)
deriving DecidableEq, Repr

def NumberFault.message : NumberFault → String
  | .startsWithUnderscore => "number cannot start with underscore"
  | .endsWithUnderscore => "number cannot end with underscore"
  | .underscoreRun => "number must have at least one digit between underscores"
  | .underscoreBeforeExponent => "cannot have underscore before exponent"
  | .underscoreAfterExponent => "cannot have underscore after exponent"
  | .underscoreBeforePoint => "cannot have underscore before decimal point"
  | .underscoreAfterPoint => "cannot have underscore after decimal point"
  | .leadingZero => "leading zero not allowed on decimal number"
  | .integer base digits e =>
    "couldn't parse " ++ base.name ++ " number: strconv.ParseInt: parsing " ++
      Quoted.quote digits ++ ": " ++ e.message
  | .startsWithPoint => "float cannot start with a dot"
  | .endsWithPoint => "float cannot end with a dot"
  | .secondPoint => "float can have at most one decimal point"
  | .noDigitBeforePoint => "float decimal point must be preceded by a digit"
  | .noDigitAfterPoint => "float decimal point must be followed by a digit"
  | .leadingZeros => "float integer part cannot have leading zeroes"
  | .float digits e =>
    "unable to parse float: strconv.ParseFloat: parsing " ++ Quoted.quote digits ++ ": " ++
      e.message

def isSign (c : Char) : Bool := c == '+' || c == '-'

/-! ## Integers -/

/-- Whether two underscores stand side by side. -/
def hasUnderscoreRun : List Char → Bool
  | '_' :: '_' :: _ => true
  | _ :: cs => hasUnderscoreRun cs
  | [] => false

def plainInteger (cs : List Char) : Except NumberFault (List Char) :=
  let body := if cs.head?.any isSign then cs.tail else cs
  if body.isEmpty then .ok cs
  else if body.head? == some '_' then .error .startsWithUnderscore
  else if body.getLast? == some '_' then .error .endsWithUnderscore
  else if hasUnderscoreRun cs then .error .underscoreRun
  else .ok (cs.filter (· != '_'))

def readInteger (base : Base) (cs : List Char) : Except NumberFault Int := do
  let digits ← plainInteger cs
  let body := if digits.head?.any isSign then digits.tail else digits
  if base = .decimal ∧ body.head? = some '0' ∧ 1 < body.length then throw .leadingZero
  (Integer.ofSignedIn base.radix digits).mapError (.integer base (String.ofList digits))

def integer (cs : List Char) : Except NumberFault Int :=
  match cs with
  | '0' :: mark :: d :: body =>
    match Base.ofMark? mark with
    | some base => readInteger base (d :: body)
    | none => readInteger .decimal cs
  | _ => readInteger .decimal cs

/-! ## Floating point numbers -/

/-- A floating point number without its underscores; `before` tells whether a digit stands before
the rest, and `last` what the last character was. -/
def plainFloat (before : Bool) (last : Option Char) : List Char → Except NumberFault (List Char)
  | [] => .ok []
  | c :: cs =>
    let next := cs.head?
    match c with
    -- an underscore needs a digit before it, and touches neither point nor exponent
    | '_' =>
      if !before then .error .underscoreRun
      else if next == some 'e' || next == some 'E' then .error .underscoreBeforeExponent
      else plainFloat false (some c) cs
    | '.' =>
      if next == some '_' then .error .underscoreAfterPoint
      else if last == some '_' then .error .underscoreBeforePoint
      else return c :: (← plainFloat before (some c) cs)
    | _ =>
      if c == 'e' || c == 'E' then
        if next == some '_' then .error .underscoreAfterExponent
        else return c :: (← plainFloat before (some c) cs)
      else return c :: (← plainFloat (!isSign c) (some c) cs)

/-- Checks the points of a number: there is one at most, and it stands between digits. -/
def checkPoints (seen : Bool) (last : Option Char) : List Char → Except NumberFault Unit
  | [] => .ok ()
  | c :: cs =>
    if c == '.' then
      if seen then .error .secondPoint
      else if !last.any Char.isDigit then .error .noDigitBeforePoint
      else if !cs.head?.any Char.isDigit then .error .noDigitAfterPoint
      else checkPoints true (some c) cs
    else checkPoints seen (some c) cs

def float (cs : List Char) : Except NumberFault Binary := do
  if cs = ['+', 'n', 'a', 'n'] ∨ cs = ['-', 'n', 'a', 'n'] then return .nan
  if cs.head? = some '_' then throw .startsWithUnderscore
  if cs.getLast? = some '_' then throw .endsWithUnderscore
  let digits ← if cs.contains '_' then plainFloat false none cs else pure cs
  if digits.head? = some '.' then throw .startsWithPoint
  if digits.getLast? = some '.' then throw .endsWithPoint
  checkPoints false none digits
  match if digits.head?.any isSign then digits.tail else digits with
  | '0' :: d :: _ => if d.isDigit then throw .leadingZeros
  | _ => pure ()
  (Literal.read .double digits).mapError (.float (String.ofList digits))

end FilterQuery.Config.Toml
