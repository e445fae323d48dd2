import FilterQuery.Text.Unicode
import FilterQuery.Value.Basic

/-!
# Settings as variables

Reads assignments of texts to variables, one a line. A value may stand between quotes, and then go
on over several lines. Between double quotes a backslash escapes; and except between single quotes,
a dollar sign stands before the name of a variable, of the environment or defined above.
-/

namespace FilterQuery.Config

inductive DotenvError where
  | missingQuotes
  | unsetVariable (line : String)
  | badLine (line : String)
deriving DecidableEq, Repr

def DotenvError.message : DotenvError → String
  | .missingQuotes => "missing quotes"
  | .unsetVariable line => "line \x60" ++ line ++ "\x60 has an unset variable"
  | .badLine line => "line \x60" ++ line ++ "\x60 doesn't match format"

namespace Dotenv

/-- The lines of a text. A break is a carriage return, a line feed, or both in this order. -/
def lines (cs : List Char) : List (List Char) := go [] cs
where
  /-- The lines behind the start of one, which is kept backwards. -/
  go (start : List Char) : List Char → List (List Char)
    | [] => if start.isEmpty then [] else [start.reverse]
    | '\r' :: '\n' :: cs => start.reverse :: go [] cs
    | c :: cs =>
      if c = '\r' ∨ c = '\n' then start.reverse :: go [] cs else go (c :: start) cs

/-! ## Quotes that stay open -/

/-- What stands behind the first equals sign or, in a line without one, behind the first colon, if
there is something on both sides. -/
def afterSign? (line : List Char) : Option (List Char) :=
  let sign := if line.contains '=' then '=' else ':'
  let before := line.takeWhile (· != sign)
  let rest := (line.dropWhile (· != sign)).drop 1
  if before.isEmpty || rest.isEmpty then none else some rest

def lastIndex? (c : Char) (cs : List Char) : Option Nat :=
  (cs.reverse.idxOf? c).map fun i => cs.length - 1 - i

/-- The quote that the value of a line starts with and that does not occur in it again, unless a
backslash stands before. -/
def openQuote? (line : List Char) : Option Char := do
  match Unicode.trimSpace (← afterSign? line) with
  | [] => none
  | q :: body =>
    if q == '"' || q == '\'' then
      match lastIndex? q (Unicode.trimSpace body) with
      | some i => if (q :: body)[i]? == some '\\' then some q else none
      | none => some q
    else none

def closes (q : Char) (line : List Char) : Bool :=
  match line.reverse.dropWhile (· != q) with
  | [] => false
  | _ :: before => before.head? != some '\\'

/-! ## Assignments -/

def isBlank (c : Char) : Bool := [' ', '\t', '\n', '\r', '\x0c'].contains c

def isNameChar (c : Char) : Bool := c.isAlphanum || c == '_' || c == '.'

def isTail (cs : List Char) : Bool :=
  match cs.dropWhile isBlank with
  | [] => true
  | c :: cs => c == '#' && !cs.contains '\n'

/-- The text up to the last closing quote behind which only blanks and a comment follow. The quotes
belong to it. -/
def quotedValue? (q : Char) (body : List Char) : Option (List Char) :=
  (List.range body.length).reverse.findSome? fun i =>
    if body[i]? == some q && isTail (body.drop (i + 1)) then some (q :: body.take (i + 1)) else none

def bareValue? (cs : List Char) : Option (List Char) :=
  let value := cs.takeWhile fun c => c != '#' && c != '\n'
  if !value.isEmpty && isTail (cs.drop value.length) then some value else none

def valueAt? (cs : List Char) : Option (List Char) :=
  let quoted? := match cs with
    | q :: body => if q == '"' || q == '\'' then quotedValue? q body else none
    | [] => none
  quoted? <|> bareValue? cs <|> if isTail cs then some [] else none

/-- What may be the start of the value: behind an equals sign as many blanks as there are, or fewer
if that does not fit; behind a colon one blank, or more. -/
def valueStarts (cs : List Char) : List (List Char) :=
  match cs.dropWhile isBlank, cs with
  | '=' :: rest, _ =>
    (List.range ((rest.takeWhile isBlank).length + 1)).reverse.map fun n => rest.drop n
  | _, ':' :: rest => (List.range (rest.takeWhile isBlank).length).map fun n => rest.drop (n + 1)
  | _, _ => []

/-- A line without the word that exports its variable. -/
def dropExport (cs : List Char) : List Char :=
  let rest := cs.drop 6
  let body := rest.dropWhile isBlank
  if cs.take 6 = "export".toList ∧ rest.head?.any isBlank ∧ body.head?.any isNameChar then body
  else cs

def split? (line : List Char) : Option (String × List Char) := do
  let body := dropExport (line.dropWhile isBlank)
  let name := body.takeWhile isNameChar
  if name.isEmpty then none
  let value ← (valueStarts (body.drop name.length)).findSome? valueAt?
  return (String.ofList name, Unicode.trimSpace value)

/-! ## Values -/

def lineEscapes (letter shown : Char) : List Char → List Char
  | '\\' :: c :: cs =>
    if c = letter then shown :: lineEscapes letter shown cs
    else '\\' :: lineEscapes letter shown (c :: cs)
  | c :: cs => c :: lineEscapes letter shown cs
  | [] => []

/-- Drops the backslashes before other characters than the dollar sign. -/
def dropBackslashes : List Char → List Char
  | '\\' :: c :: cs =>
    if c = '$' then '\\' :: dropBackslashes (c :: cs) else c :: dropBackslashes cs
  | c :: cs => c :: dropBackslashes cs
  | [] => []

def isVariableChar (c : Char) : Bool := c.isUpper || c.isDigit || c == '_'

/-- A dollar sign with what belongs to it: the name, maybe in braces, and the text as written. -/
def reference (cs : List Char) : String × List Char :=
  let opening := if cs.head? == some '\x7b' then ['\x7b'] else []
  let name := (cs.drop opening.length).takeWhile isVariableChar
  let closing :=
    if (cs.drop (opening.length + name.length)).head? == some '\x7d' then ['\x7d'] else []
  (String.ofList name, opening ++ name ++ closing)

/-- Replaces the variables of a text of at most so many characters. -/
def expandWithin (lookup : String → String) : Nat → List Char → List Char
  | 0, _ => []
  | _, [] => []
  -- behind a backslash a dollar sign stands for itself
  | fuel + 1, '\\' :: '$' :: cs =>
    let (_, written) := reference cs
    '$' :: written ++ expandWithin lookup fuel (cs.drop written.length)
  | fuel + 1, '$' :: cs =>
    let (name, written) := reference cs
    let rest := expandWithin lookup fuel (cs.drop written.length)
    if name = "" then '$' :: written ++ rest else (lookup name).toList ++ rest
  | fuel + 1, c :: cs => c :: expandWithin lookup fuel cs

def expand (lookup : String → String) (cs : List Char) : List Char :=
  expandWithin lookup (cs.length + 1) cs

def unquote? (q : Char) (cs : List Char) : Option (List Char) :=
  match cs with
  | c :: body => if c = q ∧ body.getLast? = some q then some body.dropLast else none
  | [] => none

def valueText (lookup : String → String) (cs : List Char) : List Char :=
  match unquote? '\'' cs, unquote? '"' cs with
  | some body, _ => body
  | none, some body =>
    expand lookup (dropBackslashes (lineEscapes 'r' '\r' (lineEscapes 'n' '\n' body)))
  | none, none => expand lookup cs

/-! ## Files -/

/-- What is wrong with a line that is no assignment: it may export a variable that is not set. -/
def lineError (vars : List (String × String)) (line : List Char) : DotenvError :=
  let trimmed := Unicode.trimSpace line
  match trimmed.dropWhile (· != ' ') with
  | ' ' :: name =>
    if "export".toList.isPrefixOf line && !vars.any (·.1 == String.ofList name) then
      .unsetVariable (String.ofList trimmed)
    else .badLine (String.ofList line)
  | _ => .badLine (String.ofList line)

/-- Adds the variable of a line. The latest ones come first. -/
def assign (env? : String → Option String) (vars : List (String × String)) (line : List Char) :
    Except DotenvError (List (String × String)) :=
  match split? line with
  | none => .error (lineError vars line)
  | some (name, value) =>
    let lookup v := (env? v <|> vars.lookup v).getD ""
    .ok ((name, String.ofList (valueText lookup value)) :: vars)

/-- Adds the variables of lines, behind a line whose quote is not closed yet. -/
def assignAll (env? : String → Option String) :
    Option (Char × List Char) → List (String × String) → List (List Char) →
      Except DotenvError (List (String × String))
  | some _, _, [] => .error .missingQuotes
  | none, vars, [] => .ok vars
  | some (q, start), vars, l :: ls =>
    let line := start ++ '\n' :: l
    if closes q l then do assignAll env? none (← assign env? vars line) ls
    else assignAll env? (some (q, line)) vars ls
  | none, vars, l :: ls =>
    let line := Unicode.trimSpace l
    if line.isEmpty || line.head? == some '#' then assignAll env? none vars ls
    else match openQuote? line with
      | some q => assignAll env? (some (q, line)) vars ls
      | none => do assignAll env? none (← assign env? vars line) ls

end Dotenv

/-- The names behind the dollar signs of a text. -/
def Dotenv.names : List Char → List String
  | [] => []
  | c :: cs => if c = '$' then (reference cs).1 :: names cs else names cs

/-- The variables that a list of assignments may refer to. A backslash in a name may be one that is
dropped. -/
def Dotenv.mentioned (bytes : List UInt8) : List String :=
  let text := Utf8.decodeLossy bytes
  names text ++ names (text.filter (· != '\\'))

/-- The entries of a list of assignments. -/
def ofDotenv (env? : String → Option String) (bytes : List UInt8) :
    Except DotenvError (List (String × Value)) := do
  let text := match Utf8.decodeLossy bytes with
    -- a mark of the byte order
    | '\uFEFF' :: cs => cs
    | cs => cs
  let vars ← Dotenv.assignAll env? none [] (Dotenv.lines text)
  return Value.sortEntries (vars.reverse.map fun (name, value) => (name, .text value))

end FilterQuery.Config
