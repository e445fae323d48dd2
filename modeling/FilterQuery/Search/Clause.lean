/-!
# Search clauses

Query text of a search index: conditions on fields, joined by blanks (and), bars (or) and minus
signs (not). Values do not stand in the text but are referred to by parameter names.
-/

namespace FilterQuery.Search

/-- The characters of words: letters and digits of ASCII, and the underscore. -/
def isWord (c : Char) : Bool := c == '_' || c.isAlphanum

/-- Escapes a field name: a backslash stands before each character that is not one of words. -/
def escape (field : String) : String :=
  String.ofList (field.toList.flatMap fun c => if isWord c then [c] else ['\\', c])

/-- A field name as the start of parameter names: an underscore stands for each character that is
not one of words. -/
def paramBase (field : String) : String :=
  String.ofList (field.toList.map fun c => if isWord c then c else '_')

def reference (name : String) : String := "$" ++ name

/-- What a field is compared with; parameters are given by their names. -/
inductive Operand where
  /-- A number. -/
  | number (name : String)
  | above (name : String) (inclusive : Bool)
  | below (name : String) (inclusive : Bool)
  /-- A tag. -/
  | tag (name : String)
  /-- Words in a row. -/
  | phrase (names : List String)
  /-- Words with wildcards between them. -/
  | pattern (parts : List (List String))
deriving DecidableEq, Repr

def wordsText (names : List String) : String := " ".intercalate (names.map reference)

def Operand.text : Operand → String
  | .number n => "[" ++ reference n ++ " " ++ reference n ++ "]"
  | .above n true => "[" ++ reference n ++ " +inf]"
  | .above n false => "[(" ++ reference n ++ " +inf]"
  | .below n true => "[-inf " ++ reference n ++ "]"
  | .below n false => "[-inf (" ++ reference n ++ "]"
  | .tag n => "\x7b" ++ reference n ++ "\x7d"
  | .phrase ns => "\"" ++ wordsText ns ++ "\""
  | .pattern parts => "*".intercalate (parts.map wordsText)

inductive Clause where
  | everything
  /-- At least two clauses that all hold. -/
  | all (cs : List Clause)
  | any (cs : List Clause)
  | notAll (cs : List Clause)
  | notAny (cs : List Clause)
  | field (name : String) (operand : Operand)
  | notField (name : String) (operand : Operand)

namespace Clause

/-- Whether a clause holds for everything, and so has no text. -/
def isEverything : Clause → Bool
  | .everything => true
  | _ => false

/-- The clauses that say something. -/
def proper (cs : List Clause) : List Clause := cs.filter (!·.isEverything)

def conj (cs : List Clause) : Clause :=
  match proper cs with
  | [] => .everything
  | [c] => c
  | cs => .all cs

mutual

def text : Clause → String
  | .everything => ""
  | .all cs => joined " " cs
  | .any cs => "(" ++ joined "|" cs ++ ")"
  | .notAll cs => "-(" ++ joined " " cs ++ ")"
  | .notAny cs => "-(" ++ joined "|" cs ++ ")"
  | .field name operand => "@" ++ escape name ++ ":" ++ operand.text
  | .notField name operand => "-@" ++ escape name ++ ":" ++ operand.text

def joined (sep : String) : List Clause → String
  | [] => ""
  | [c] => c.text
  | c :: cs => c.text ++ sep ++ joined sep cs

end

end Clause

end FilterQuery.Search
