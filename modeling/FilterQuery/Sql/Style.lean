import FilterQuery.Text.Quoted

/-!
# Placeholder styles

How bound arguments are written in SQL text.
-/

namespace FilterQuery.Sql

inductive Style where
  /-- A question mark for each argument, as SQLite and MySQL expect. -/
  | question
  /-- Numbered arguments of PostgreSQL: `$1`, `$2`, ... -/
  | dollar
  /-- Named arguments: `@p1`, `@p2`, ... -/
  | named
deriving DecidableEq, Repr

namespace Style

/-- Every style, in the order of their numbers. -/
def list : List Style := [.question, .dollar, .named]

def name : Style → String
  | .question => "question"
  | .dollar => "dollar"
  | .named => "named"

def number (s : Style) : Nat := list.idxOf s

/-- The name shown for a number, whether it is that of a style or not. -/
def nameOfNumber (n : Nat) : String :=
  match list[n]? with
  | some s => s.name
  | none => "style(" ++ toString n ++ ")"

structure Unknown where
  name : String
deriving DecidableEq, Repr

def Unknown.message (e : Unknown) : String :=
  "invalid dialect configuration: unknown placeholder style " ++ Quoted.quote e.name

def ofName (s : String) : Except Unknown Style :=
  match list.find? (·.name == s) with
  | some style => .ok style
  | none => .error ⟨s⟩

/-- Whether the style is one of PostgreSQL, which has array and regular expression operators. -/
def isPostgres : Style → Bool
  | .question => false
  | .dollar | .named => true

/-- The placeholder of the argument with number `n`, where the first has number one. -/
def placeholder (s : Style) (n : Nat) : String :=
  match s with
  | .question => "?"
  | .dollar => "$" ++ toString n
  | .named => "@p" ++ toString n

end Style

end FilterQuery.Sql
