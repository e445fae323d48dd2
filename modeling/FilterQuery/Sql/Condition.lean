import FilterQuery.Sql.Style

/-!
# Conditions

Boolean SQL expressions over columns and bound arguments, and their text. Arguments are known by
their numbers.
-/

namespace FilterQuery.Sql

/-- A column, qualified by the parts before the last. -/
abbrev Column := List String

/-- Quotes a name; quotes in it are doubled. -/
def quoteName (name : String) : String :=
  let body := name.toList.flatMap fun c => if c = '"' then ['"', '"'] else [c]
  String.ofList ('"' :: (body ++ ['"']))

def Column.text (c : Column) : String := ".".intercalate (c.map quoteName)

inductive Sign where
  | eq
  | ne
  | gt
  | gte
  | lt
  | lte
deriving DecidableEq, Repr

def Sign.text : Sign → String
  | .eq => "="
  | .ne => "<>"
  | .gt => ">"
  | .gte => ">="
  | .lt => "<"
  | .lte => "<="

inductive Condition where
  | always (b : Bool)
  /-- All of at least two conditions. -/
  | all (cs : List Condition)
  /-- One of at least two conditions. -/
  | any (cs : List Condition)
  | notAll (cs : List Condition)
  | notAny (cs : List Condition)
  | compare (column : Column) (sign : Sign) (arg : Nat)
  | isNull (column : Column)
  | isNotNull (column : Column)
  | isIn (column : Column) (args : List Nat)
  | isNotIn (column : Column) (args : List Nat)
  /-- The column is an array that holds all the arguments. -/
  | holds (column : Column) (args : List Nat)
  | like (column : Column) (arg : Nat)
  /-- The column matches a regular expression. -/
  | matchesRegex (column : Column) (arg : Nat)

namespace Condition

def conj : List Condition → Condition
  | [] => .always true
  | [c] => c
  | cs => .all cs

def disj : List Condition → Condition
  | [] => .always false
  | [c] => c
  | cs => .any cs

def nor : List Condition → Condition
  | [] => .always true
  | cs => .notAny cs

def nand : List Condition → Condition
  | [] => .always false
  | cs => .notAll cs

/-- The placeholders of arguments. -/
def argTexts (style : Style) (args : List Nat) : String :=
  ", ".intercalate (args.map style.placeholder)

mutual

def text (style : Style) : Condition → String
  | .always true => "TRUE"
  | .always false => "FALSE"
  | .all cs => "(" ++ joined style " AND " cs ++ ")"
  | .any cs => "(" ++ joined style " OR " cs ++ ")"
  | .notAll cs => "NOT (" ++ joined style " AND " cs ++ ")"
  | .notAny cs => "NOT (" ++ joined style " OR " cs ++ ")"
  | .compare c sign arg => c.text ++ " " ++ sign.text ++ " " ++ style.placeholder arg
  | .isNull c => c.text ++ " IS NULL"
  | .isNotNull c => c.text ++ " IS NOT NULL"
  | .isIn c args => c.text ++ " IN (" ++ argTexts style args ++ ")"
  | .isNotIn c args => c.text ++ " NOT IN (" ++ argTexts style args ++ ")"
  | .holds c args => c.text ++ " @> ARRAY[" ++ argTexts style args ++ "]"
  | .like c arg => c.text ++ " LIKE " ++ style.placeholder arg
  | .matchesRegex c arg => c.text ++ " ~ " ++ style.placeholder arg

def joined (style : Style) (sep : String) : List Condition → String
  | [] => ""
  | [c] => c.text style
  | c :: cs => c.text style ++ sep ++ joined style sep cs

end

end Condition

end FilterQuery.Sql
