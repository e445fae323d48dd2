import FilterQuery.Proofs.Sql.Token
import FilterQuery.Proofs.Text.Reading

/-!
# Reading conditions

The boolean expressions that SQL text denotes, and their parser. Tests of columns bind tighter than
`NOT`, that tighter than `AND`, and that tighter than `OR`. A lone member of a conjunction or a
disjunction stands for it. Arguments are not kept: a test of a list has the number of its arguments.
-/

namespace FilterQuery.Sql

/-- What is said of a column. -/
inductive Test where
  | compare (sign : Sign)
  | isNull
  | isNotNull
  | isIn (count : Nat)
  | isNotIn (count : Nat)
  /-- The column is an array that holds all the arguments. -/
  | holds (count : Nat)
  | like
  | matchesRegex
deriving DecidableEq

/-- A boolean expression over columns. -/
inductive Expr where
  | const (b : Bool)
  | all (es : List Expr)
  | any (es : List Expr)
  | not (e : Expr)
  | test (column : Column) (t : Test)

namespace Expr

/-- The conjunction of expressions, which a lone one stands for. -/
def conj : List Expr → Expr
  | [e] => e
  | es => .all es

def disj : List Expr → Expr
  | [e] => e
  | es => .any es

end Expr

namespace Parser

open FilterQuery.Parser (expect sepBy)

def name : Parser Token String
  | .name s :: ts => some (s, ts)
  | _ => none

def placeholder : Parser Token Unit
  | .placeholder _ :: ts => some ((), ts)
  | _ => none

def column : Parser Token Column := fun ts => sepBy (.mark '.') name ts.length ts

def placeholders (close : Char) : Parser Token Nat := fun ts => do
  let (xs, ts) ← sepBy (.mark ',') placeholder ts.length ts
  let (_, ts) ← expect (.mark close) ts
  return (xs.length, ts)

def test : Parser Token Test
  | .word "IS" :: .word "NULL" :: ts => some (.isNull, ts)
  | .word "IS" :: .word "NOT" :: .word "NULL" :: ts => some (.isNotNull, ts)
  | .word "IN" :: .mark '(' :: ts => (placeholders ')' ts).map fun (n, ts) => (.isIn n, ts)
  | .word "NOT" :: .word "IN" :: .mark '(' :: ts =>
    (placeholders ')' ts).map fun (n, ts) => (.isNotIn n, ts)
  | .sign "@>" :: .word "ARRAY" :: .mark '[' :: ts =>
    (placeholders ']' ts).map fun (n, ts) => (.holds n, ts)
  | .word "LIKE" :: .placeholder _ :: ts => some (.like, ts)
  | .sign "~" :: .placeholder _ :: ts => some (.matchesRegex, ts)
  | .sign "=" :: .placeholder _ :: ts => some (.compare .eq, ts)
  | .sign "<>" :: .placeholder _ :: ts => some (.compare .ne, ts)
  | .sign ">" :: .placeholder _ :: ts => some (.compare .gt, ts)
  | .sign ">=" :: .placeholder _ :: ts => some (.compare .gte, ts)
  | .sign "<" :: .placeholder _ :: ts => some (.compare .lt, ts)
  | .sign "<=" :: .placeholder _ :: ts => some (.compare .lte, ts)
  | _ => none

def columnTest : Parser Token Expr := fun ts => do
  let (c, ts) ← column ts
  let (t, ts) ← test ts
  return (.test c t, ts)

def conjunction (item : Parser Token Expr) : Parser Token Expr := fun ts =>
  (sepBy (.word "AND") item ts.length ts).map fun (es, ts) => (Expr.conj es, ts)

def disjunction (item : Parser Token Expr) : Parser Token Expr := fun ts =>
  (sepBy (.word "OR") (conjunction item) ts.length ts).map fun (es, ts) => (Expr.disj es, ts)

/-- Reads an expression without `AND` and `OR` outside of parentheses, nested less than `depth`
deep. -/
def unary : Nat → Parser Token Expr
  | 0, _ => none
  | depth + 1, ts =>
    match ts with
    | .word "TRUE" :: ts => some (.const true, ts)
    | .word "FALSE" :: ts => some (.const false, ts)
    | .word "NOT" :: ts => (unary depth ts).map fun (e, ts) => (.not e, ts)
    | .mark '(' :: ts => do
      let (e, ts) ← disjunction (unary depth) ts
      let (_, ts) ← expect (.mark ')') ts
      return (e, ts)
    | ts => columnTest ts

end Parser

/-- The expression that a text denotes. -/
def parse (s : String) : Option Expr := do
  let ts ← lex s
  match Parser.disjunction (Parser.unary ts.length) ts with
  | some (e, []) => some e
  | _ => none

end FilterQuery.Sql
