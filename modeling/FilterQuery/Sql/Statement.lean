import FilterQuery.Document.Modifiers
import FilterQuery.Sql.Dialect

/-!
# Statements

A statement is a given text, extended by the clauses that a query asks for.
-/

namespace FilterQuery.Sql

/-- What a query adds to a statement. -/
structure Clauses where
  filter : Condition
  modifiers : Modifiers

namespace Clauses

/-- The `WHERE` clause, unless the condition always holds. -/
def whereText (style : Style) : Condition → String
  | .always true => ""
  | c => " WHERE " ++ c.text style

def criterionText (c : SortField) : String :=
  Column.text (columnOf (Path.ofDotted c.key)) ++ if c.order < 0 then " DESC" else " ASC"

def orderText (criteria : List SortField) : String :=
  if criteria.isEmpty then "" else " ORDER BY " ++ ", ".intercalate (criteria.map criterionText)

def limitText (style : Style) (m : Modifiers) : String :=
  if 0 < m.limit then " LIMIT " ++ toString m.limit
  -- outside of PostgreSQL an offset needs a limit, and minus one is none
  else if 0 < m.skip ∧ !style.isPostgres then " LIMIT -1"
  else ""

def offsetText (m : Modifiers) : String :=
  if 0 < m.skip then " OFFSET " ++ toString m.skip else ""

def text (style : Style) (c : Clauses) : String :=
  whereText style c.filter ++ orderText c.modifiers.sort ++ limitText style c.modifiers ++
    offsetText c.modifiers

end Clauses

structure Statement where
  text : String
  args : List Value

def select (style : Style) (c : Compiler Bindings Condition Fragment) (base : String) (n : Node)
    (o : Overrides) : Except CompileError Statement := do
  let (filter, m) ← n.split.mapError .violation
  let f ← c.compile filter
  let clauses : Clauses := ⟨f.condition, m.override o⟩
  return ⟨String.ofList (Unicode.trimSpace base.toList) ++ clauses.text style, f.args⟩

end FilterQuery.Sql
