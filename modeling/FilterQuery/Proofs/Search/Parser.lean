import FilterQuery.Proofs.Search.References
import FilterQuery.Proofs.Text.Reading

/-!
# Reading search text

The boolean reading of search text: a blank is a conjunction and binds tighter than a bar, which is a
disjunction; a minus sign in front is a negation and binds tightest, and the empty text holds for
everything. Patterns are not read, since blanks in them stand for no conjunction.
-/

namespace FilterQuery.Search

namespace Parser

open FilterQuery.Parser (expect sepBy)

def reference : Parser Token String
  | .reference name :: ts => some (name, ts)
  | _ => none

/-- Reads the words of a phrase behind its quote. -/
def phrase : Parser Token (Test String)
  | .char '"' :: ts => some (.phrase [], ts)
  | ts => do
    let (names, ts) ← sepBy (.char ' ') reference ts.length ts
    let (_, ts) ← expect (.char '"') ts
    return (.phrase names, ts)

def test : Parser Token (Test String)
  | .char '[' :: .reference n :: .char ' ' :: .reference m :: .char ']' :: ts =>
    if n = m then some (.number n, ts) else none
  | .char '[' :: .reference n :: .char ' ' :: .char '+' :: .char 'i' :: .char 'n' :: .char 'f' ::
      .char ']' :: ts => some (.above n true, ts)
  | .char '[' :: .char '(' :: .reference n :: .char ' ' :: .char '+' :: .char 'i' :: .char 'n' ::
      .char 'f' :: .char ']' :: ts => some (.above n false, ts)
  | .char '[' :: .char '-' :: .char 'i' :: .char 'n' :: .char 'f' :: .char ' ' :: .reference n ::
      .char ']' :: ts => some (.below n true, ts)
  | .char '[' :: .char '-' :: .char 'i' :: .char 'n' :: .char 'f' :: .char ' ' :: .char '(' ::
      .reference n :: .char ']' :: ts => some (.below n false, ts)
  | .char '\x7b' :: .reference n :: .char '\x7d' :: ts => some (.tag n, ts)
  | .char '"' :: ts => phrase ts
  | _ => none

/-- Reads a clause behind its sign. -/
def atom : Parser Token (Atom String) := fun ts =>
  match ts.dropWhile (· ≠ .char ':') with
  | _ :: us => (test us).map fun (t, us) => (⟨fieldName ts, t⟩, us)
  | [] => none

def conjunction {α : Type} (item : Parser Token (Expr α)) : Parser Token (Expr α) := fun ts =>
  (sepBy (.char ' ') item ts.length ts).map fun (es, ts) => (.all es, ts)

def disjunction {α : Type} (item : Parser Token (Expr α)) : Parser Token (Expr α) := fun ts =>
  (sepBy (.char '|') (conjunction item) ts.length ts).map fun (es, ts) => (.any es, ts)

/-- Reads an expression without blanks and bars outside of parentheses, nested less than `depth`
deep. -/
def unary : Nat → Parser Token (Expr (Atom String))
  | 0, _ => none
  | depth + 1, ts =>
    match ts with
    | .char '-' :: ts => (unary depth ts).map fun (e, ts) => (.not e, ts)
    | .char '(' :: ts => do
      let (e, ts) ← disjunction (unary depth) ts
      let (_, ts) ← expect (.char ')') ts
      return (e, ts)
    | .char '@' :: ts => (atom ts).map fun (a, ts) => (.atom a, ts)
    | _ => none

end Parser

def parse (s : String) : Option (Expr (Atom String)) :=
  match lex s.toList with
  | [] => some (.any [.all []])
  | ts =>
    match Parser.disjunction (Parser.unary ts.length) ts with
    | some (e, []) => some e
    | _ => none

end FilterQuery.Search
