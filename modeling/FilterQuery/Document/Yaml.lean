import FilterQuery.Document.Embedded
import FilterQuery.Document.Yaml.Schema
import FilterQuery.Document.Yaml.Tree

/-!
# YAML documents

Reads a document from YAML text. Keys are the texts of scalars, whatever they denote, and aliases
stand for copies of their node.
-/

namespace FilterQuery

namespace Yaml

mutual

def Tree.toNode (schema : Schema) : Tree → Except ReadError Node
  | .scalar _ tag plain s => do
    let v ← schema.value ⟨tag, plain, s⟩
    return .scalar v
  | .sequence _ items => do
    let ns ← itemNodes schema items
    return .sequence ns
  | .mapping _ entries => do
    let es ← entryNodes schema [] entries
    Node.ofMapping es
  | .alias _ _ (some t) => t.toNode schema
  | .alias _ _ none => .error .malformedBlock

def itemNodes (schema : Schema) : List Tree → Except ReadError (List Node)
  | [] => .ok []
  | t :: ts => do
    let n ← t.toNode schema
    let ns ← itemNodes schema ts
    return n :: ns

/-- The documents of mapping entries; `es` are the entries before. -/
def entryNodes (schema : Schema) (es : List (String × Node)) :
    List (Tree × Tree) → Except ReadError (List (String × Node))
  | [] => .ok es
  | (.scalar _ _ _ key, v) :: rest => do
    let n ← v.toNode schema
    entryNodes schema (setEntry key n es) rest
  | (k, _) :: _ =>
    .error (.badNode (k.mark.line + 1) (k.mark.column + 1) "mapping keys must be scalars")

end

end Yaml

def Node.ofYaml (bytes : List UInt8) : Except ReadError Node :=
  match Utf8.decode? bytes with
  | none => .error .malformedBlock
  | some text =>
    match Yaml.Tree.ofText? text with
    | none => .error .malformedBlock
    | some none => .error .emptyDocument
    | some (some t) => t.toNode .standard

end FilterQuery
