import FilterQuery.Document.Yaml.Schema
import FilterQuery.Document.Yaml.Tree
import FilterQuery.Text.Base64

/-!
# Settings in YAML

Reads a YAML mapping. Unlike in documents, no key of a mapping may be written twice, a scalar has to
be of the type that its tag names, and the key `<<` merges other mappings into the one that has it.
-/

namespace FilterQuery.Config

open Yaml (Tree)

/-! ## Scalars -/

/-- The value of a resolved text; integers have the width of the machine, if they fit. -/
def resolvedSetting (s : String) : Yaml.Resolved → Value
  | .null => .null
  | .bool b => .bool b
  | .int n =>
    match SizedInt.ofInt? .int n with
    | some i => .int i
    | none => .int (.wrap .uint64 n)
  | .float x => .double x
  | .timestamp t => .time t
  | .text => .text s

/-- The value of a scalar whose tag names a type. -/
def taggedSetting? (tag s : String) : Option Value :=
  match Yaml.shortTag tag, Yaml.resolve (Yaml.shortTag tag == "!!timestamp") s with
  | "!!str", _ => some (.text s)
  | "!!binary", _ => (Base64.decode? s.toList).map .ofTextBytes
  | "!!null", .null => some .null
  | "!!bool", .bool b => some (.bool b)
  | "!!int", .int n => some (resolvedSetting s (.int n))
  | "!!float", .float x => some (.double x)
  | "!!float", .int n => if n < signedLimit then some (.double (.ofInt .double n)) else none
  | "!!timestamp", .timestamp t => some (.time t)
  | _, _ => none

def isMergeScalar (tag : Option String) (plain : Bool) (s : String) : Bool :=
  s == "<<" &&
    match tag.filter (· != "!") with
    | some tag => Yaml.shortTag tag == "!!merge"
    | none => plain

def scalarSetting? (tag : Option String) (plain : Bool) (s : String) : Option Value :=
  match tag.filter (· != "!") with
  | some tag => taggedSetting? tag s
  | none =>
    -- the merge key has no value of its own
    if isMergeScalar none plain s then none
    else if plain then some (resolvedSetting s (Yaml.resolve true s))
    else some (.text s)

/-! ## Keys -/

def isMergeKey : Tree → Bool
  | .scalar _ tag plain s => isMergeScalar tag plain s
  | _ => false

/-- How a key is written; two keys of a mapping may not be written alike. -/
def keySpelling : Tree → String × String
  | .scalar _ _ _ s => ("scalar", s)
  | .alias _ name _ => ("alias", name)
  | .sequence .. => ("sequence", "")
  | .mapping .. => ("mapping", "")

/-- Whether every key of a mapping is written once. -/
def keysDiffer (entries : List (Tree × Tree)) : Bool :=
  let spellings := entries.map (keySpelling ·.1)
  spellings.eraseDups.length == spellings.length

/-- The text of a scalar key; null has none. -/
def scalarKey? (tag : Option String) (plain : Bool) (s : String) : Option (Option String) :=
  (scalarSetting? tag plain s).map fun
    | .null => none
    | .text t => some t
    | _ => some s

/-- The text of a key, which has to be a scalar; null has none. -/
def keyText? : Tree → Option (Option String)
  | .scalar _ tag plain s => scalarKey? tag plain s
  | .alias _ _ (some (.scalar _ tag plain s)) => scalarKey? tag plain s
  | _ => none

/-! ## Values -/

/-- The entries of a mapping: its own, and those merged into it, of which the first with a key
counts. -/
def withMerged (own merged : List (String × Value)) : List (String × Value) :=
  own.foldl (fun es e => Value.insertEntry e.1 e.2 es) (Value.sortEntries merged.reverse)

mutual

def ofTree? : Tree → Option Value
  | .scalar _ tag plain s => scalarSetting? tag plain s
  | .sequence _ items => (itemSettings? items).map .anyList
  | .mapping _ entries =>
    if keysDiffer entries then do
      return .object .any (withMerged (← ownEntries? entries) (← mergedEntries? entries))
    else none
  | .alias _ _ (some t) => ofTree? t
  | .alias _ _ none => none

def itemSettings? : List Tree → Option (List Value)
  | [] => some []
  | t :: ts => do
    let v ← ofTree? t
    return v :: (← itemSettings? ts)

def ownEntries? : List (Tree × Tree) → Option (List (String × Value))
  | [] => some []
  | (key, t) :: rest =>
    if isMergeKey key then ownEntries? rest
    else do
      let key ← keyText? key
      let v ← ofTree? t
      let es ← ownEntries? rest
      match key with
      | some key => return (key, v) :: es
      | none => return es

/-- The entries that are merged into a mapping: those of a mapping or of a list of mappings. -/
def mergedEntries? : List (Tree × Tree) → Option (List (String × Value))
  | [] => some []
  | (key, t) :: rest => do
    let es ← mergedEntries? rest
    if isMergeKey key then
      match t with
      | .sequence _ items => return (← mergeAll? items) ++ es
      | t => return (← merge? t) ++ es
    else return es

def mergeAll? : List Tree → Option (List (String × Value))
  | [] => some []
  | t :: ts => do
    let es ← merge? t
    return es ++ (← mergeAll? ts)

/-- The entries of a mapping or of what stands for one. -/
def merge? : Tree → Option (List (String × Value))
  | .mapping _ entries =>
    if keysDiffer entries then do
      return withMerged (← ownEntries? entries) (← mergedEntries? entries)
    else none
  | .alias _ _ (some t) => merge? t
  | _ => none

end

/-- The entries of a mapping in YAML; there are none in an empty text and in null. -/
def ofYaml? (bytes : List UInt8) : Option (List (String × Value)) := do
  let text ← Utf8.decode? bytes
  match ← Tree.ofText? text with
  | none => some []
  | some t =>
    match ← ofTree? t with
    | .object _ es => some es
    | .null => some []
    | _ => none

end FilterQuery.Config
