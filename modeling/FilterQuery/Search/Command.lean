import FilterQuery.Document.Modifiers
import FilterQuery.Search.Dialect

/-!
# Search commands

The command that searches an index with a query.
-/

namespace FilterQuery.Search

/-- How many results a page has when only its start is given. -/
def defaultPageSize : Int := 10

structure Window where
  offset : Int
  count : Int
deriving DecidableEq, Repr

/-- A search command; results are sorted by one field at most. -/
structure Command where
  index : String
  query : Query
  sortBy : Option SortField := none
  window : Option Window := none

def Window.ofModifiers (m : Modifiers) : Option Window :=
  if 0 < m.skip ∨ 0 < m.limit then
    some ⟨m.skip, if m.limit = 0 then defaultPageSize else m.limit⟩
  else none

namespace Command

/-- The parameters as arguments: values are bytes, which need not be a text. -/
def paramArgs (ps : List Param) : List (List UInt8) :=
  if ps.isEmpty then []
  else Utf8.encode "PARAMS" :: Utf8.encode (toString (ps.length * 2)) :: ps.flatMap fun p =>
    [Utf8.encode p.name, p.value]

def sortArgs : Option SortField → List String
  | some f => ["SORTBY", f.key, if f.order < 0 then "DESC" else "ASC"]
  | none => []

def windowArgs : Option Window → List String
  | some w => ["LIMIT", toString w.offset, toString w.count]
  | none => []

/-- The query text; a star searches for everything. -/
def queryText (q : Query) : String := if q.text.isEmpty then "*" else q.text

def args (c : Command) : List (List UInt8) :=
  ["FT.SEARCH", c.index, queryText c.query].map Utf8.encode ++ paramArgs c.query.params ++
    (sortArgs c.sortBy ++ windowArgs c.window ++ ["DIALECT", "2"]).map Utf8.encode

end Command

def command (c : Compiler Params Clause Query) (index : String) (n : Node) (o : Overrides) :
    Except CompileError Command := do
  let (filter, m) ← n.split.mapError .violation
  let m := m.override o
  let q ← c.compile filter
  return { index := index, query := q, sortBy := m.sort.head?, window := Window.ofModifiers m }

end FilterQuery.Search
