import FilterQuery.Value.Basic

/-!
# Tables in TOML

The tables of a document while it is read. A table comes from a header, from a key with points, or
from a header further down; that decides how it may be added to. A list of tables is added to at its
last table.
-/

namespace FilterQuery.Config.Toml

/-- How a table came to be. -/
inductive Origin where
  /-- By the header of a table in it. -/
  | implied
  /-- By a key with points. -/
  | dotted
  /-- By its own header, or by a key with points under a header that is closed. -/
  | header
deriving DecidableEq, Repr

/-- What stands under a key. -/
inductive Item where
  | value (v : Value)
  | table (origin : Origin) (entries : List (String × Item))
  /-- Tables listed one by one; only the last one can be added to. -/
  | listed (earlier : List Value) (last : List (String × Item))

abbrev Entries := List (String × Item)

inductive TableFault where
  | defined (key : String)
  | notTable (key kind : String)
  | closed (key : String)
  | headerOfOther (key kind : String)
  | secondHeader (key : String)
  | notListed (key kind : String)
deriving DecidableEq, Repr

def TableFault.message : TableFault → String
  | .defined key => "key " ++ key ++ " is already defined"
  | .notTable key kind => "expected " ++ key ++ " to be a table, not a " ++ kind
  | .closed key =>
    "cannot redefine table " ++ key ++ " that has already been explicitly defined"
  | .headerOfOther key kind => "key " ++ key ++ " should be a table, not a " ++ kind
  | .secondHeader key => "table " ++ key ++ " already exists"
  | .notListed key kind =>
    "key " ++ kind ++ " already exists as a " ++ key ++ ",  but should be an array table"

namespace Item

def kind : Item → String
  | .value _ => "value"
  | .table .. => "table"
  | .listed .. => "array table"

mutual

def toValue : Item → Value
  | .value v => v
  | .table _ entries => .anyObject (entryValues entries)
  | .listed earlier last => .anyList (earlier ++ [.anyObject (entryValues last)])

def entryValues : List (String × Item) → List (String × Value)
  | [] => []
  | (key, item) :: rest => (key, toValue item) :: entryValues rest

end

mutual

/-- Closes the tables that came from keys with points. -/
def close : Item → Item
  | .value v => .value v
  | .table origin entries =>
    .table (if origin = .dotted then .header else origin) (closeEntries entries)
  | .listed earlier last => .listed earlier (closeEntries last)

def closeEntries : List (String × Item) → List (String × Item)
  | [] => []
  | (key, item) :: rest => (key, close item) :: closeEntries rest

end

end Item

namespace Entries

def put (key : String) (item : Item) : Entries → Entries
  | [] => [(key, item)]
  | (k, i) :: rest => if k = key then (k, item) :: rest else (k, i) :: put key item rest

def define (v : Value) : List String → Entries → Except TableFault Entries
  | [], es => .ok es
  | [key], es =>
    match es.lookup key with
    | none => .ok (put key (.value v) es)
    | some _ => .error (.defined key)
  | key :: path, es =>
    match es.lookup key with
    | none => return put key (.table .dotted (← define v path [])) es
    -- keys with points do not add to a table that has a header of its own
    | some (.table .header _) => .error (.closed key)
    | some (.table origin inner) => return put key (.table origin (← define v path inner)) es
    | some item => .error (.notTable key item.kind)

def changeAt (change : Entries → Except TableFault Entries) :
    List String → Entries → Except TableFault Entries
  | [], es => change es
  | key :: path, es =>
    match es.lookup key with
    | none => return put key (.table .implied (← changeAt change path [])) es
    | some (.table origin inner) => return put key (.table origin (← changeAt change path inner)) es
    | some (.listed earlier last) =>
      return put key (.listed earlier (← changeAt change path last)) es
    | some (.value v) => .error (.notTable key (Item.kind (.value v)))

/-- Notes the header of a table. -/
def openTable (key : String) (es : Entries) : Except TableFault Entries :=
  match es.lookup key with
  | none => .ok (put key (.table .header []) es)
  | some (.table .implied inner) => .ok (put key (.table .header inner) es)
  | some (.table .dotted _) => .error (.defined key)
  | some (.table .header _) => .error (.secondHeader key)
  | some item => .error (.headerOfOther key item.kind)

/-- Notes the header of a further table in a list. -/
def openListed (key : String) (es : Entries) : Except TableFault Entries :=
  match es.lookup key with
  | none => .ok (put key (.listed [] []) es)
  | some (.listed earlier last) =>
    .ok (put key (.listed (earlier ++ [.anyObject (Item.entryValues last)]) []) es)
  | some item => .error (.notListed key item.kind)

end Entries

/-- The tables of a document, and the path of the one that entries are added to. -/
structure Tables where
  root : Entries := []
  current : List String := []

namespace Tables

def define (key : List String) (v : Value) (t : Tables) : Except TableFault Tables :=
  return { t with root := ← Entries.changeAt (Entries.define v key) t.current t.root }

/-- Goes on to the table with a header, which closes the tables that keys with points have made in
the current one. -/
def goTo (note : String → Entries → Except TableFault Entries) (key : List String) (t : Tables) :
    Except TableFault Tables := do
  let closed ← Entries.changeAt (fun es => .ok (Item.closeEntries es)) t.current t.root
  match key.getLast? with
  | none => return t
  | some last => return ⟨← Entries.changeAt (note last) key.dropLast closed, key⟩

end Tables

end FilterQuery.Config.Toml
