import FilterQuery.Config.Toml.Syntax
import FilterQuery.Config.Toml.Table

/-!
# Settings in TOML

Reads a document statement by statement. Of each statement, first its syntax is checked, then
whether its keys fit to those before it, and last what its numbers and times denote.
-/

namespace FilterQuery.Config

inductive TomlError where
  | malformed (fault : Toml.SyntaxFault)
  | table (fault : Toml.TableFault)
  | number (fault : Toml.NumberFault)
  | moment (fault : Toml.MomentFault)
deriving DecidableEq, Repr

def TomlError.message (e : TomlError) : String :=
  "toml: " ++ match e with
    | .malformed fault => fault.message
    | .table fault => fault.message
    | .number fault => fault.message
    | .moment fault => fault.message

namespace Toml

mutual

def Raw.check : Raw → Except TableFault Unit
  | .array items => checkItems items
  | .table entries => checkEntries [] entries
  | _ => .ok ()

def checkItems : List Raw → Except TableFault Unit
  | [] => .ok ()
  | r :: rs => do
    r.check
    checkItems rs

/-- Checks the keys of entries that are added to others. -/
def checkEntries (es : Entries) : List (List String × Raw) → Except TableFault Unit
  | [] => .ok ()
  | (key, r) :: rest => do
    let es ← Entries.define .null key es
    r.check
    checkEntries es rest

end

mutual

def Raw.value : Raw → Except TomlError Value
  | .text s => .ok (.text s)
  | .bool b => .ok (.bool b)
  | .integer literal =>
    ((integer literal).mapError .number).map fun n => .int (.wrap .int64 n)
  | .float literal => ((float literal).mapError .number).map .double
  | .moment kind literal => (moment kind literal).mapError .moment
  | .array items => (itemValues items).map .anyList
  | .table entries => (tableValue [] entries).map fun es => .anyObject (Item.entryValues es)

def itemValues : List Raw → Except TomlError (List Value)
  | [] => .ok []
  | r :: rs => do
    let v ← r.value
    return v :: (← itemValues rs)

/-- The entries of a table, added to others. -/
def tableValue (es : Entries) : List (List String × Raw) → Except TomlError Entries
  | [] => .ok es
  | (key, r) :: rest => do
    let v ← r.value
    tableValue (← (Entries.define v key es).mapError .table) rest

end

def Tables.follow (t : Tables) : Statement → Except TomlError Tables
  | .entry key raw => do
    let _ ← (t.define key .null).mapError .table
    raw.check.mapError .table
    let v ← raw.value
    (t.define key v).mapError .table
  | .table key => (t.goTo Entries.openTable key).mapError .table
  | .listed key => (t.goTo Entries.openListed key).mapError .table

/-- Follows at most so many statements. -/
def Tables.followAll : Nat → Tables → List Char → Except TomlError Tables
  | 0, t, _ => .ok t
  | fuel + 1, t, cs => do
    let (statement, rest) ← (readStatement cs).mapError .malformed
    let t ← match statement with
      | some s => t.follow s
      | none => pure t
    if rest.isEmpty then return t
    followAll fuel t (← (readNewline rest).mapError .malformed)

end Toml

def ofToml (bytes : List UInt8) : Except TomlError (List (String × Value)) := do
  let text := Utf8.decodeLossy bytes
  -- every line but the last takes a character for its break
  let t ← Toml.Tables.followAll (text.length + 1) {} text
  return Value.sortEntries (Toml.Item.entryValues t.root)

end FilterQuery.Config
