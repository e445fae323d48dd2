import FilterQuery.Text.Quoted

/-!
# Log lines

A log entry is a message with named attributes; it is written as one line of `name=value` pairs.
-/

namespace FilterQuery

structure LogEntry where
  message : String
  attributes : List (String × String)
deriving DecidableEq, Repr

namespace LogEntry

/-- Whether a character can stand in a value without quotes. -/
def isBare (c : Char) : Bool :=
  if c.toNat < 0x80 then 0x21 ≤ c.toNat && c != '=' && c != '"'
  else c != '\uFFFD' && !Unicode.isSpace c && Unicode.isPrintable c

/-- A value, quoted if it is empty or holds a character that is not bare. -/
def valueText (s : String) : String :=
  if s.isEmpty || !s.toList.all isBare then Quoted.quote s else s

def attributeText (a : String × String) : String := a.1 ++ "=" ++ valueText a.2

/-- The attributes of an entry, level and message first. -/
def fields (e : LogEntry) : List (String × String) :=
  ("level", "DEBUG") :: ("msg", e.message) :: e.attributes

def line (e : LogEntry) : String := " ".intercalate (e.fields.map attributeText)

end LogEntry

end FilterQuery
