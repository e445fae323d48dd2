import FilterQuery.Text.Quoted

/-!
# Types of values

The static types that typed lists, typed maps, references and record fields carry, and the text by
which messages name them.
-/

namespace FilterQuery

inductive IntType where
  | int
  | int8
  | int16
  | int32
  | int64
  | uint
  | uint8
  | uint16
  | uint32
  | uint64
deriving DecidableEq, Repr

namespace IntType

def bits : IntType → Nat
  | .int8 | .uint8 => 8
  | .int16 | .uint16 => 16
  | .int32 | .uint32 => 32
  | .int | .int64 | .uint | .uint64 => 64

def signed : IntType → Bool
  | .int | .int8 | .int16 | .int32 | .int64 => true
  | _ => false

def lo (t : IntType) : Int := if t.signed then -(Nat.pow 2 (t.bits - 1) : Int) else 0

def hi (t : IntType) : Int := (Nat.pow 2 (if t.signed then t.bits - 1 else t.bits) : Int) - 1

def name : IntType → String
  | .int => "int"
  | .int8 => "int8"
  | .int16 => "int16"
  | .int32 => "int32"
  | .int64 => "int64"
  | .uint => "uint"
  | .uint8 => "uint8"
  | .uint16 => "uint16"
  | .uint32 => "uint32"
  | .uint64 => "uint64"

def all : List IntType :=
  [.int, .int8, .int16, .int32, .int64, .uint, .uint8, .uint16, .uint32, .uint64]

def ofName? (name : String) : Option IntType := all.find? (·.name == name)

end IntType

/-- A field of a record type. The tag may rename the field or leave it out; a field whose name
starts in lower case is hidden. -/
structure Field (τ : Type) where
  name : String
  tag : Option String
  type : τ

inductive Ty where
  | any
  | bool
  | text
  | int (t : IntType)
  | float64
  | float32
  /-- A numeral kept as text. -/
  | numeral
  | time
  | regex
  | func
  | list (elem : Ty)
  | array (length : Nat) (elem : Ty)
  /-- A map with text keys. -/
  | map (elem : Ty)
  /-- A map with integer keys. -/
  | intMap
  | ref (target : Ty)
  | record (fields : List (Field Ty))
  /-- A type known by its name alone. -/
  | named (name : String)

namespace Ty

/-- The name under which record tags are looked up. -/
def tagName : String := "criterium"

mutual

def name : Ty → String
  | .any => "interface \x7b\x7d"
  | .bool => "bool"
  | .text => "string"
  | .int t => t.name
  | .float64 => "float64"
  | .float32 => "float32"
  | .numeral => "json.Number"
  | .time => "time.Time"
  | .regex => "*regexp.Regexp"
  | .func => "func()"
  | .list elem => "[]" ++ elem.name
  | .array n elem => "[" ++ toString n ++ "]" ++ elem.name
  | .map elem => "map[string]" ++ elem.name
  | .intMap => "map[int]int"
  | .ref t => "*" ++ t.name
  | .record [] => "struct \x7b\x7d"
  | .record (f :: fs) => "struct \x7b " ++ fieldName f ++ fieldNames fs ++ " \x7d"
  | .named n => n

def fieldName : Field Ty → String
  | ⟨n, tag, type⟩ =>
    n ++ " " ++ type.name ++
      match tag with
      | none => ""
      | some t => " " ++ Quoted.quote (tagName ++ ":" ++ Quoted.quote t)

def fieldNames : List (Field Ty) → String
  | [] => ""
  | f :: fs => "; " ++ fieldName f ++ fieldNames fs

end

def isAny : Ty → Bool
  | .any => true
  | _ => false

def sequenceNode : Ty := .named "domain.Sequence"

def mappingNode : Ty := .named "domain.Mapping"

def scalarNode : Ty := .named "domain.Scalar"

def entryNode : Ty := .named "domain.Entry"

/-- The type of a looked up field, which may be undefined. -/
def getter : Ty := .named "*fieldnavigator.Field"

end Ty

def Field.isExported {τ : Type} (f : Field τ) : Bool :=
  match f.name.toList with
  | c :: _ => !(c.isLower || c == '_')
  | [] => false

end FilterQuery
