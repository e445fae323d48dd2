import FilterQuery.Numeric.Binary
import FilterQuery.Regex.Reader
import FilterQuery.Text.Utf8
import FilterQuery.Time.Instant
import FilterQuery.Value.Type

/-!
# Values

The dynamic values that documents hold and that filters are applied to: scalars, lists, maps,
records and references, some of them with a static type of their parts.
-/

namespace FilterQuery

structure SizedInt where
  type : IntType
  val : Int
  lo_le : type.lo ≤ val
  le_hi : val ≤ type.hi
deriving DecidableEq

namespace SizedInt

/-- The integer of a type, if it is in the range of the type. -/
def ofInt? (t : IntType) (n : Int) : Option SizedInt :=
  if h : t.lo ≤ n ∧ n ≤ t.hi then some ⟨t, n, h.1, h.2⟩ else none

def count (t : IntType) : Nat := Nat.pow 2 t.bits

/-- The number in the range of the type that agrees with `n` in the low bits. -/
def wrapped (t : IntType) (n : Int) : Int :=
  if t.signed then Int.bmod n (count t) else n % (count t : Int)

theorem lo_le_wrapped (t : IntType) (n : Int) : t.lo ≤ wrapped t n := by
  have h₁ := @Int.le_bmod n (count t) (Nat.two_pow_pos _)
  have h₂ := @Int.emod_nonneg n (count t) (Int.ofNat_ne_zero.mpr (Nat.ne_of_gt (Nat.two_pow_pos _)))
  cases t <;> simp [wrapped, count, IntType.lo, IntType.signed, IntType.bits] at * <;> omega

theorem wrapped_le_hi (t : IntType) (n : Int) : wrapped t n ≤ t.hi := by
  have h₁ := @Int.bmod_lt n (count t) (Nat.two_pow_pos _)
  have h₂ := @Int.emod_lt_of_pos n (count t) (Int.natCast_pos.mpr (Nat.two_pow_pos _))
  cases t <;> simp [wrapped, count, IntType.hi, IntType.signed, IntType.bits] at * <;> omega

/-- The integer of the type that agrees with `n` in the low bits. -/
def wrap (t : IntType) (n : Int) : SizedInt :=
  ⟨t, wrapped t n, lo_le_wrapped t n, wrapped_le_hi t n⟩

end SizedInt

inductive Value where
  | null
  | bool (b : Bool)
  | text (s : String)
  /-- Text that is not well formed UTF-8. -/
  | rawText (bytes : List UInt8)
  | int (n : SizedInt)
  /-- A double precision number. -/
  | double (x : Binary)
  /-- A single precision number. -/
  | single (x : Binary)
  /-- A number kept as its text. -/
  | numeral (s : String)
  | time (t : Instant)
  | regex (re : Regex)
  | bytes (bs : List UInt8)
  | list (elem : Ty) (items : List Value)
  | array (elem : Ty) (items : List Value)
  /-- A map with text keys; the entries are in key order, each key once. -/
  | object (elem : Ty) (entries : List (String × Value))
  /-- The empty map with integer keys. -/
  | intMap
  | record (fields : List (Field Ty × Value))
  /-- A structure of the named type that shows none of its fields. -/
  | sealed (typeName : String)
  | ref (target : Ty) (v : Value)
  /-- The absent value of a type that has one: references, lists and maps. -/
  | nilOf (type : Ty)
  | func
  /-- A looked up field that is not there. -/
  | undefined
  /-- A looked up field with its value. -/
  | defined (v : Value)
  /-- A scalar node of a document, held as a value. -/
  | scalarNode (v : Value)
  /-- A sequence node of a document, held as a value; its items are nodes. -/
  | sequenceNode (items : List Value)
  /-- A mapping node of a document, held as a value; its values are nodes. -/
  | mappingNode (entries : List (String × Value))
  /-- An entry of a mapping node. -/
  | entryNode (key : String) (v : Value)

namespace Value

instance : Inhabited Value := ⟨.null⟩

/-- A list without a static type of its items. -/
def anyList (items : List Value) : Value := .list .any items

/-- A list whose items have a static type; a list of bytes is a byte string. -/
def listOf (elem : Ty) (items : List Value) : Value :=
  match elem with
  | .int .uint8 =>
    .bytes (items.map fun
      | .int n => n.val.toNat.toUInt8
      | _ => 0)
  | elem => .list elem items

def ofTextBytes (bs : List UInt8) : Value :=
  match Utf8.decode? bs with
  | some cs => .text (String.ofList cs)
  | none => .rawText bs

def textBytes? : Value → Option (List UInt8)
  | .text s => some (Utf8.encode s)
  | .rawText bs => some bs
  | _ => none

/-- The structure behind a looked up field. -/
def getterCell : Value := .sealed "fieldnavigator.Field"

/-- The structure behind a regular expression. -/
def regexCell : Value := .sealed "regexp.Regexp"

/-- Adds an entry in key order; a key that is there already gets the new value. -/
def insertEntry {α : Type} (key : String) (v : α) : List (String × α) → List (String × α)
  | [] => [(key, v)]
  | (k, w) :: rest =>
    if key < k then (key, v) :: (k, w) :: rest
    else if key = k then (k, v) :: rest
    else (k, w) :: insertEntry key v rest

/-- Entries in key order, each key once with its last value. -/
def sortEntries {α : Type} (es : List (String × α)) : List (String × α) :=
  es.foldl (fun acc e => insertEntry e.1 e.2 acc) []

/-- A map without a static type of its values. -/
def anyObject (es : List (String × Value)) : Value := .object .any (sortEntries es)

/-- A plain 64 bit integer, wrapped to its range. -/
def ofInt (n : Int) : Value := .int (.wrap .int n)

mutual

/-- The value that a place of a type holds before one is written to it. -/
def zero : Ty → Value
  | .any => .null
  | .bool => .bool false
  | .text => .text ""
  | .int t => .int (.wrap t 0)
  | .float64 => .double (.zero false)
  | .float32 => .single (.zero false)
  | .numeral => .numeral ""
  | .time => .time ⟨-62135596800, 0, 0, none⟩
  | .array n elem => .array elem (List.replicate n (zero elem))
  | .record fields => .record (zeroFields fields)
  | t => .nilOf t

def zeroFields : List (Field Ty) → List (Field Ty × Value)
  | [] => []
  | ⟨name, tag, type⟩ :: fs => (⟨name, tag, type⟩, zero type) :: zeroFields fs

end

/-- The dynamic type of a value other than `null`. -/
def type : Value → Ty
  | .null => .named "<nil>"
  | .bool _ => .bool
  | .text _ | .rawText _ => .text
  | .int n => .int n.type
  | .double _ => .float64
  | .single _ => .float32
  | .numeral _ => .numeral
  | .time _ => .time
  | .regex _ => .regex
  | .bytes _ => .list (.int .uint8)
  | .list elem _ => .list elem
  | .array elem items => .array items.length elem
  | .object elem _ => .map elem
  | .intMap => .intMap
  | .record fields => .record (fields.map (·.1))
  | .sealed n => .named n
  | .ref t _ => .ref t
  | .nilOf t => t
  | .func => .func
  | .undefined | .defined _ => .getter
  | .scalarNode _ => .scalarNode
  | .sequenceNode _ => .sequenceNode
  | .mappingNode _ => .mappingNode
  | .entryNode .. => .entryNode

/-- The text by which messages name the type of a value. -/
def typeName (v : Value) : String := v.type.name

def isNull : Value → Bool
  | .null => true
  | _ => false

/-- The regular expression that a value is. -/
def regex? : Value → Option Regex
  | .regex re => some re
  | .nilOf .regex => some .never
  | _ => none

def isRegex (v : Value) : Bool := v.regex?.isSome

/-- Whether a value is atomic, although some of these are built from parts. -/
def isPrimitive : Value → Bool
  | .bool _ | .text _ | .rawText _ | .int _ | .double _ | .single _ | .numeral _ | .time _
  | .regex _ | .bytes _ | .nilOf .regex | .nilOf (.list (.int .uint8)) => true
  | _ => false

end Value

end FilterQuery
