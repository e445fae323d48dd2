import FilterQuery.Value.Shape

/-!
# Documents

A document is a tree of scalars, sequences and mappings. The entries of a mapping keep their order,
and a key may occur more than once.
-/

namespace FilterQuery

inductive Node where
  | scalar (v : Value)
  | sequence (items : List Node)
  | mapping (entries : List (String × Node))

inductive NodeKind where
  | scalar
  | sequence
  | mapping
deriving DecidableEq, Repr

def NodeKind.name : NodeKind → String
  | .scalar => "scalar"
  | .sequence => "sequence"
  | .mapping => "mapping"

namespace Node

instance : Inhabited Node := ⟨.scalar .null⟩

def kind : Node → NodeKind
  | .scalar _ => .scalar
  | .sequence _ => .sequence
  | .mapping _ => .mapping

def isMapping : Node → Bool
  | .mapping _ => true
  | _ => false

def scalar? : Node → Option Value
  | .scalar v => some v
  | _ => none

mutual

/-- A node as a plain value: sequences become lists, and mappings maps in which the last value of
a key counts. -/
def plain : Node → Value
  | .scalar v => v
  | .sequence items => .anyList (plainItems items)
  | .mapping es => .anyObject (plainEntries es)

def plainItems : List Node → List Value
  | [] => []
  | n :: ns => n.plain :: plainItems ns

def plainEntries : List (String × Node) → List (String × Value)
  | [] => []
  | (k, n) :: es => (k, n.plain) :: plainEntries es

end

mutual

def toValue : Node → Value
  | .scalar v => .scalarNode v
  | .sequence items => .sequenceNode (itemValues items)
  | .mapping es => .mappingNode (entryValues es)

def itemValues : List Node → List Value
  | [] => []
  | n :: ns => n.toValue :: itemValues ns

def entryValues : List (String × Node) → List (String × Value)
  | [] => []
  | (k, n) :: es => (k, n.toValue) :: entryValues es

end

/-- The first value of a key of a mapping. -/
def get? (key : String) : Node → Option Node
  | .mapping es => es.lookup key
  | _ => none

/-! ## Documents from values -/

mutual

/-- The document that a value stands for. Lists and objects become sequences and mappings, through
references; nodes held as values are taken as they are; all else is a scalar. -/
def ofValue : Value → Node
  | .scalarNode v => .scalar v
  | .sequenceNode items => .sequence (ofValues items)
  | .mappingNode es => .mapping (ofEntries es)
  | .ref _ v => ofValue v
  | .nilOf (.list (.int .uint8)) => .scalar (.nilOf (.list (.int .uint8)))
  | .nilOf (.list _) => .sequence []
  | .nilOf (.map _) => .mapping []
  | .nilOf (.ref _) => .scalar .null
  | .nilOf t => .scalar (.nilOf t)
  | .undefined | .defined _ => .mapping []
  | .list _ items => .sequence (ofValues items)
  | .array _ items => .sequence (ofValues items)
  | .object _ es => .mapping (ofEntries es)
  | .record fields => .mapping (ofFields fields)
  | .sealed _ => .mapping []
  | .entryNode k v => .mapping [("Key", .scalar (.text k)), ("Value", ofValue v)]
  | v => .scalar v

def ofValues : List Value → List Node
  | [] => []
  | v :: vs => ofValue v :: ofValues vs

def ofEntries : List (String × Value) → List (String × Node)
  | [] => []
  | (k, v) :: es => (k, ofValue v) :: ofEntries es

def ofFields : List (Field Ty × Value) → List (String × Node)
  | [] => []
  | (f, v) :: fs =>
    match Value.fieldKey? f v with
    | some k => (k, ofValue v) :: ofFields fs
    | none => ofFields fs

end

end Node

end FilterQuery
