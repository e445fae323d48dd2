import FilterQuery.Value.Basic

/-!
# The shape of a value

Values are atoms, lists or objects. `Value.items` and `Value.entries` iterate over the parts of a
list and of an object, through references; `Value.isList` and `Value.isObject` are the tests that
callers make first.
-/

namespace FilterQuery

inductive ShapeError where
  /-- There is no value. -/
  | absent
  | notObject (typeName : String)
  | notList (typeName : String)
deriving DecidableEq, Repr

def ShapeError.message : ShapeError → String
  | .absent => "nil object"
  | .notObject t => "expected object, got " ++ t
  | .notList t => "expected list, got " ++ t

namespace Value

/-- What a value is when it is held by reference: the referenced value for a reference, and the
structure behind the types that are references themselves. `none` is an absent value. -/
def target? : Value → Option Value
  | .null => none
  | .ref _ v => v.target?
  | .nilOf (.ref _) => none
  | .undefined | .defined _ => some getterCell
  | .regex _ => some regexCell
  | v => some v

def hasItems : Value → Bool
  | .list .. | .array .. | .bytes _ | .sequenceNode _ | .mappingNode _ | .nilOf (.list _) => true
  | _ => false

def hasEntries : Value → Bool
  | .object .. | .record _ | .sealed _ | .time _ | .scalarNode _ | .entryNode ..
  | .nilOf (.map _) => true
  | _ => false

/-- Whether a value is a list, directly or by reference. Byte strings are atoms. -/
def isList (v : Value) : Bool := !v.isPrimitive && v.target?.any hasItems

/-- Whether a value is an object, directly or by reference. -/
def isObject (v : Value) : Bool := !v.isPrimitive && v.target?.any hasEntries

/-- The items of a list, references followed. -/
def directItems? : Value → Option (List Value)
  | .list _ items | .array _ items | .sequenceNode items => some items
  | .bytes bs => some (bs.map fun b => .int (.wrap .uint8 b.toNat))
  | .mappingNode es => some (es.map fun e => .entryNode e.1 e.2)
  | .nilOf (.list _) => some []
  | _ => none

def items (v : Value) : Except ShapeError (List Value) :=
  if v.isNull then .error .absent
  else if v.isPrimitive then .error (.notList v.typeName)
  else match v.target? with
    | none => .error .absent
    | some t =>
      match t.directItems? with
      | some xs => .ok xs
      | none => .error (.notList t.typeName)

/-! ## Records -/

/-- Whether a value is the zero value of its static type. -/
def isZeroOf (static : Ty) (v : Value) : Bool :=
  if static.isAny then v.isNull else go v
where
  /-- Whether a value is the zero value of its own type. -/
  go : Value → Bool
    | .null | .nilOf _ => true
    | .bool b => !b
    | .text s => s.isEmpty
    | .numeral s => s.isEmpty
    | .int n => n.val == 0
    | .double x | .single x => x.isZero
    | .time t => t == ⟨-62135596800, 0, 0, none⟩
    | .array elem items => goAll elem.isAny items
    | .record fields => goFields fields
    | .scalarNode v => v.isNull
    | _ => false
  goAll (dynamic : Bool) : List Value → Bool
    | [] => true
    | v :: vs => (if dynamic then v.isNull else go v) && goAll dynamic vs
  goFields : List (Field Ty × Value) → Bool
    | [] => true
    | (f, v) :: fs => (if f.type.isAny then v.isNull else go v) && goFields fs

/-- Whether a value is empty: an absent reference, or a text, list or map without parts. -/
def isEmptyOf (static : Ty) (v : Value) : Bool :=
  if static.isAny then v.isNull
  else match v with
    | .null | .nilOf _ | .intMap => true
    | .text s | .numeral s => s.isEmpty
    | .rawText bs | .bytes bs => bs.isEmpty
    | .list _ items | .array _ items | .sequenceNode items => items.isEmpty
    | .object _ es | .mappingNode es => es.isEmpty
    | _ => false

def splitCommas (cs : List Char) : List (List Char) :=
  match cs with
  | [] => [[]]
  | c :: cs =>
    match splitCommas cs with
    | piece :: rest => if c = ',' then [] :: piece :: rest else (c :: piece) :: rest
    | [] => [[c]]

/-- The key of a record field, or `none` if the field is left out: hidden fields, fields with the
tag `-`, and zero or empty fields whose tag says so. -/
def fieldKey? (f : Field Ty) (v : Value) : Option String :=
  if !f.isExported then none
  else match f.tag with
    | none => some f.name
    | some "-" => none
    | some tag =>
      let pieces := (splitCommas tag.toList).map String.ofList
      let omitted := pieces.tail.any fun o =>
        (o == "omitzero" && isZeroOf f.type v) || (o == "omitempty" && isEmptyOf f.type v)
      if omitted then none
      else match pieces.head? with
        | some "" | none => some f.name
        | some name => some name

def recordEntries (fields : List (Field Ty × Value)) : List (String × Value) :=
  fields.filterMap fun (f, v) => (fieldKey? f v).map (·, v)

/-- The entries of an object, references followed. -/
def directEntries? : Value → Option (List (String × Value))
  | .object _ es => some es
  | .record fields => some (recordEntries fields)
  | .sealed _ | .time _ => some []
  | .scalarNode v => some [("Value", v)]
  | .entryNode k v => some [("Key", .text k), ("Value", v)]
  | .nilOf (.map _) => some []
  | _ => none

/-- The value that a reference leads to, for iteration over entries. -/
def entryTarget : Value → Except ShapeError Value
  -- a place that holds values of every type is not looked into
  | .ref t v => if t.isAny then .error (.notObject t.name) else v.entryTarget
  | .nilOf (.ref _) => .error .absent
  | .undefined | .defined _ => .ok getterCell
  | .regex _ => .ok regexCell
  | v => .ok v

/-- The entries of an object: record fields in their order, map entries in key order. -/
def entries (v : Value) : Except ShapeError (List (String × Value)) :=
  if v.isNull then .error .absent
  else if v.isPrimitive then .error (.notObject v.typeName)
  else do
    let t ← v.entryTarget
    match t.directEntries? with
    | some es => .ok es
    | none => .error (.notObject t.typeName)

end Value

end FilterQuery
