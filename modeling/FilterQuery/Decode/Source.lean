import FilterQuery.Decode.Mismatch
import FilterQuery.Document.Node
import FilterQuery.Value.Shape

/-!
# Sources of decoding

What decoding sees of a value: the value behind a reference, the kind that messages name, and the
entries of a record.
-/

namespace FilterQuery

def Ty.kindName : Ty → String
  | .any => "interface"
  | .bool => "bool"
  | .text | .numeral => "string"
  | .int t => t.name
  | .float64 => "float64"
  | .float32 => "float32"
  | .time | .record _ => "struct"
  | .regex | .ref _ => "ptr"
  | .func => "func"
  | .list _ => "slice"
  | .array .. => "array"
  | .map _ | .intMap => "map"
  | .named n =>
    if n = sequenceNode.name ∨ n = mappingNode.name then "slice"
    else if n = getter.name then "ptr"
    else "struct"

namespace Value

/-! ## Documents as plain values -/

def isNode : Value → Bool
  | .scalarNode _ | .sequenceNode _ | .mappingNode _ => true
  | _ => false

mutual

/-- A value in which documents, also inside of untyped lists and maps, are plain values. -/
def plainData : Value → Value
  | .scalarNode v => v
  | .sequenceNode items => .anyList (Node.plainItems (Node.ofValues items))
  | .mappingNode es => .anyObject (Node.plainEntries (Node.ofEntries es))
  | .list .any items => .list .any (plainDataItems items)
  | .object .any es => .object .any (plainDataEntries es)
  | .ref t v => if v.isNode then v.plainData else .ref t v
  | v => v

def plainDataItems : List Value → List Value
  | [] => []
  | v :: vs => v.plainData :: plainDataItems vs

def plainDataEntries : List (String × Value) → List (String × Value)
  | [] => []
  | (k, v) :: es => (k, v.plainData) :: plainDataEntries es

end

/-! ## References -/

/-- The value behind one reference. -/
def behind : Value → Value
  -- a place for values of every type is not looked into
  | .ref t v => if t.isAny then .ref t v else v
  | .regex _ => regexCell
  | .undefined | .defined _ => getterCell
  | v => v

/-- The type of what one reference leads to. -/
def typeBehind : Value → Ty
  | .ref t v => if t.isAny then .any else v.type
  | v => v.behind.type

/-- Whether there is nothing to decode: no value, or an absent reference. -/
def isAbsent : Value → Bool
  | .null | .nilOf (.ref _) | .nilOf .regex => true
  | _ => false

/-- Whether there is nothing to refer to behind one reference. -/
def isAbsentBehind : Value → Bool
  | .ref _ v =>
    match v with
    | .null | .nilOf _ => true
    | _ => false
  | .null | .nilOf _ => true
  | _ => false

/-! ## Records as maps -/

def occursIn (part : List Char) : List Char → Bool
  | [] => part.isEmpty
  | c :: cs => part.isPrefixOf (c :: cs) || occursIn part cs

/-- The name in a tag, and what follows the first comma. -/
def splitTag (tag : Option String) : String × Option String :=
  let cs := (tag.getD "").toList
  match cs.dropWhile (· != ',') with
  | [] => (String.ofList cs, none)
  | _ :: rest => (String.ofList (cs.takeWhile (· != ',')), some (String.ofList rest))

/-- Whether the part of a tag behind the name mentions a word. -/
def tagMentions (word : String) (options : Option String) : Bool :=
  options.any fun o => occursIn word.toList o.toList

/-- Whether a field is left out of a map when its tag says so: empty texts, lists and maps, zeros,
`false` and absent values. -/
def isBlank (static : Ty) (v : Value) : Bool :=
  if static.isAny then v.isNull
  else match v with
    | .bool b => !b
    | .int n => n.val == 0
    | .double x | .single x => x.isZero
    | v => isEmptyOf static v

def hasTags (fields : List (Field Ty)) : Bool := fields.any fun f => f.tag.any (· != "")

/-- The type of a field in a map: a reference to a record with tags counts as the record. -/
def spreadType : Ty → Ty
  | .ref (.record fs) => if hasTags fs then .record fs else .ref (.record fs)
  | t => t

mutual

/-- The map of a record; its values have the type `elem`. -/
def recordMap (elem : Ty) : Value → Except Mismatch (List (String × Value))
  | .record fields => do return sortEntries (← fieldsMap elem fields)
  | .ref _ v => v.recordMap elem
  | .scalarNode v =>
    if elem.isAny then .ok [("Value", v)] else .error (.fieldType Ty.any.name elem.name)
  | .entryNode k v =>
    if elem.isAny then .ok [("Key", .text k), ("Value", v)]
    else .error (.fieldType Ty.text.name elem.name)
  | _ => .ok []

def fieldsMap (elem : Ty) : List (Field Ty × Value) → Except Mismatch (List (String × Value))
  | [] => .ok []
  | (f, v) :: fs => do
    let here ← fieldMap elem f v
    return here ++ (← fieldsMap elem fs)

def fieldMap (elem : Ty) (f : Field Ty) (v : Value) : Except Mismatch (List (String × Value)) := do
  if !f.isExported then return []
  unless elem.isAny || f.type.name == elem.name do throw (.fieldType f.type.name elem.name)
  let (name, options) := splitTag f.tag
  let static := if v.isAbsent then f.type else spreadType f.type
  if name == "-" then return []
  if tagMentions "omitempty" options && isBlank static v then return []
  let squash := tagMentions "squash" options
  let isStruct := static.kindName == "struct" ||
    (squash && !v.isAbsent && static.kindName == "ptr" && v.typeBehind.kindName == "struct")
  if squash && !isStruct then throw (.squashSource static.name)
  let key := if name == "" then f.name else name
  if isStruct then
    let inner ← v.recordMap elem
    return if squash then inner else [(key, .object elem inner)]
  return [(key, v)]

end

end Value

end FilterQuery
