import FilterQuery.Numeric.Extended
import FilterQuery.Value.Shape

/-!
# The order of values

Values of different classes are ordered as undefined < null < numbers < texts < booleans < times <
lists < objects. A value is first turned into its `SortKey`, which shows the class and what is
compared within the class; `SortKey.compare` then is a recursion over two keys. Values of no class
come after all others and cannot be compared with each other.
-/

namespace FilterQuery

/-- What the order sees of a value. -/
inductive SortKey where
  | undefined
  | null
  | number (x : Extended)
  /-- The bytes of a text. -/
  | text (bytes : List UInt8)
  | bool (b : Bool)
  | time (t : Instant)
  | list (items : List SortKey)
  /-- Keys in order, each with its value. -/
  | object (entries : List (String × SortKey))
  /-- A value without an order, by the name of its type. -/
  | unordered (typeName : String)

structure Incomparable where
  left : String
  right : String
deriving DecidableEq, Repr

def Incomparable.message (e : Incomparable) : String :=
  "cannot compare unexpected types " ++ e.left ++ " and " ++ e.right

namespace SortKey

/-- The place of the class among the classes. -/
def rank : SortKey → Nat
  | .undefined => 0
  | .null => 1
  | .number _ => 2
  | .text _ => 3
  | .bool _ => 4
  | .time _ => 5
  | .list _ => 6
  | .object _ => 7
  | .unordered _ => 8

def compareLists {α : Type} (cmp : α → α → Ordering) : List α → List α → Ordering
  | [], [] => .eq
  | [], _ :: _ => .lt
  | _ :: _, [] => .gt
  | a :: as, b :: bs => (cmp a b).then (compareLists cmp as bs)

mutual

def compare : SortKey → SortKey → Except Incomparable Ordering
  | .number a, .number b => .ok (a.compare b)
  | .text a, .text b => .ok (compareLists Ord.compare a b)
  | .bool a, .bool b => .ok (Ord.compare a b)
  | .time a, .time b => .ok (a.compare b)
  | .list as, .list bs => compareItems as bs
  | .object as, .object bs => do
    let o ← compareValues as bs
    return (o.then (Ord.compare as.length bs.length)).then
      (compareLists Ord.compare (as.map (·.1)) (bs.map (·.1)))
  | .unordered a, .unordered b => .error ⟨a, b⟩
  | a, b => .ok (Ord.compare a.rank b.rank)

/-- The order of two lists of keys: the first difference decides, then the length. -/
def compareItems : List SortKey → List SortKey → Except Incomparable Ordering
  | [], [] => .ok .eq
  | [], _ :: _ => .ok .lt
  | _ :: _, [] => .ok .gt
  | a :: as, b :: bs => do
    match ← compare a b with
    | .eq => compareItems as bs
    | o => return o

/-- The first difference between the values of two objects, over the length of the shorter. -/
def compareValues :
    List (String × SortKey) → List (String × SortKey) → Except Incomparable Ordering
  | (_, a) :: as, (_, b) :: bs => do
    match ← compare a b with
    | .eq => compareValues as bs
    | o => return o
  | _, _ => .ok .eq

end

def lastValue (key : String) (fallback : SortKey) : List (String × SortKey) → SortKey
  | [] => fallback
  | (k, v) :: rest => lastValue key (if k = key then v else fallback) rest

/-- Entries in key order; where a key is given more than once, each of its entries has the last
value. -/
def ofEntries (es : List (String × SortKey)) : SortKey :=
  let sorted := es.mergeSort fun a b => a.1 ≤ b.1
  .object (sorted.map fun e => (e.1, lastValue e.1 e.2 es))

end SortKey

namespace Value

/-- The key of a number, if it is one. -/
def numberKey (x? : Option Extended) (typeName : String) : SortKey :=
  match x? with
  | some x => .number x
  | none => .unordered typeName

mutual

/-- The key of a value. A looked up field counts as its value, but not when it is itself the value
of such a field (`outer` is false then). -/
def keyOf (outer : Bool) : Value → SortKey
  | .undefined => if outer then .undefined else .object []
  | .defined v => if outer then v.keyOf false else .object []
  | .null => .null
  | .int n => .number (.ofInt n.val)
  | .double x => numberKey (Extended.ofBinary? x) Ty.float64.name
  | .single x => numberKey (Extended.ofBinary? x) Ty.float32.name
  | .numeral s => numberKey (Extended.ofNumeral? s) Ty.numeral.name
  | .text s => .text (Utf8.encode s)
  | .rawText bs => .text bs
  | .bool b => .bool b
  | .time t => .time t
  | .regex _ => .unordered Ty.regex.name
  | .bytes _ => .unordered (Ty.list (.int .uint8)).name
  | .list _ items => .list (keysOf items)
  | .array _ items => .list (keysOf items)
  | .sequenceNode items => .list (keysOf items)
  | .mappingNode es => .list (entryNodeKeys es)
  | .object _ es => .ofEntries (entryKeys es)
  | .record fields => .ofEntries (fieldKeys fields)
  | .sealed _ => .object []
  | .scalarNode v => .object [("Value", v.keyOf true)]
  | .entryNode k v => .object [("Key", .text (Utf8.encode k)), ("Value", v.keyOf true)]
  | .intMap => .unordered Ty.intMap.name
  | .func => .unordered Ty.func.name
  | .nilOf (.list (.int .uint8)) => .unordered (Ty.list (.int .uint8)).name
  | .nilOf (.list _) => .list []
  | .nilOf (.map _) => .object []
  | .nilOf t => .unordered t.name
  | .ref t v => v.keyBehind ("*" ++ t.name) t.isAny

/-- The key of a value held by a reference whose type has the given name. `dynamic` says that some
reference on the way leads to a place for values of every type. -/
def keyBehind (refName : String) (dynamic : Bool) : Value → SortKey
  | .ref t v => v.keyBehind refName (dynamic || t.isAny)
  | .list _ items => .list (keysOf items)
  | .array _ items => .list (keysOf items)
  | .sequenceNode items => .list (keysOf items)
  | .mappingNode es => .list (entryNodeKeys es)
  | .bytes bs => .list (bs.map fun b => .number (.ofInt b.toNat))
  | .nilOf (.list _) => .list []
  -- entries cannot be listed behind a place for values of every type, and count as none
  | .object _ es => if dynamic then .object [] else .ofEntries (entryKeys es)
  | .record fields => if dynamic then .object [] else .ofEntries (fieldKeys fields)
  | .scalarNode v => if dynamic then .object [] else .object [("Value", v.keyOf true)]
  | .entryNode k v =>
    if dynamic then .object []
    else .object [("Key", .text (Utf8.encode k)), ("Value", v.keyOf true)]
  | .sealed _ | .time _ | .regex _ | .undefined | .defined _ | .nilOf (.map _) => .object []
  | _ => .unordered refName

def keysOf : List Value → List SortKey
  | [] => []
  | v :: vs => v.keyOf true :: keysOf vs

def entryKeys : List (String × Value) → List (String × SortKey)
  | [] => []
  | (k, v) :: es => (k, v.keyOf true) :: entryKeys es

def fieldKeys : List (Field Ty × Value) → List (String × SortKey)
  | [] => []
  | (f, v) :: fs =>
    match fieldKey? f v with
    | some k => (k, v.keyOf true) :: fieldKeys fs
    | none => fieldKeys fs

def entryNodeKeys : List (String × Value) → List SortKey
  | [] => []
  | (k, v) :: es =>
    .object [("Key", .text (Utf8.encode k)), ("Value", v.keyOf true)] :: entryNodeKeys es

end

def sortKey (v : Value) : SortKey := v.keyOf true

def compare (a b : Value) : Except Incomparable Ordering := a.sortKey.compare b.sortKey

/-- Whether two values are of one class in which range conditions have a meaning: numbers, texts
or times. -/
def comparable (a b : Value) : Bool :=
  match a.sortKey, b.sortKey with
  | .number _, .number _ => true
  | .text _, .text _ => true
  | .time _, .time _ => true
  | _, _ => false

end Value

end FilterQuery
