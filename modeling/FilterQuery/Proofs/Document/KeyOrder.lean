import FilterQuery.Proofs.Document.Reordering
import FilterQuery.Proofs.Text.ByteOrder

/-!
# Documents and their plain values

Reading a document from a value and giving it back as a plain value undo each other
(`ofValue_plain_inverse`): a value comes back as it was, and a document with the entries of its mappings
in the order of their keys.
-/

namespace FilterQuery

namespace Value

/-- Null, booleans, texts, numbers, times and regular expressions: what a scalar of a document holds. -/
def isScalar : Value → Bool
  | .null | .bool _ | .text _ | .rawText _ | .int _ | .double _ | .single _ | .numeral _ | .time _
  | .regex _ | .nilOf .regex => true
  | _ => false

theorem ofValue_scalar {v : Value} (scalar : v.isScalar = true) : Node.ofValue v = .scalar v := by
  cases v with
  | nilOf type =>
    cases type with
    | regex => rfl
    | _ => cases scalar
  | null | bool | text | rawText | int | double | single | numeral | time | regex => rfl
  | _ => cases scalar

/-- Values built from scalars by lists and maps of values of every type. A map is given by its entries in
key order. -/
inductive Built : Value → Prop
  | scalar {v : Value} (scalar : v.isScalar = true) : Built v
  | list {items : List Value} (each : ∀ v ∈ items, Built v) : Built (.list .any items)
  | object {es : List (String × Value)} (ascending : KeysAscend es) (each : ∀ e ∈ es, Built e.2) :
    Built (.object .any es)

theorem plain_ofValue {v : Value} (built : v.Built) : (Node.ofValue v).plain = v := by
  induction built with
  | scalar scalar => rw [ofValue_scalar scalar, Node.plain]
  | @list items each ih =>
    have same : (items.map Node.ofValue).map Node.plain = items := by
      rw [List.map_map]
      exact (List.map_congr_left ih).trans (List.map_id items)
    rw [Node.ofValue, Node.ofValues_eq_map, Node.plain_sequence, same, anyList]
  | @object es ascending each ih =>
    have same : (es.map fun e => (e.1, Node.ofValue e.2)).map (fun e => (e.1, e.2.plain)) = es := by
      rw [List.map_map]
      exact (List.map_congr_left fun e member => congrArg (e.1, ·) (ih e member)).trans
        (List.map_id es)
    rw [Node.ofValue, Node.ofEntries_eq_map, Node.plain_mapping, same, anyObject,
      sortEntries_ascending ascending]

/-! ### Absent lists and maps -/

mutual

/-- The value with empty lists and maps in the place of absent ones. -/
def filled : Value → Value
  | .list .any items => .list .any (filledItems items)
  | .object .any es => .object .any (filledEntries es)
  | .nilOf (.list .any) => .list .any []
  | .nilOf (.map .any) => .object .any []
  | v => v

def filledItems : List Value → List Value
  | [] => []
  | v :: vs => v.filled :: filledItems vs

def filledEntries : List (String × Value) → List (String × Value)
  | [] => []
  | (k, v) :: es => (k, v.filled) :: filledEntries es

end

mutual

theorem ofValue_filled : ∀ v : Value, Node.ofValue v.filled = Node.ofValue v
  | .list elem items => by
    cases elem with
    | any => rw [filled, Node.ofValue, Node.ofValue, ofValues_filled items]
    | _ => rfl
  | .object elem es => by
    cases elem with
    | any => rw [filled, Node.ofValue, Node.ofValue, ofEntries_filled es]
    | _ => rfl
  | .nilOf type => by
    cases type with
    | list elem | map elem => cases elem <;> rfl
    | _ => rfl
  | .null | .bool _ | .text _ | .rawText _ | .int _ | .double _ | .single _ | .numeral _ | .time _
  | .regex _ | .bytes _ | .array .. | .intMap | .record _ | .sealed _ | .ref .. | .func | .undefined
  | .defined _ | .scalarNode _ | .sequenceNode _ | .mappingNode _ | .entryNode .. => rfl

theorem ofValues_filled : ∀ vs : List Value, Node.ofValues (filledItems vs) = Node.ofValues vs
  | [] => rfl
  | v :: vs => by rw [filledItems, Node.ofValues, Node.ofValues, ofValue_filled v, ofValues_filled vs]

theorem ofEntries_filled : ∀ es : List (String × Value),
    Node.ofEntries (filledEntries es) = Node.ofEntries es
  | [] => rfl
  | (k, v) :: es => by
    rw [filledEntries, Node.ofEntries, Node.ofEntries, ofValue_filled v, ofEntries_filled es]

end

end Value

namespace Node

/-! ### Documents in key order -/

mutual

/-- The document with the entries of each mapping, at every depth, sorted by the bytes of their keys. -/
def byKey : Node → Node
  | .scalar v => .scalar v
  | .sequence ns => .sequence (itemsByKey ns)
  | .mapping es => .mapping ((entriesByKey es).mergeSort fun e f =>
      Utf8.encode e.1 ≤ Utf8.encode f.1)

def itemsByKey : List Node → List Node
  | [] => []
  | n :: ns => n.byKey :: itemsByKey ns

def entriesByKey : List (String × Node) → List (String × Node)
  | [] => []
  | (k, n) :: es => (k, n.byKey) :: entriesByKey es

end

theorem itemsByKey_eq_map (ns : List Node) : itemsByKey ns = ns.map byKey := by
  induction ns with
  | nil => rfl
  | cons n ns ih => rw [itemsByKey, ih, List.map_cons]

theorem entriesByKey_eq_map (es : List (String × Node)) :
    entriesByKey es = es.map fun e => (e.1, e.2.byKey) := by
  induction es with
  | nil => rfl
  | cons e es ih =>
    obtain ⟨k, n⟩ := e
    rw [entriesByKey, ih, List.map_cons]

/-- Each scalar holds null, a boolean, a text, a number, a time or a regular expression. -/
def HoldsScalars : Node → Prop := Everywhere fun
  | .scalar v => v.isScalar = true
  | _ => True

theorem HoldsScalars.plainScalars {n : Node} (scalars : n.HoldsScalars) : n.PlainScalars :=
  scalars.imp fun n here => by
    cases n with
    | scalar v => exact Value.ofValue_scalar here
    | sequence | mapping => trivial

theorem ofValue_plain {n : Node} (distinct : n.DistinctKeys) (scalars : n.PlainScalars) :
    ofValue n.plain = n.byKey := by
  induction n using Node.induct with
  | scalar v =>
    rw [plain, show ofValue v = .scalar v from scalars.here, byKey]
  | sequence ns ih =>
    have parts : ns.map (fun n => ofValue n.plain) = ns.map byKey :=
      List.map_congr_left fun n member => ih n member
        ((everywhere_sequence.mp distinct).2 n member) ((everywhere_sequence.mp scalars).2 n member)
    rw [ofValue_plain_sequence, parts, byKey, itemsByKey_eq_map]
  | mapping es ih =>
    obtain ⟨keys, each⟩ := everywhere_mapping.mp distinct
    have parts : es.map (fun e => (e.1, ofValue e.2.plain)) = es.map fun e => (e.1, e.2.byKey) :=
      List.map_congr_left fun e member => congrArg (e.1, ·)
        (ih e member (each e member) ((everywhere_mapping.mp scalars).2 e member))
    have read := ofValue_plain_perm keys
    rw [parts] at read
    rw [ofValue_plain_mapping, byKey, entriesByKey_eq_map]
    refine congrArg _ (Value.KeysAscend.eq_of_perm (read.trans (List.mergeSort_perm _ _).symm) ?_
      (Utf8.mergeSort_increases Prod.fst (by rwa [List.map_map])))
    exact List.pairwise_map.mpr (Value.sortEntries_ascends _)

/-- Reading values and giving them back undo each other. A value comes back as it was, where an absent
list or map counts as an empty one; a document comes back in key order. -/
theorem ofValue_plain_inverse :
    (∀ v : Value, v.Built → (ofValue v).plain = v) ∧
      (∀ v : Value, v.filled.Built → (ofValue v).plain = v.filled) ∧
      ∀ n : Node, n.DistinctKeys → n.HoldsScalars → ofValue n.plain = n.byKey := by
  refine ⟨fun v built => Value.plain_ofValue built, fun v built => ?_,
    fun n distinct scalars => ofValue_plain distinct scalars.plainScalars⟩
  rw [← Value.ofValue_filled]
  exact Value.plain_ofValue built

/-- A map with a list in it, the list being absent at first. -/
def shelf (books : Value) : Value := .object .any [("books", books), ("room", .text "attic")]

/-- A document out of key order. -/
def drawer : Node := .mapping [
  ("é", .scalar .null),
  ("list", .sequence [.mapping [("b", .scalar (.bool true)), ("B", .scalar (.text "x"))]])]

theorem ofValue_plain_inverse_unsorted :
    ((shelf (.list .any [.null, .bool true])).Built ∧
      (ofValue (shelf (.list .any [.null, .bool true]))).plain = shelf (.list .any [.null, .bool true])) ∧
      ((shelf (.nilOf (.list .any))).filled.Built ∧
        (ofValue (shelf (.nilOf (.list .any)))).plain = (shelf (.nilOf (.list .any))).filled ∧
        (shelf (.nilOf (.list .any))).filled = shelf (.list .any [])) ∧
      drawer.DistinctKeys ∧ drawer.HoldsScalars ∧ ofValue drawer.plain = drawer.byKey ∧
      drawer.byKey = .mapping [
        ("list", .sequence [.mapping [("B", .scalar (.text "x")), ("b", .scalar (.bool true))]]),
        ("é", .scalar .null)] := by
  have built {items : List Value} (each : ∀ v ∈ items, v.isScalar = true) :
      (shelf (.list .any items)).Built := by
    refine .object (List.pairwise_pair.mpr (show "books" < "room" by decide)) fun e member => ?_
    simp only [List.mem_cons, List.not_mem_nil, or_false] at member
    rcases member with rfl | rfl
    · exact .list fun v member => .scalar (each v member)
    · exact .scalar rfl
  have distinct : drawer.DistinctKeys := by
    simp [drawer, DistinctKeys, everywhere_mapping, everywhere_sequence, everywhere_scalar]
  have scalars : drawer.HoldsScalars := by
    simp [drawer, HoldsScalars, everywhere_mapping, everywhere_sequence, everywhere_scalar,
      Value.isScalar]
  refine ⟨⟨built (by simp [Value.isScalar]), ofValue_plain_inverse.1 _ (built (by simp [Value.isScalar]))⟩,
    ⟨built (by simp), ofValue_plain_inverse.2.1 _ (built (by simp)), rfl⟩, distinct, scalars,
    ofValue_plain_inverse.2.2 _ distinct scalars, ?_⟩
  have outer : ¬Utf8.encode "é" ≤ Utf8.encode "list" := by decide
  have inner : ¬Utf8.encode "b" ≤ Utf8.encode "B" := by decide
  simp [drawer, byKey, itemsByKey, entriesByKey, List.mergeSort, List.MergeSort.Internal.splitInTwo,
    outer, inner]

end Node

end FilterQuery
