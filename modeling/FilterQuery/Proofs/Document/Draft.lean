import FilterQuery.Document.Embedded
import FilterQuery.Proofs.Numeric.Numeral
import FilterQuery.Proofs.Results

/-!
# Documents before they are written

A `Draft` is a document that every text format can hold, and `Draft.toNode` is its node. Formats differ
in the type that they read integers as. `Node.toDoubles` levels this: what mappings stand for is the
same before and after it (`ofMapping_toDoubles`).
-/

namespace FilterQuery

/-- A document that is not written in a format yet. A key may occur more than once. -/
inductive Draft where
  | null
  | bool (b : Bool)
  | text (s : String)
  /-- An integer that doubles hold exactly. -/
  | int (n : Int) (exact : n.natAbs ≤ Literal.lastExact)
  | sequence (items : List Draft)
  | mapping (entries : List (String × Draft))

namespace Draft

mutual

/-- The node of a draft, where integers are doubles. -/
def toNode : Draft → Except ReadError Node
  | .null => .ok (.scalar .null)
  | .bool b => .ok (.scalar (.bool b))
  | .text s => .ok (.scalar (.text s))
  | .int n _ => .ok (.scalar (.double (.ofInt .double n)))
  | .sequence items => do
    let ns ← itemNodes items
    return .sequence ns
  | .mapping entries => do
    let es ← entryNodes [] entries
    Node.ofMapping es

def itemNodes : List Draft → Except ReadError (List Node)
  | [] => .ok []
  | d :: ds => do
    let n ← d.toNode
    let ns ← itemNodes ds
    return n :: ns

/-- The nodes of entries; `es` are the entries before. -/
def entryNodes (es : List (String × Node)) :
    List (String × Draft) → Except ReadError (List (String × Node))
  | [] => .ok es
  | (key, d) :: ds => do
    let n ← d.toNode
    entryNodes (setEntry key n es) ds

end

end Draft

/-! ### Integers as doubles -/

/-- The number, where a zero has no sign. -/
def Binary.unsignedZero (x : Binary) : Binary := if x = .zero true then .zero false else x

/-- A number as a double, where a zero has no sign. Other values are left as they are. -/
def Value.toDouble (v : Value) : Value :=
  match v.asDouble? with
  | some x => .double x.unsignedZero
  | none => v

namespace Node

mutual

/-- A node whose numbers are doubles. -/
def toDoubles : Node → Node
  | .scalar v => .scalar v.toDouble
  | .sequence ns => .sequence (itemDoubles ns)
  | .mapping es => .mapping (entryDoubles es)

def itemDoubles : List Node → List Node
  | [] => []
  | n :: ns => n.toDoubles :: itemDoubles ns

def entryDoubles : List (String × Node) → List (String × Node)
  | [] => []
  | (key, n) :: es => (key, n.toDoubles) :: entryDoubles es

end

theorem entryDoubles_setEntry (key : String) (n : Node) (es : List (String × Node)) :
    entryDoubles (setEntry key n es) = setEntry key n.toDoubles (entryDoubles es) := by
  induction es with
  | nil => rfl
  | cons e es ih =>
    obtain ⟨k, m⟩ := e
    rw [entryDoubles, setEntry, setEntry]
    split
    · rfl
    · rw [entryDoubles, ih]

/-! ### What mappings stand for -/

open Embedded

theorem truncate?_unsignedZero (x : Binary) : x.unsignedZero.truncate? = x.truncate? := by
  rw [Binary.unsignedZero]
  split
  · rename_i zero
    rw [zero]
    rfl
  · rfl

theorem date?_toDoubles (n : Node) : date? n.toDoubles = date? n := by
  cases n with
  | sequence ns => rfl
  | mapping es => rfl
  | scalar v =>
    rw [toDoubles, Value.toDouble]
    cases number : v.asDouble? with
    | none => rfl
    | some x =>
      change some (Instant.ofUnixMillis ((x.unsignedZero.truncate?.filter fitsSigned).getD _)) = _
      rw [truncate?_unsignedZero]
      simp only [date?, number]

theorem text?_toDoubles (n : Node) : text? n.toDoubles = text? n := by
  cases n with
  | scalar v => cases v <;> rfl
  | _ => rfl

theorem regexNode_toDoubles (es : List (String × Node)) (source : Node) (flags : Option Node) :
    regexNode (entryDoubles es) source.toDoubles (flags.map toDoubles) =
      (regexNode es source flags).map toDoubles := by
  have same : (flags.map toDoubles).bind text? = flags.bind text? := by
    cases flags with
    | none => rfl
    | some n => exact text?_toDoubles n
  rw [regexNode, regexNode, text?_toDoubles, same]
  cases text? source with
  | none => rfl
  | some s =>
    dsimp only
    cases compileRegex s ((flags.bind text?).getD "") <;> rfl

theorem lookup_entryDoubles (key : String) (es : List (String × Node)) :
    (entryDoubles es).lookup key = (es.lookup key).map toDoubles := by
  induction es with
  | nil => rfl
  | cons e es ih =>
    obtain ⟨k, n⟩ := e
    rw [entryDoubles, List.lookup_cons, List.lookup_cons]
    cases key == k with
    | true => rfl
    | false => exact ih

theorem ofMapping_pattern {e e' : String × Node} {source flags : Node}
    (there : [e, e'].lookup regexKey = some source) (there' : [e, e'].lookup flagsKey = some flags) :
    Node.ofMapping [e, e'] = regexNode [e, e'] source (some flags) := by
  rw [Node.ofMapping, there, there']

theorem ofMapping_noPattern {e e' : String × Node}
    (missing : [e, e'].lookup regexKey = none ∨ [e, e'].lookup flagsKey = none) :
    Node.ofMapping [e, e'] = .ok (.mapping [e, e']) := by
  rw [Node.ofMapping]
  rcases missing with missing | missing
  · rw [missing]
  · rw [missing]
    cases [e, e'].lookup regexKey <;> rfl

theorem ofMapping_toDoubles (es : List (String × Node)) :
    Node.ofMapping (entryDoubles es) = (Node.ofMapping es).map toDoubles := by
  match es with
  | [] => rfl
  | [(k, v)] =>
    change Node.ofMapping [(k, v.toDoubles)] = _
    rw [Node.ofMapping, Node.ofMapping]
    split
    · rw [date?_toDoubles]
      split <;> rfl
    · split
      · exact regexNode_toDoubles [(k, v)] v none
      · rfl
  | [(k, v), (k', v')] =>
    have source := lookup_entryDoubles regexKey [(k, v), (k', v')]
    have flags := lookup_entryDoubles flagsKey [(k, v), (k', v')]
    cases there : [(k, v), (k', v')].lookup regexKey with
    | none =>
      rw [there] at source
      rw [ofMapping_noPattern (.inl there)]
      exact ofMapping_noPattern (.inl source)
    | some n =>
      rw [there] at source
      cases there' : [(k, v), (k', v')].lookup flagsKey with
      | none =>
        rw [there'] at flags
        rw [ofMapping_noPattern (.inr there')]
        exact ofMapping_noPattern (.inr flags)
      | some n' =>
        rw [there'] at flags
        rw [ofMapping_pattern there there']
        exact (ofMapping_pattern source flags).trans
          (regexNode_toDoubles [(k, v), (k', v')] n (some n'))
  | _ :: _ :: _ :: _ => rfl

/-! ### Chains of nodes

What is made of nodes with the same doubles has the same doubles. -/

section Chains

variable {n n' : Except ReadError Node} {ns ns' : Except ReadError (List Node)}
  {es es' : Except ReadError (List (String × Node))}

theorem sequence_congr (items : ns.map itemDoubles = ns'.map itemDoubles) :
    (ns >>= fun ns => pure (.sequence ns)).map toDoubles =
      (ns' >>= fun ns => pure (.sequence ns)).map toDoubles :=
  map_bind_congr items fun _ _ same => congrArg (fun ns => Except.ok (Node.sequence ns)) same

theorem cons_congr (first : n.map toDoubles = n'.map toDoubles)
    (rest : ns.map itemDoubles = ns'.map itemDoubles) :
    (n >>= fun n => ns >>= fun ns => pure (n :: ns)).map itemDoubles =
      (n' >>= fun n => ns' >>= fun ns => pure (n :: ns)).map itemDoubles :=
  map_bind_congr first fun _ _ same => map_bind_congr rest fun _ _ same' =>
    congrArg Except.ok (List.cons_eq_cons.mpr ⟨same, same'⟩)

theorem mapping_congr (entries : es.map entryDoubles = es'.map entryDoubles) :
    (es >>= Node.ofMapping).map toDoubles = (es' >>= Node.ofMapping).map toDoubles :=
  map_bind_congr entries fun _ _ same => by
    rw [← ofMapping_toDoubles, same, ofMapping_toDoubles]

theorem setEntry_congr {key : String} {before before' : List (String × Node)}
    {f f' : List (String × Node) → Except ReadError (List (String × Node))}
    (same : entryDoubles before = entryDoubles before') (value : n.map toDoubles = n'.map toDoubles)
    (rest : ∀ es es', entryDoubles es = entryDoubles es' →
      (f es).map entryDoubles = (f' es').map entryDoubles) :
    (n >>= fun n => f (setEntry key n before)).map entryDoubles =
      (n' >>= fun n => f' (setEntry key n before')).map entryDoubles :=
  map_bind_congr value fun _ _ same' => rest _ _ (by
    rw [entryDoubles_setEntry, entryDoubles_setEntry, same, same'])

end Chains

end Node

end FilterQuery
