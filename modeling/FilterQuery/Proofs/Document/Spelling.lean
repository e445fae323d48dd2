import FilterQuery.Compile.Compiler
import FilterQuery.Proofs.Document.Postorder

/-!
# Fields with a spelled out operator

A scalar under a field is short for a mapping with the scalar under `$eq`. `Node.SpelledOut` relates a
document to those in which some fields are spelled out, anywhere but in a list of values: there a mapping
is a value.
-/

namespace FilterQuery

/-- Whether what stands under the key is a list of values. -/
def takesValuesAt (key : String) : Bool := (Operator.ofName? key).any Operator.takesValues

/-- The last key of the path is that of no list of values. -/
def Path.OutsideValues (path : Path) : Prop :=
  ∀ key, path.getLast? = some (.key key) → takesValuesAt key = false

theorem Path.outsideValues_nil : Path.OutsideValues [] := by
  intro key last
  cases last

theorem Path.outsideValues_index (path : Path) (i : Int) :
    Path.OutsideValues (path ++ [Segment.index i]) := by
  intro key last
  simp at last

theorem Path.outsideValues_key (path : Path) {key : String} (outside : takesValuesAt key = false) :
    Path.OutsideValues (path ++ [Segment.key key]) := by
  intro other last
  simp only [List.getLast?_concat, Option.some.injEq, Segment.key.injEq] at last
  exact last ▸ outside

namespace Node

/-- The same scalar, two mappings, or two lists that hold nothing but filters both or neither. -/
inductive SameShape : Node → Node → Prop
  | scalar (v : Value) : SameShape (.scalar v) (.scalar v)
  | sequence {ns ns' : List Node} (filters : ns.all isMapping = ns'.all isMapping) :
    SameShape (.sequence ns) (.sequence ns')
  | mapping (es es' : List (String × Node)) : SameShape (.mapping es) (.mapping es')

theorem SameShape.isMapping_eq {n n' : Node} (same : n.SameShape n') : n.isMapping = n'.isMapping := by
  cases same <;> rfl

end Node

theorem Operator.accepts_sameShape (op : Operator) {n n' : Node} (same : n.SameShape n') :
    op.accepts n = op.accepts n' := by
  cases same with
  | scalar v => rfl
  | sequence filters => cases op <;> first | exact filters | rfl
  | mapping es es' => cases op <;> rfl

namespace Node

/-- The scalar under an explicit operator. -/
def equalTo (v : Value) : Node := .mapping [(Operator.eq.name, .scalar v)]

mutual

/-- The second document is the first one with some fields spelled out. -/
inductive SpelledOut : Node → Node → Prop
  | scalar {v : Value} : SpelledOut (.scalar v) (.scalar v)
  | sequence {ns ns' : List Node} (items : ItemsSpelledOut ns ns') :
    SpelledOut (.sequence ns) (.sequence ns')
  | mapping {es es' : List (String × Node)} (entries : EntriesSpelledOut es es') :
    SpelledOut (.mapping es) (.mapping es')

inductive ItemsSpelledOut : List Node → List Node → Prop
  | nil : ItemsSpelledOut [] []
  | cons {n n' : Node} {ns ns' : List Node} (first : SpelledOut n n') (rest : ItemsSpelledOut ns ns') :
    ItemsSpelledOut (n :: ns) (n' :: ns')

inductive EntriesSpelledOut : List (String × Node) → List (String × Node) → Prop
  | nil : EntriesSpelledOut [] []
  /-- An entry that stays. -/
  | same {e : String × Node} {es es' : List (String × Node)} (rest : EntriesSpelledOut es es') :
    EntriesSpelledOut (e :: es) (e :: es')
  /-- An entry with fields further below. -/
  | inside {key : String} {n n' : Node} {es es' : List (String × Node)}
    (outside : takesValuesAt key = false) (first : SpelledOut n n')
    (rest : EntriesSpelledOut es es') : EntriesSpelledOut ((key, n) :: es) ((key, n') :: es')
  /-- A field that is spelled out. -/
  | equals {key : String} {v : Value} {es es' : List (String × Node)}
    (field : Compiler.isCommand key = false) (rest : EntriesSpelledOut es es') :
    EntriesSpelledOut ((key, .scalar v) :: es) ((key, equalTo v) :: es')

end

theorem SpelledOut.isMapping_eq {n n' : Node} (spelled : n.SpelledOut n') :
    n.isMapping = n'.isMapping := by
  cases spelled <;> rfl

theorem ItemsSpelledOut.all_isMapping_eq {ns ns' : List Node} (spelled : ItemsSpelledOut ns ns') :
    ns.all isMapping = ns'.all isMapping := by
  induction ns generalizing ns' with
  | nil =>
    cases spelled
    rfl
  | cons n ns ih =>
    cases spelled with
    | cons first rest => rw [List.all_cons, List.all_cons, first.isMapping_eq, ih rest]

theorem SpelledOut.sameShape {n n' : Node} (spelled : n.SpelledOut n') : n.SameShape n' := by
  cases spelled with
  | scalar => exact .scalar _
  | sequence items => exact .sequence items.all_isMapping_eq
  | mapping entries => exact .mapping _ _

end Node

end FilterQuery
