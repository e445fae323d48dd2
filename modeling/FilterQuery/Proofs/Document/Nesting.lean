import FilterQuery.Proofs.Document.Spelling

/-!
# Dotted keys and nested fields

A field below a field may be written with one key that has a dot. `Node.Nested` relates a document to those
in which some dotted keys are taken apart at one of their dots, anywhere but below a list of values: there
a mapping is a value, and its keys are no fields.
-/

namespace FilterQuery

def dottedKey (outer inner : String) : String := outer ++ "." ++ inner

theorem isCommand_dottedKey {outer : String} (field : Compiler.isCommand outer = false)
    (inner : String) : Compiler.isCommand (dottedKey outer inner) = false := by
  unfold Compiler.isCommand at field ⊢
  rw [dottedKey, String.toList_append, String.toList_append]
  cases chars : outer.toList with
  | nil => rfl
  | cons c cs =>
    rw [chars] at field
    exact field

namespace Node

mutual

/-- The second document is the first one with some dotted keys taken apart, where that is `free`. -/
inductive Nested : Bool → Node → Node → Prop
  | scalar {free : Bool} {v : Value} : Nested free (.scalar v) (.scalar v)
  | sequence {free : Bool} {ns ns' : List Node} (items : ItemsNested free ns ns') :
    Nested free (.sequence ns) (.sequence ns')
  | mapping {free : Bool} {es es' : List (String × Node)} (entries : EntriesNested free es es') :
    Nested free (.mapping es) (.mapping es')

inductive ItemsNested : Bool → List Node → List Node → Prop
  | nil {free : Bool} : ItemsNested free [] []
  | cons {free : Bool} {n n' : Node} {ns ns' : List Node} (first : Nested free n n')
    (rest : ItemsNested free ns ns') : ItemsNested free (n :: ns) (n' :: ns')

inductive EntriesNested : Bool → List (String × Node) → List (String × Node) → Prop
  | nil {free : Bool} : EntriesNested free [] []
  /-- An entry that keeps its key. -/
  | keep {free : Bool} {key : String} {n n' : Node} {es es' : List (String × Node)}
    (first : Nested (free && !takesValuesAt key) n n') (rest : EntriesNested free es es') :
    EntriesNested free ((key, n) :: es) ((key, n') :: es')
  /-- A field that is taken apart. -/
  | nest {outer inner : String} {n n' : Node} {es es' : List (String × Node)}
    (outside : Compiler.isCommand outer = false) (inside : Compiler.isCommand inner = false)
    (first : Nested true n n') (rest : EntriesNested true es es') :
    EntriesNested true ((dottedKey outer inner, n) :: es) ((outer, .mapping [(inner, n')]) :: es')

end

mutual

theorem Nested.eq_of_not_free : ∀ {n n' : Node}, Nested false n n' → n = n'
  | _, _, .scalar => rfl
  | _, _, .sequence items => congrArg Node.sequence items.eq_of_not_free
  | _, _, .mapping entries => congrArg Node.mapping entries.eq_of_not_free

theorem ItemsNested.eq_of_not_free : ∀ {ns ns' : List Node}, ItemsNested false ns ns' → ns = ns'
  | _, _, .nil => rfl
  | _, _, .cons first rest => by rw [first.eq_of_not_free, rest.eq_of_not_free]

theorem EntriesNested.eq_of_not_free :
    ∀ {es es' : List (String × Node)}, EntriesNested false es es' → es = es'
  | _, _, .nil => rfl
  | _, _, .keep first rest => by rw [first.eq_of_not_free, rest.eq_of_not_free]

end

theorem Nested.isMapping_eq {free : Bool} {n n' : Node} (nested : Nested free n n') :
    n.isMapping = n'.isMapping := by
  cases nested <;> rfl

theorem ItemsNested.all_isMapping_eq {free : Bool} {ns ns' : List Node}
    (nested : ItemsNested free ns ns') : ns.all isMapping = ns'.all isMapping := by
  induction ns generalizing ns' with
  | nil =>
    cases nested
    rfl
  | cons n ns ih =>
    cases nested with
    | cons first rest => rw [List.all_cons, List.all_cons, first.isMapping_eq, ih rest]

theorem Nested.sameShape {free : Bool} {n n' : Node} (nested : Nested free n n') :
    n.SameShape n' := by
  cases nested with
  | scalar => exact .scalar _
  | sequence items => exact .sequence items.all_isMapping_eq
  | mapping entries => exact .mapping _ _

end Node

end FilterQuery
