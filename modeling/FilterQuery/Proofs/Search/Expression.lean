import FilterQuery.Search.Dialect

/-!
# Boolean expressions of search filters

`filterExpr` is the boolean expression of a filter, found top-down with the path of the field as
context. Its atoms are tests of fields; what a field is tested with is known by its bytes here, and by
its parameter or the name of that in texts. An expression that holds whatever the atoms are has no
text, so that `kept` are the atoms that have one.
-/

namespace FilterQuery.Search

/-! ### Tests -/

section Tests

variable {μ ν : Type}

/-- What is asked of a field, as `Operand`, with operands of any kind. -/
inductive Test (ν : Type) where
  | number (v : ν)
  | above (v : ν) (inclusive : Bool)
  | below (v : ν) (inclusive : Bool)
  | tag (v : ν)
  | phrase (vs : List ν)
  | pattern (parts : List (List ν))
deriving DecidableEq

namespace Test

def map (f : ν → μ) : Test ν → Test μ
  | .number v => .number (f v)
  | .above v inclusive => .above (f v) inclusive
  | .below v inclusive => .below (f v) inclusive
  | .tag v => .tag (f v)
  | .phrase vs => .phrase (vs.map f)
  | .pattern parts => .pattern (parts.map (List.map f))

def values : Test ν → List ν
  | .number v | .above v _ | .below v _ | .tag v => [v]
  | .phrase vs => vs
  | .pattern parts => parts.flatten

/-- The operands as they stand in a text: a number is both ends of a range. -/
def references : Test ν → List ν
  | .number v => [v, v]
  | t => t.values

def isPattern : Test ν → Bool
  | .pattern _ => true
  | _ => false

theorem values_map (f : ν → μ) (t : Test ν) : (t.map f).values = t.values.map f := by
  cases t <;> simp [map, values]

theorem references_map (f : ν → μ) (t : Test ν) : (t.map f).references = t.references.map f := by
  cases t <;> simp [map, references, values]

theorem isPattern_map (f : ν → μ) (t : Test ν) : (t.map f).isPattern = t.isPattern := by
  cases t <;> rfl

theorem mem_references {v : ν} {t : Test ν} : v ∈ t.references ↔ v ∈ t.values := by
  cases t <;> simp [references, values]

theorem map_congr {f g : ν → μ} {t : Test ν} (same : ∀ v ∈ t.values, f v = g v) :
    t.map f = t.map g := by
  cases t with
  | number v | above v _ | below v _ | tag v => simp [map, same v List.mem_cons_self]
  | phrase vs => exact congrArg phrase (List.map_congr_left same)
  | pattern parts =>
    refine congrArg pattern (List.map_congr_left fun vs member => List.map_congr_left fun v found => ?_)
    exact same v (List.mem_flatten.mpr ⟨vs, member, found⟩)

theorem map_map {κ : Type} (f : ν → μ) (g : μ → κ) (t : Test ν) :
    (t.map f).map g = t.map (g ∘ f) := by
  cases t <;> simp [map]

end Test

structure Atom (ν : Type) where
  field : String
  test : Test ν
deriving DecidableEq

namespace Atom

def map (f : ν → μ) (a : Atom ν) : Atom μ := ⟨a.field, a.test.map f⟩

def references (a : Atom ν) : List (String × ν) := a.test.references.map (a.field, ·)

theorem references_map (f : ν → μ) (a : Atom ν) :
    (a.map f).references = a.references.map fun r => (r.1, f r.2) := by
  simp [references, map, Test.references_map]

end Atom

end Tests

/-! ### Expressions -/

inductive Expr (α : Type) where
  | all (es : List (Expr α))
  | any (es : List (Expr α))
  | not (e : Expr α)
  | atom (a : α)

namespace Expr

variable {α β : Type}

mutual

def eval (V : α → Bool) : Expr α → Bool
  | .all es => (evalEach V es).all id
  | .any es => (evalEach V es).any id
  | .not e => !e.eval V
  | .atom a => V a

def evalEach (V : α → Bool) : List (Expr α) → List Bool
  | [] => []
  | e :: es => e.eval V :: evalEach V es

end

mutual

def map (f : α → β) : Expr α → Expr β
  | .all es => .all (mapEach f es)
  | .any es => .any (mapEach f es)
  | .not e => .not (e.map f)
  | .atom a => .atom (f a)

def mapEach (f : α → β) : List (Expr α) → List (Expr β)
  | [] => []
  | e :: es => e.map f :: mapEach f es

end

mutual

def atoms : Expr α → List α
  | .all es | .any es => atomsEach es
  | .not e => e.atoms
  | .atom a => [a]

def atomsEach : List (Expr α) → List α
  | [] => []
  | e :: es => e.atoms ++ atomsEach es

end

def isEmptyAny : Expr α → Bool
  | .any [] => true
  | _ => false

mutual

/-- Whether an expression holds for the sake of its form alone: an empty conjunction, no alternative
in a negated disjunction, and what is built from these. -/
def vacuous : Expr α → Bool
  | .all es => (vacuousEach es).all id
  | .any es => (vacuousEach es).any id
  | .not e => e.isEmptyAny
  | .atom _ => false

def vacuousEach : List (Expr α) → List Bool
  | [] => []
  | e :: es => e.vacuous :: vacuousEach es

end

mutual

/-- The atoms other than those of disjunctions that hold for the sake of their form. -/
def kept : Expr α → List α
  | .all es => keptEach es
  | .any es => if (Expr.any es).vacuous then [] else keptEach es
  | .not e => e.kept
  | .atom a => [a]

def keptEach : List (Expr α) → List α
  | [] => []
  | e :: es => e.kept ++ keptEach es

end

theorem evalEach_eq (V : α → Bool) (es : List (Expr α)) : evalEach V es = es.map (eval V) := by
  induction es with
  | nil => rfl
  | cons e es ih => rw [evalEach, ih, List.map_cons]

theorem vacuousEach_eq (es : List (Expr α)) : vacuousEach es = es.map vacuous := by
  induction es with
  | nil => rfl
  | cons e es ih => rw [vacuousEach, ih, List.map_cons]

theorem atomsEach_eq (es : List (Expr α)) : atomsEach es = es.flatMap atoms := by
  induction es with
  | nil => rfl
  | cons e es ih => rw [atomsEach, ih, List.flatMap_cons]

mutual

theorem kept_of_vacuous : ∀ e : Expr α, e.vacuous → e.kept = []
  | .all es, vacuous => by
    rw [Expr.vacuous] at vacuous
    rw [kept, keptEach_of_vacuous es vacuous]
  | .any es, vacuous => by rw [kept, if_pos vacuous]
  | .not (.any []), _ => rfl
  | .not (.any (_ :: _)), vacuous | .not (.all _), vacuous | .not (.not _), vacuous
  | .not (.atom _), vacuous | .atom _, vacuous => by cases vacuous

theorem keptEach_of_vacuous : ∀ es : List (Expr α), (vacuousEach es).all id → keptEach es = []
  | [], _ => rfl
  | e :: es, vacuous => by
    rw [vacuousEach, List.all_cons, Bool.and_eq_true] at vacuous
    rw [keptEach, kept_of_vacuous e vacuous.1, keptEach_of_vacuous es vacuous.2, List.nil_append]

end

mutual

theorem kept_subset : ∀ e : Expr α, e.kept ⊆ e.atoms
  | .all es => keptEach_subset es
  | .any es => by
    rw [kept, atoms]
    split
    · exact List.nil_subset _
    · exact keptEach_subset es
  | .not e => kept_subset e
  | .atom _ => List.Subset.refl _

theorem keptEach_subset : ∀ es : List (Expr α), keptEach es ⊆ atomsEach es
  | [] => List.Subset.refl _
  | e :: es => by
    rw [keptEach, atomsEach, List.append_subset]
    exact ⟨List.subset_append_of_subset_left _ (kept_subset e),
      List.subset_append_of_subset_right _ (keptEach_subset es)⟩

end

/-! ### Other atoms -/

mutual

theorem eval_map (f : α → β) (V : β → Bool) : ∀ e : Expr α, (e.map f).eval V = e.eval (V ∘ f)
  | .all es | .any es => by rw [map, eval, eval, evalEach_map f V es]
  | .not e => by rw [map, eval, eval, eval_map f V e]
  | .atom _ => rfl

theorem evalEach_map (f : α → β) (V : β → Bool) :
    ∀ es : List (Expr α), evalEach V (mapEach f es) = evalEach (V ∘ f) es
  | [] => rfl
  | e :: es => by rw [mapEach, evalEach, evalEach, eval_map f V e, evalEach_map f V es]

end

mutual

theorem eval_congr {V W : α → Bool} : ∀ e : Expr α, (∀ a ∈ e.atoms, V a = W a) → e.eval V = e.eval W
  | .all es, same | .any es, same => by rw [eval, eval, evalEach_congr es same]
  | .not e, same => by rw [eval, eval, eval_congr e same]
  | .atom _, same => same _ List.mem_cons_self

theorem evalEach_congr {V W : α → Bool} :
    ∀ es : List (Expr α), (∀ a ∈ atomsEach es, V a = W a) → evalEach V es = evalEach W es
  | [], _ => rfl
  | e :: es, same => by
    rw [atomsEach, List.forall_mem_append] at same
    rw [evalEach, evalEach, eval_congr e same.1, evalEach_congr es same.2]

end

theorem isEmptyAny_map (f : α → β) : ∀ e : Expr α, (e.map f).isEmptyAny = e.isEmptyAny
  | .any [] | .any (_ :: _) | .all _ | .not _ | .atom _ => rfl

mutual

theorem vacuous_map (f : α → β) : ∀ e : Expr α, (e.map f).vacuous = e.vacuous
  | .all es | .any es => by rw [map, vacuous, vacuous, vacuousEach_map f es]
  | .not e => isEmptyAny_map f e
  | .atom _ => rfl

theorem vacuousEach_map (f : α → β) :
    ∀ es : List (Expr α), vacuousEach (mapEach f es) = vacuousEach es
  | [] => rfl
  | e :: es => by rw [mapEach, vacuousEach, vacuousEach, vacuous_map f e, vacuousEach_map f es]

end

mutual

theorem kept_map (f : α → β) : ∀ e : Expr α, (e.map f).kept = e.kept.map f
  | .all es => by rw [map, kept, kept, keptEach_map f es]
  | .any es => by
    have form := vacuous_map f (.any es)
    rw [map] at form
    rw [map, kept, kept, form, keptEach_map f es, apply_ite (List.map f), List.map_nil]
  | .not e => by rw [map, kept, kept, kept_map f e]
  | .atom _ => rfl

theorem keptEach_map (f : α → β) :
    ∀ es : List (Expr α), keptEach (mapEach f es) = (keptEach es).map f
  | [] => rfl
  | e :: es => by rw [mapEach, keptEach, keptEach, kept_map f e, keptEach_map f es, List.map_append]

end

mutual

theorem atoms_map (f : α → β) : ∀ e : Expr α, (e.map f).atoms = e.atoms.map f
  | .all es | .any es => by rw [map, atoms, atoms, atomsEach_map f es]
  | .not e => by rw [map, atoms, atoms, atoms_map f e]
  | .atom _ => rfl

theorem atomsEach_map (f : α → β) :
    ∀ es : List (Expr α), atomsEach (mapEach f es) = (atomsEach es).map f
  | [] => rfl
  | e :: es => by
    rw [mapEach, atomsEach, atomsEach, atoms_map f e, atomsEach_map f es, List.map_append]

end

end Expr

/-! ### The expression of a filter -/

/-- The words of a text, which are not empty. -/
def wordsOf (bs : List UInt8) : List (List UInt8) := (splitOn blank bs).filter (!·.isEmpty)

/-- The test for a value: a text is searched word by word. -/
def Indexed.test (v : Indexed) : Test (List UInt8) :=
  match v with
  | .number _ => .number v.toText
  | .tag _ => .tag v.toText
  | .text bs => .phrase (wordsOf bs)

/-- The field at a path: only its first part can be searched. -/
def fieldAt (P : Path) : String := (P.head?.map Segment.text).getD ""

/-- The number that a bound of a range stands for, as it is written. -/
def boundText (v : Value) : List UInt8 := (Indexed.number (v.toNumber?.getD (.zero false))).toText

/-- A test of a value by what the index sees of it; other values cannot be searched, and nothing
has them. -/
def valueExpr (P : Path) (test : Indexed → Test (List UInt8)) (n : Node) : Expr (Atom (List UInt8)) :=
  match n.scalar?.bind Indexed.ofValue? with
  | some v => .atom ⟨fieldAt P, test v⟩
  | none => .any []

def likeExpr (P : Path) (v : Value) : Expr (Atom (List UInt8)) :=
  match v.textBytes? with
  | some bs => .atom ⟨fieldAt P, .pattern ((splitOn wildcard bs).map wordsOf)⟩
  | none => .any []

def scalarExpr (P : Path) (op : Operator) (v : Value) : Expr (Atom (List UInt8)) :=
  match op with
  | .eq => valueExpr P Indexed.test (.scalar v)
  | .ne => .not (valueExpr P Indexed.test (.scalar v))
  | .gt => .atom ⟨fieldAt P, .above (boundText v) false⟩
  | .gte => .atom ⟨fieldAt P, .above (boundText v) true⟩
  | .lt => .atom ⟨fieldAt P, .below (boundText v) false⟩
  | .lte => .atom ⟨fieldAt P, .below (boundText v) true⟩
  | .like => likeExpr P v
  | _ => .any []

def listExpr (P : Path) (op : Operator) (ns : List Node) : Expr (Atom (List UInt8)) :=
  match op with
  | .oneOf => .any (ns.map (valueExpr P Indexed.test))
  | .noneOf => .not (.any (ns.map (valueExpr P Indexed.test)))
  -- members of lists are tags, and a text is a tag as a whole
  | .allOf => .all (ns.map (valueExpr P (.tag ·.toText)))
  | _ => .any []

mutual

/-- The expression of a filter on the field at a path: its entries are joined by a conjunction. -/
def filterExpr (P : Path) : Node → Expr (Atom (List UInt8))
  | .mapping es => .all (entryExprs P es)
  | _ => .any []

def entryExprs (P : Path) : List (String × Node) → List (Expr (Atom (List UInt8)))
  | [] => []
  | (key, n) :: es => entryExpr P key n :: entryExprs P es

def entryExpr (P : Path) (key : String) : Node → Expr (Atom (List UInt8))
  | .mapping es =>
    match Operator.ofName? key with
    | none => .all (entryExprs (P ++ [.key key]) es)
    | some .not => .not (.all (entryExprs P es))
    | some _ => .any []
  | .sequence ns =>
    match Operator.ofName? key with
    | some .and => .all (filterExprs P ns)
    | some .or => .any (filterExprs P ns)
    | some .nor => .not (.any (filterExprs P ns))
    | some op => listExpr P op ns
    | none => .any []
  | .scalar v =>
    match Operator.ofName? key with
    | none => scalarExpr (P ++ [.key key]) .eq v
    | some op => scalarExpr P op v

def filterExprs (P : Path) : List Node → List (Expr (Atom (List UInt8)))
  | [] => []
  | n :: ns => filterExpr P n :: filterExprs P ns

end

theorem entryExprs_eq (P : Path) (es : List (String × Node)) :
    entryExprs P es = es.map fun e => entryExpr P e.1 e.2 := by
  induction es with
  | nil => rfl
  | cons e es ih => rw [entryExprs, ih, List.map_cons]

theorem filterExprs_eq (P : Path) (ns : List Node) :
    filterExprs P ns = ns.map (filterExpr P) := by
  induction ns with
  | nil => rfl
  | cons n ns ih => rw [filterExprs, ih, List.map_cons]

end FilterQuery.Search
