import FilterQuery.Document.Modifiers
import FilterQuery.Proofs.Results
import FilterQuery.Proofs.Value.Exact

/-!
# Separating modifiers

`readings` lists the nodes that the modifiers of a document read, in document order, each with what it
has to be. Reading them is one sequence of steps that ends at the first node that does not fit
(`Reads.bind`), and so a document is separated exactly if all of them fit (`split_separates`). The greatest
unsigned number of 64 bits passes for the direction minus one.
-/

namespace FilterQuery

/-- The exact value of a node that holds a built-in number. -/
def Node.number? (n : Node) : Option ℚ := n.scalar?.bind Value.rational?

namespace Modifiers

/-- What a node under a modifier is read as. -/
inductive Role where
  /-- The criteria of an order. A mapping is read entry by entry, so no node that is read as a whole
  is one. -/
  | criteria
  | direction
  | count

/-- The direction that a number is read as. -/
def isDirection (q? : Option ℚ) (order : Int) : Prop :=
  (order = 1 ∨ order = -1) ∧ q? = some (order : ℚ) ∨ order = -1 ∧ q? = some (2 ^ 64 - 1)

/-- The count that a number is read as. -/
def isCount (q? : Option ℚ) (n : Int) : Prop := 0 ≤ n ∧ n < 2 ^ 63 ∧ q? = some (n : ℚ)

/-- A node that a modifier reads, and where it stands. -/
structure Reading where
  role : Role
  path : Path
  node : Node

def Reading.fits (r : Reading) : Prop :=
  match r.role with
  | .criteria => False
  | .direction => ∃ order, isDirection r.node.number? order
  | .count => ∃ n, isCount r.node.number? n

/-- Whether the node is what a modifier says: a direction is one or minus one. -/
def Reading.isProper (r : Reading) : Prop :=
  match r.role with
  | .criteria => False
  | .direction => r.node.number? = some 1 ∨ r.node.number? = some (-1)
  | .count => ∃ n, isCount r.node.number? n

/-- Whether the node is the number that wraps around to minus one, as a direction. -/
def Reading.isWrapped (r : Reading) : Prop := r.role = .direction ∧ r.node.number? = some (2 ^ 64 - 1)

theorem Reading.fits_iff (r : Reading) : r.fits ↔ r.isProper ∨ r.isWrapped := by
  unfold fits isProper isWrapped
  cases r.role with
  | criteria | count => simp
  | direction =>
    simp only [isDirection, true_and]
    constructor
    · rintro ⟨order, ⟨rfl | rfl, value⟩ | ⟨-, value⟩⟩
      · exact .inl (.inl (by simpa using value))
      · exact .inl (.inr (by simpa using value))
      · exact .inr value
    · rintro ((value | value) | value)
      · exact ⟨1, .inl ⟨.inl rfl, by simpa using value⟩⟩
      · exact ⟨-1, .inl ⟨.inr rfl, by simpa using value⟩⟩
      · exact ⟨-1, .inr ⟨rfl, value⟩⟩

theorem Reading.fits_iff_isProper (r : Reading) : (r.fits ↔ r.isProper) ↔ ¬r.isWrapped := by
  rw [fits_iff]
  constructor
  · rintro same ⟨direction, wrapped⟩
    have proper := same.mp (.inr ⟨direction, wrapped⟩)
    unfold isProper at proper
    rw [direction, wrapped] at proper
    norm_num at proper
  · exact fun plain => or_iff_left plain

/-- Whether the node holds no float from `2 ^ 63` on in magnitude. -/
def Reading.isModerate (r : Reading) : Prop := ∀ v, r.node = .scalar v → v.isModerate

def Reading.violation (r : Reading) : Violation := .ofNode .unexpectedValue r.node r.path

def isModifier (key : String) : Bool := key = sortKey ∨ key = skipKey ∨ key = limitKey

def sortReadings : Node → List Reading
  | .mapping fields => fields.map fun f => ⟨.direction, [.key sortKey, .key f.1], f.2⟩
  | n => [⟨.criteria, [.key sortKey], n⟩]

/-- What an entry of a document has read. -/
def readingsOf (e : String × Node) : List Reading :=
  if e.1 = sortKey then sortReadings e.2
  else if isModifier e.1 then [⟨.count, [.key e.1], e.2⟩]
  else []

/-- The nodes that the modifiers of a document read, in document order. -/
def readings (es : List (String × Node)) : List Reading := es.flatMap readingsOf

def filterEntries (es : List (String × Node)) : List (String × Node) :=
  es.filter fun e => !isModifier e.1

def lastNode (key : String) (es : List (String × Node)) : Option Node := es.reverse.lookup key

/-- The criteria that a node is read as. -/
def isSort (n : Node) (criteria : List SortField) : Prop :=
  ∃ fields, n = .mapping fields ∧
    List.Forall₂ (fun f c => c.key = f.1 ∧ isDirection f.2.number? c.order) fields criteria

/-- A value is the one that the last entry of a key is read as, or else the one before. -/
def IsLast {α : Type} (reads : Node → α → Prop) (key : String) (es : List (String × Node))
    (before a : α) : Prop :=
  match lastNode key es with
  | some n => reads n a
  | none => a = before

/-- The modifiers that the entries of a document give, where others stood before. -/
structure Gives (es : List (String × Node)) (before m : Modifiers) : Prop where
  sort : IsLast isSort sortKey es before.sort m.sort
  skip : IsLast (fun n => isCount n.number?) skipKey es before.skip m.skip
  limit : IsLast (fun n => isCount n.number?) limitKey es before.limit m.limit

/-! ### Reading in sequence -/

variable {α β : Type}

/-- A computation reads nodes in sequence: it ends well if they all fit, and with the violation of the
first that does not. -/
def Reads (rs : List Reading) (good : α → Prop) : Except Violation α → Prop
  | .ok a => (∀ r ∈ rs, r.fits) ∧ good a
  | .error v => ∃ before r after, rs = before ++ r :: after ∧ (∀ b ∈ before, b.fits) ∧ ¬ r.fits ∧
      v = r.violation

theorem Reads.bind {rs rs' : List Reading} {good : α → Prop} {good' : β → Prop}
    {x : Except Violation α} {f : α → Except Violation β} (first : Reads rs good x)
    (next : ∀ a, good a → Reads rs' good' (f a)) : Reads (rs ++ rs') good' (x >>= f) := by
  cases x with
  | error v =>
    obtain ⟨before, r, after, rfl, fit, unfit, same⟩ := first
    exact ⟨before, r, after ++ rs', List.append_assoc .., fit, unfit, same⟩
  | ok a =>
    obtain ⟨fit, start⟩ := first
    have rest := next a start
    change Reads (rs ++ rs') good' (f a)
    cases result : f a with
    | error v =>
      rw [result] at rest
      obtain ⟨before, r, after, rfl, fit', unfit, same⟩ := rest
      exact ⟨rs ++ before, r, after, (List.append_assoc ..).symm,
        List.forall_mem_append.mpr ⟨fit, fit'⟩, unfit, same⟩
    | ok b =>
      rw [result] at rest
      exact ⟨List.forall_mem_append.mpr ⟨fit, rest.1⟩, rest.2⟩

theorem Reads.mono {rs : List Reading} {good good' : α → Prop} {x : Except Violation α}
    (first : Reads rs good x) (next : ∀ a, good a → good' a) : Reads rs good' x := by
  cases x with
  | error v => exact first
  | ok a => exact ⟨first.1, next a first.2⟩

theorem Reads.map {rs : List Reading} {good : α → Prop} {good' : β → Prop}
    {x : Except Violation α} {f : α → β} (first : Reads rs good x)
    (next : ∀ a, good a → good' (f a)) : Reads rs good' (x >>= fun a => pure (f a)) := by
  cases x with
  | error v => exact first
  | ok a => exact ⟨first.1, next a first.2⟩

/-! ### Single nodes -/

def readInteger (admits : Int → Prop) [DecidablePred admits] (path : Path) (n : Node) :
    Except Violation Int :=
  match n.scalar?.bind Value.asInteger? with
  | some i => if admits i then .ok i else .error (.ofNode .unexpectedValue n path)
  | none => .error (.ofNode .unexpectedValue n path)

theorem reads_integer {role : Role} {path : Path} {n : Node} (admits : Int → Prop)
    [DecidablePred admits] {good : Int → Prop}
    (exact : ∀ i, n.scalar?.bind Value.asInteger? = some i ∧ admits i ↔ good i)
    (fits : (Reading.mk role path n).fits ↔ ∃ i, good i) :
    Reads [⟨role, path, n⟩] good (readInteger admits path n) := by
  have unfit (none : ∀ i, ¬ good i) : Reads [⟨role, path, n⟩] good
      (.error (.ofNode .unexpectedValue n path)) :=
    ⟨[], _, [], rfl, List.forall_mem_nil _, fun fit => (fits.mp fit).elim none, rfl⟩
  unfold readInteger
  cases read : n.scalar?.bind Value.asInteger? with
  | none => exact unfit fun i here => by simpa [read] using (exact i).mpr here
  | some i =>
    dsimp only
    by_cases admitted : admits i
    · rw [if_pos admitted]
      have here := (exact i).mp ⟨read, admitted⟩
      exact ⟨List.forall_mem_singleton.mpr (fits.mpr ⟨i, here⟩), here⟩
    · rw [if_neg admitted]
      refine unfit fun j here => ?_
      obtain ⟨same, admitted'⟩ := (exact j).mpr here
      rw [read, Option.some_inj] at same
      exact admitted (same ▸ admitted')

theorem asInteger?_node {n : Node} (moderate : ∀ v, n = .scalar v → v.isModerate) (i : Int) :
    n.scalar?.bind Value.asInteger? = some i ↔ Value.isReadAs n.number? i := by
  cases n with
  | scalar v => exact Value.asInteger?_eq_some_iff (moderate v rfl) i
  | _ => simp [Node.scalar?, Node.number?, Value.isReadAs]

theorem reads_count {path : Path} {n : Node} (moderate : (Reading.mk .count path n).isModerate) :
    Reads [⟨.count, path, n⟩] (isCount n.number?) (readCount path n) := by
  refine reads_integer (0 ≤ ·) (fun i => ?_) Iff.rfl
  rw [asInteger?_node moderate, Value.isReadAs, isCount]
  constructor
  · rintro ⟨⟨value, high⟩ | ⟨-, -, negative⟩, low⟩
    · exact ⟨low, high, value⟩
    · omega
  · rintro ⟨low, high, value⟩
    exact ⟨.inl ⟨value, high⟩, low⟩

theorem reads_direction {path : Path} {n : Node}
    (moderate : (Reading.mk .direction path n).isModerate) :
    Reads [⟨.direction, path, n⟩] (isDirection n.number?)
      (readInteger (fun i => i = 1 ∨ i = -1) path n) := by
  refine reads_integer (fun i => i = 1 ∨ i = -1) (fun i => ?_) Iff.rfl
  have greatest : ((-1 + 2 ^ 64 : Int) : ℚ) = 2 ^ 64 - 1 := by norm_num
  rw [asInteger?_node moderate, Value.isReadAs, isDirection]
  constructor
  · rintro ⟨⟨value, -⟩ | ⟨value, -, negative⟩, direction⟩
    · exact .inl ⟨direction, value⟩
    · obtain rfl : i = -1 := by omega
      exact .inr ⟨rfl, value.trans (congrArg some greatest)⟩
  · rintro (⟨direction, value⟩ | ⟨rfl, value⟩)
    · exact ⟨.inl ⟨value, by omega⟩, direction⟩
    · exact ⟨.inr ⟨value.trans (congrArg some greatest.symm), by decide, by decide⟩, .inr rfl⟩

/-! ### Whole documents -/

theorem readCriteria_cons (path : Path) (key : String) (n : Node) (rest : List (String × Node)) :
    readCriteria path ((key, n) :: rest) =
      (do
        let order ← readInteger (fun i => i = 1 ∨ i = -1) (path ++ [Segment.key key]) n
        let criteria ← readCriteria path rest
        return ⟨key, order⟩ :: criteria) := by
  rw [readCriteria, readInteger]
  cases n.scalar?.bind Value.asInteger? with
  | none => rfl
  | some order =>
    dsimp only
    split <;> rfl

theorem reads_criteria {fields : List (String × Node)}
    (moderate : ∀ f ∈ fields, (Reading.mk .direction [.key sortKey, .key f.1] f.2).isModerate) :
    Reads (fields.map fun f => ⟨.direction, [.key sortKey, .key f.1], f.2⟩)
      (fun criteria => List.Forall₂ (fun f c => c.key = f.1 ∧ isDirection f.2.number? c.order)
        fields criteria)
      (readCriteria [.key sortKey] fields) := by
  induction fields with
  | nil => exact ⟨List.forall_mem_nil _, .nil⟩
  | cons f fields ih =>
    obtain ⟨here, others⟩ := List.forall_mem_cons.mp moderate
    rw [readCriteria_cons]
    exact (reads_direction here).bind fun order direction =>
      (ih others).map fun criteria rest => .cons ⟨rfl, direction⟩ rest

/-- Reads the value of a modifier into the modifiers before; other entries are passed over. -/
def readEntry (m : Modifiers) (key : String) (n : Node) : Except Violation Modifiers :=
  if key = sortKey then do
    let sort ← readSort [.key key] n
    return { m with sort := sort }
  else if key = skipKey then do
    let skip ← readCount [.key key] n
    return { m with skip := skip }
  else if key = limitKey then do
    let limit ← readCount [.key key] n
    return { m with limit := limit }
  else return m

theorem splitEntries_cons (m : Modifiers) (key : String) (n : Node) (rest : List (String × Node)) :
    splitEntries m ((key, n) :: rest) =
      (do
        let m ← readEntry m key n
        let out ← splitEntries m rest
        return (if isModifier key then out.1 else (key, n) :: out.1, out.2)) := by
  rw [splitEntries, readEntry]
  by_cases sort : key = sortKey
  · have modifier : isModifier key = true := decide_eq_true (.inl sort)
    simp only [if_pos sort, bind_assoc, pure_bind, modifier, if_true, Prod.mk.eta, bind_pure]
  by_cases skip : key = skipKey
  · have modifier : isModifier key = true := decide_eq_true (.inr (.inl skip))
    simp only [if_neg sort, if_pos skip, bind_assoc, pure_bind, modifier, if_true, Prod.mk.eta,
      bind_pure]
  by_cases limit : key = limitKey
  · have modifier : isModifier key = true := decide_eq_true (.inr (.inr limit))
    simp only [if_neg sort, if_neg skip, if_pos limit, bind_assoc, pure_bind, modifier, if_true,
      Prod.mk.eta, bind_pure]
  · have filter : isModifier key = false := decide_eq_false (by simp [sort, skip, limit])
    simp only [if_neg sort, if_neg skip, if_neg limit, pure_bind, filter, Bool.false_eq_true,
      if_false]

section
variable {reads : Node → α → Prop} {key : String} {a b c : α}

theorem IsLast.here {n : Node} (read : reads n b) : IsLast reads key [(key, n)] a b := by
  simpa [IsLast, lastNode] using read

theorem IsLast.other {key' : String} (different : key' ≠ key) (n : Node) :
    IsLast reads key [(key', n)] a a := by
  simp [IsLast, lastNode, List.lookup_cons, beq_false_of_ne different.symm]

theorem IsLast.cons {e : String × Node} {es : List (String × Node)}
    (first : IsLast reads key [e] a b) (rest : IsLast reads key es b c) :
    IsLast reads key (e :: es) a c := by
  unfold IsLast lastNode at *
  rw [List.reverse_cons, List.lookup_append]
  cases last : es.reverse.lookup key with
  | some n =>
    rw [last] at rest
    exact rest
  | none =>
    rw [last] at rest
    obtain rfl := rest
    exact first

end

theorem Gives.cons {e : String × Node} {es : List (String × Node)} {m m' m'' : Modifiers}
    (first : Gives [e] m m') (rest : Gives es m' m'') : Gives (e :: es) m m'' :=
  ⟨first.sort.cons rest.sort, first.skip.cons rest.skip, first.limit.cons rest.limit⟩

theorem reads_sort {n : Node} (moderate : ∀ r ∈ sortReadings n, r.isModerate) :
    Reads (sortReadings n) (isSort n) (readSort [.key sortKey] n) := by
  cases n with
  | mapping fields =>
    exact (reads_criteria (List.forall_mem_map.mp moderate)).mono fun criteria read =>
      ⟨fields, rfl, read⟩
  | scalar v => exact ⟨[], _, [], rfl, List.forall_mem_nil _, id, rfl⟩
  | sequence items => exact ⟨[], _, [], rfl, List.forall_mem_nil _, id, rfl⟩

theorem reads_entry (m : Modifiers) {key : String} {n : Node}
    (moderate : ∀ r ∈ readingsOf (key, n), r.isModerate) :
    Reads (readingsOf (key, n)) (Gives [(key, n)] m) (readEntry m key n) := by
  have sort_skip : sortKey ≠ skipKey := by decide
  have sort_limit : sortKey ≠ limitKey := by decide
  have skip_limit : skipKey ≠ limitKey := by decide
  unfold readEntry
  by_cases sort : key = sortKey
  · subst sort
    rw [if_pos rfl]
    exact (reads_sort moderate).map fun _ read =>
      ⟨.here read, .other sort_skip n, .other sort_limit n⟩
  have counted (modifier : isModifier key = true) :
      Reads (readingsOf (key, n)) (isCount n.number?) (readCount [.key key] n) := by
    have reading : readingsOf (key, n) = [⟨.count, [.key key], n⟩] := by
      rw [readingsOf, if_neg sort, if_pos modifier]
    rw [reading] at moderate ⊢
    exact reads_count (List.forall_mem_singleton.mp moderate)
  rw [if_neg sort]
  by_cases skip : key = skipKey
  · subst skip
    rw [if_pos rfl]
    exact (counted rfl).map fun _ read => ⟨.other sort n, .here read, .other skip_limit n⟩
  rw [if_neg skip]
  by_cases limit : key = limitKey
  · subst limit
    rw [if_pos rfl]
    exact (counted rfl).map fun _ read => ⟨.other sort n, .other skip n, .here read⟩
  · have none : readingsOf (key, n) = [] := by
      simp [readingsOf, isModifier, sort, skip, limit]
    rw [if_neg limit, none]
    exact ⟨List.forall_mem_nil _, .other sort n, .other skip n, .other limit n⟩

theorem splitEntries_reads {es : List (String × Node)} (m : Modifiers)
    (moderate : ∀ r ∈ readings es, r.isModerate) :
    Reads (readings es) (fun out => out.1 = filterEntries es ∧ Gives es m out.2)
      (splitEntries m es) := by
  induction es generalizing m with
  | nil => exact ⟨List.forall_mem_nil _, rfl, rfl, rfl, rfl⟩
  | cons e es ih =>
    obtain ⟨key, n⟩ := e
    obtain ⟨here, others⟩ := List.forall_mem_append.mp moderate
    rw [splitEntries_cons]
    refine (reads_entry m here).bind fun m' first => (ih m' others).map ?_
    rintro ⟨filter, m''⟩ ⟨kept, rest⟩
    refine ⟨?_, first.cons rest⟩
    cases modifier : isModifier key <;> simp_all [filterEntries]

theorem splitEntries_filter {es : List (String × Node)} (m : Modifiers)
    (plain : ∀ e ∈ es, isModifier e.1 = false) : splitEntries m es = .ok (es, m) := by
  induction es with
  | nil => rfl
  | cons e es ih =>
    obtain ⟨key, n⟩ := e
    obtain ⟨here, others⟩ := List.forall_mem_cons.mp plain
    dsimp only at here
    have passed : readEntry m key n = .ok m := by
      simp only [isModifier, decide_eq_false_iff_not, not_or] at here
      rw [readEntry, if_neg here.1, if_neg here.2.1, if_neg here.2.2]
      rfl
    rw [splitEntries_cons, passed, here]
    change (splitEntries m es >>= fun out => _) = _
    rw [ih others]
    rfl

end Modifiers

namespace Node
open Modifiers

/-- A document is separated into its filter and its modifiers exactly if all that the modifiers read
fits; if not, the error is about the first node that does not. What fits is what the modifiers say, unless
a direction is the number that wraps around to minus one. -/
theorem split_separates (n : Node) :
    (n.isMapping = false → n.split = .ok (n, {})) ∧
    ∀ es, n = .mapping es → (∀ r ∈ readings es, r.isModerate) →
      ((∃ out, n.split = .ok out) ↔ ∀ r ∈ readings es, r.fits) ∧
      (∀ filter m, n.split = .ok (filter, m) →
        filter = .mapping (filterEntries es) ∧ Gives es {} m ∧ filter.split = .ok (filter, {})) ∧
      (∀ v, n.split = .error v →
        ∃ before r after, readings es = before ++ r :: after ∧ (∀ b ∈ before, b.fits) ∧ ¬ r.fits ∧
          v = .ofNode .unexpectedValue r.node r.path) ∧
      ∀ r ∈ readings es, (r.fits ↔ r.isProper) ↔ ¬r.isWrapped := by
  refine ⟨fun shape => ?_, ?_⟩
  · cases n with
    | mapping es => cases shape
    | _ => rfl
  rintro es rfl moderate
  have whole : Reads (readings es)
      (fun out => out.1 = .mapping (filterEntries es) ∧ Gives es {} out.2)
      (Node.mapping es).split :=
    (splitEntries_reads {} moderate).map fun out read => ⟨congrArg _ read.1, read.2⟩
  cases result : (Node.mapping es).split with
  | error v =>
    rw [result] at whole
    refine ⟨?_, by simp, fun v' same => Except.error.inj same ▸ whole, fun r _ => r.fits_iff_isProper⟩
    obtain ⟨before, r, after, order, -, unfit, -⟩ := whole
    refine iff_of_false (by simp) fun fit => unfit (fit r ?_)
    rw [order]
    exact List.mem_append_right _ List.mem_cons_self
  | ok out =>
    rw [result] at whole
    obtain ⟨fit, kept, given⟩ := whole
    refine ⟨iff_of_true ⟨out, rfl⟩ fit, ?_, by simp, fun r _ => r.fits_iff_isProper⟩
    rintro filter m same
    obtain rfl := Except.ok.inj same
    obtain rfl := kept
    refine ⟨rfl, given, ?_⟩
    have plain : ∀ e ∈ filterEntries es, isModifier e.1 = false := fun e member => by
      simpa using (List.mem_filter.mp member).2
    change (splitEntries {} (filterEntries es) >>= fun out => _) = _
    rw [splitEntries_filter {} plain]
    rfl

/-- A limit that is written as a float is a count. -/
theorem split_separates_float_limit :
    ∃ m, (Node.mapping [("$limit", .scalar (.double (.finite false 3 0))),
        ("a", .scalar .null)]).split = .ok (.mapping [("a", .scalar .null)], m) ∧
      IsLast (fun n => isCount n.number?) limitKey
        [("$limit", .scalar (.double (.finite false 3 0))), ("a", .scalar .null)] 0 m.limit := by
  have three : (Binary.finite false 3 0).value? = some 3 := by norm_num [Binary.value?, scaled]
  have moderate : ∀ r ∈ readings [("$limit", .scalar (.double (.finite false 3 0))),
      ("a", .scalar .null)], r.isModerate := by
    refine List.forall_mem_singleton.mpr ?_
    rintro v same
    obtain rfl := Node.scalar.inj same
    refine ⟨by decide, fun q value => ?_⟩
    rw [three] at value
    obtain rfl := Option.some.inj value
    norm_num
  obtain ⟨accepted, given, -⟩ := (split_separates _).2 _ rfl moderate
  obtain ⟨⟨filter, m⟩, separated⟩ :=
    accepted.mpr (List.forall_mem_singleton.mpr ⟨3, by decide, by decide, three⟩)
  obtain ⟨rfl, gives, -⟩ := given _ _ separated
  exact ⟨m, separated, gives.limit⟩

/-- The greatest unsigned number is neither one nor minus one, and passes for the direction minus
one. -/
theorem split_greatest_direction :
    (Node.scalar (.int ⟨.uint64, 18446744073709551615, by decide, by decide⟩)).number? ≠ some 1 ∧
      (Node.scalar (.int ⟨.uint64, 18446744073709551615, by decide, by decide⟩)).number? ≠
        some (-1) ∧
      (Node.mapping [("$sort", .mapping
        [("a", .scalar (.int ⟨.uint64, 18446744073709551615, by decide, by decide⟩))])]).split =
        .ok (.mapping [], { sort := [⟨"a", -1⟩] }) := by
  have exact : (Node.scalar (.int ⟨.uint64, 18446744073709551615, by decide, by decide⟩)).number? =
      some 18446744073709551615 := rfl
  refine ⟨?_, ?_, rfl⟩
  · rw [exact]
    norm_num
  · rw [exact]
    norm_num

end Node

end FilterQuery
