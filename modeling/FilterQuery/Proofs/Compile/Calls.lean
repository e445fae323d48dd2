import FilterQuery.Proofs.Compile.FirstViolation
import FilterQuery.Proofs.Compile.Recording

/-!
# Calls of generators

Whatever a compilation comes to, each call of a generator has been checked before, and its children
are the results of the calls for the nodes directly below, in document order (`calls_justified`).
The record of calls does not change what is compiled (`recording_compile`).
-/

namespace FilterQuery

namespace Site

/-- Whether a generator is called for a node. Only list items that are no filters are passed on as
they are. -/
def isCalled (site : Site) : Bool :=
  match site.path.getLast? with
  | some (.index _) => site.node.isMapping
  | _ => true

@[simp] theorem isCalled_key (path : Path) (key : String) (n : Node) :
    isCalled ⟨path ++ [Segment.key key], n⟩ = true := by
  simp [isCalled]

@[simp] theorem isCalled_index (path : Path) (i : Int) (n : Node) :
    isCalled ⟨path ++ [Segment.index i], n⟩ = n.isMapping := by
  simp [isCalled]

end Site

/-- The items of a list that are no filters. -/
def Node.literals : Node → List Node
  | .sequence ns => ns.filter (!·.isMapping)
  | _ => []

namespace Compiler

open Generation

variable {σ α β : Type}

/-! ### Checked operations -/

/-- The operator that the key of an operation names. -/
def named? (o : Operation α) : Option Operator := o.path.getLast?.bind Segment.operator?

/-- The operation joins the entries of a mapping that stands under no operator. -/
def IsEntries (o : Operation α) : Prop :=
  named? o = none ∧ o.operator = .and ∧ o.operand.isMapping

/-- The operation is that of an operator, or compares a field with a scalar. -/
def IsTest (o : Operation α) : Prop :=
  named? o = some o.operator ∨
    named? o = none ∧ o.operator = .eq ∧ ∃ v, o.operand = .scalar v

/-- What is known of an operation when its generator is called. -/
structure Validated (c : Compiler σ α β) (o : Operation α) : Prop where
  registered : (c.dialect.generator? o.operator).isSome
  checked : IsEntries o ∨
    IsTest o ∧ o.operator.violation? o.path o.operand o.data = none ∧ c.language.Within o.data
  data_eq : o.data = o.path.data
  onField : o.operator.isCombinator = false → o.data ≠ []
  elements_eq : o.elements = if o.operator.takesValues then o.operand.literals else []

/-- The calls are those for the nodes below an operand, and the operation has as children what the
calls directly below have made. -/
structure Gathers (o : Operation α) (below : List (Call α)) : Prop where
  sites_eq : below.map Call.site = (o.operand.postorderParts o.path).filter Site.isCalled
  children_eq : o.children = artifactsAt (o.path.length + 1) below

/-- Each call on record has been checked, and the calls for the nodes below it come right before. -/
def Justified (c : Compiler σ α β) (log : List (Call α)) : Prop :=
  ∀ before call after, log = before ++ call :: after → c.Validated call.operation ∧
    ∃ earlier below, before = earlier ++ below ∧ Gathers call.operation below

theorem justified_nil (c : Compiler σ α β) : c.Justified [] := by
  intro before call after split
  simp at split

theorem Justified.append {c : Compiler σ α β} {first second : List (Call α)}
    (left : c.Justified first) (right : c.Justified second) : c.Justified (first ++ second) := by
  intro before call after split
  rcases List.append_eq_append_iff.mp split with ⟨inner, rfl, rfl⟩ | ⟨inner, rfl, rest⟩
  -- the call is in the second part, with the whole first part before it
  · obtain ⟨validated, earlier, below, rfl, gathers⟩ := right inner call after rfl
    exact ⟨validated, first ++ earlier, below, by rw [List.append_assoc], gathers⟩
  · cases inner with
    | nil =>
      obtain ⟨validated, earlier, below, empty, gathers⟩ := right [] call after rest.symm
      obtain ⟨rfl, rfl⟩ := List.append_eq_nil_iff.mp empty.symm
      exact ⟨validated, before, [], by simp, gathers⟩
    | cons head tail =>
      obtain ⟨rfl, rfl⟩ := List.cons.inj rest
      exact left before call tail rfl

theorem Justified.call {c : Compiler σ α β} {below : List (Call α)} {call : Call α}
    (parts : c.Justified below) (validated : c.Validated call.operation)
    (gathers : Gathers call.operation below) : c.Justified (below ++ [call]) := by
  intro before last after split
  rcases List.append_eq_append_iff.mp split with ⟨inner, rfl, rest⟩ | ⟨inner, rfl, rest⟩
  · cases inner with
    | nil =>
      obtain ⟨rfl, _⟩ := List.cons.inj rest
      exact ⟨validated, [], below, by simp, gathers⟩
    | cons head tail => simp at rest
  · cases inner with
    | nil =>
      obtain ⟨rfl, _⟩ := List.cons.inj rest
      exact ⟨validated, [], before, rfl, by simpa using gathers⟩
    | cons head tail =>
      obtain ⟨rfl, rfl⟩ := List.cons.inj rest
      exact parts before last tail rfl

/-! ### Steps of the compiler -/

/-- What the operation is whose generator is called for a node. -/
def operationAt (op : Operator) (data : Path) (v : Visit (Part α)) : Operation α where
  operator := op
  path := v.path
  data := data
  operand := v.node
  children := v.children.filterMap Part.artifact?
  elements := v.children.filterMap Part.literal?

/-- A step either calls one generator, with a checked operation, or calls none, and then fails or
passes the node on. -/
def Stepped (c : Compiler σ α β) (v : Visit (Part α)) (r : Except CompileError (Option (Part α)))
    (new : List (Call α)) : Prop :=
  (new = [] ∧ ∀ part, r = .ok part →
      part = some (.literal v.node) ∧ Site.isCalled ⟨v.path, v.node⟩ = false) ∨
    ∃ op result, new = [⟨operationAt op v.path.data v, result⟩] ∧
      r = result.map (Option.map .artifact) ∧ Site.isCalled ⟨v.path, v.node⟩ = true ∧
        c.Validated (operationAt op v.path.data v)

theorem records_invoke (g : Generator σ α) (op : Operator) (data : Path) (v : Visit (Part α)) :
    Records (invoke (recorded g) op data v) (invoke g op data v) fun r new =>
      ∃ result, new = [⟨operationAt op data v, result⟩] ∧ r = result.map (Option.map .artifact) := by
  refine records_map (records_recorded g (operationAt op data v)) ?_
  rintro result new rfl
  exact ⟨result, rfl, rfl⟩

section Steps

variable {c : Compiler σ α β} {v : Visit (Part α)}

theorem records_failure (e : CompileError) :
    Records (throw e) (throw e : Generation σ (Option (Part α))) (c.Stepped v) := by
  refine records_throw (.inl ⟨rfl, ?_⟩)
  intro part success
  cases success

theorem elements_operationAt {op : Operator} {data : Path}
    (literals : v.children.filterMap Part.literal? = v.node.literals)
    (accepted : op.accepts v.node ∨ op = .and ∧ v.node.isMapping) :
    (operationAt op data v).elements = if op.takesValues then v.node.literals else [] := by
  have none : op.takesValues = false → v.node.literals = [] := by
    intro noValues
    cases node : v.node with
    | scalar _ => rfl
    | mapping _ => rfl
    | sequence ns =>
      rw [node, Operator.accepts_sequence, noValues] at accepted
      rcases accepted with accepted | ⟨_, mapping⟩
      -- the items of a combinator are all filters
      · simp only [Bool.or_false, Bool.and_eq_true, List.all_eq_true] at accepted
        simpa [Node.literals] using accepted.2
      · cases mapping
  show v.children.filterMap Part.literal? = _
  rw [literals]
  cases values : op.takesValues with
  | true => rfl
  | false => exact none values

theorem validated_entries (literals : v.children.filterMap Part.literal? = v.node.literals)
    (noOperator : v.path.getLast?.bind Segment.operator? = none) (mapping : v.node.isMapping) :
    c.Validated (operationAt .and v.path.data v) where
  registered := c.andSupported
  checked := .inl ⟨noOperator, rfl, mapping⟩
  data_eq := rfl
  onField h := by cases h
  elements_eq := elements_operationAt literals (.inr ⟨rfl, mapping⟩)

theorem records_invokeAnd (literals : v.children.filterMap Part.literal? = v.node.literals)
    (noOperator : v.path.getLast?.bind Segment.operator? = none) (mapping : v.node.isMapping) :
    Records (c.recording.invokeAnd v.path.data v) (c.invokeAnd v.path.data v) (c.Stepped v) := by
  have called : Site.isCalled ⟨v.path, v.node⟩ = true := by
    unfold Site.isCalled
    split
    · exact mapping
    · rfl
  have generator : (c.recording.dialect.generator? .and).get c.recording.andSupported =
      recorded ((c.dialect.generator? .and).get c.andSupported) := Option.get_map
  unfold invokeAnd
  rw [generator]
  refine (records_invoke _ _ _ _).mono ?_
  rintro r new ⟨result, rfl, same⟩
  exact .inr ⟨.and, result, rfl, same, called, validated_entries literals noOperator mapping⟩

theorem check_recording (op : Operator) (data : Path) : c.recording.check op data v = c.check op data v :=
  rfl

theorem records_invokeChecked {op : Operator} {g : Generator σ α}
    (literals : v.children.filterMap Part.literal? = v.node.literals)
    (found : c.dialect.generator? op = some g)
    (test : IsTest (operationAt op v.path.data v))
    (called : Site.isCalled ⟨v.path, v.node⟩ = true) :
    Records (c.recording.invokeChecked (recorded g) op v.path.data v)
      (c.invokeChecked g op v.path.data v) (c.Stepped v) := by
  have supported : c.language.supports op := by simp [language, found]
  unfold invokeChecked
  rw [check_recording]
  cases broken : c.check op v.path.data v with
  | some violation => exact records_failure _
  | none =>
    have clean : op.violation? v.path v.node v.path.data = none := by
      unfold check at broken
      split at broken
      · cases broken
      · assumption
    rw [check_eq c op v.path.data v supported, Option.map_eq_none_iff,
      Language.operandViolation?_eq_none_iff] at broken
    obtain ⟨_, accepted, onField, within⟩ := broken
    refine (records_invoke _ _ _ _).mono ?_
    rintro r new ⟨result, rfl, same⟩
    have needsField : op.isCombinator = false → op.needsField := by simp [Operator.needsField]
    refine .inr ⟨op, result, rfl, same, called, supported, .inr ⟨test, clean, within⟩, rfl, ?_, ?_⟩
    · exact fun noCombinator => onField (needsField noCombinator)
    · exact elements_operationAt literals (.inl accepted)

theorem records_compileField (literals : v.children.filterMap Part.literal? = v.node.literals)
    (noOperator : v.path.getLast?.bind Segment.operator? = none)
    (called : Site.isCalled ⟨v.path, v.node⟩ = true) :
    Records (c.recording.compileField v.path.data v) (c.compileField v.path.data v)
      (c.Stepped v) := by
  unfold compileField
  cases node : v.node with
  | mapping es =>
    dsimp only
    exact records_invokeAnd literals noOperator (by rw [node]; rfl)
  | sequence ns => exact records_failure _
  | scalar value =>
    have generator : (c.recording.dialect.generator? .eq).get c.recording.eqSupported =
        recorded ((c.dialect.generator? .eq).get c.eqSupported) := Option.get_map
    dsimp only
    rw [generator]
    refine records_invokeChecked literals (Option.some_get c.eqSupported).symm ?_ called
    exact .inr ⟨noOperator, rfl, value, node⟩

theorem records_compileKey {key : String}
    (literals : v.children.filterMap Part.literal? = v.node.literals)
    (last : v.path.getLast? = some (.key key)) :
    Records (c.recording.compileKey key v.path.data v) (c.compileKey key v.path.data v)
      (c.Stepped v) := by
  have called : Site.isCalled ⟨v.path, v.node⟩ = true := by simp [Site.isCalled, last]
  unfold compileKey
  cases named : Operator.ofName? key with
  | some op =>
    dsimp only
    have test : IsTest (operationAt op v.path.data v) := by
      refine .inl ?_
      simp [named?, operationAt, last, Segment.operator?, named]
    cases found : c.dialect.generator? op with
    | none =>
      have missing : c.recording.dialect.generator? op = none := by simp [recording, found]
      rw [missing]
      exact records_failure _
    | some g =>
      have present : c.recording.dialect.generator? op = some (recorded g) := by
        simp [recording, found]
      rw [present]
      exact records_invokeChecked literals found test called
  | none =>
    have noOperator : v.path.getLast?.bind Segment.operator? = none := by
      simp [last, Segment.operator?, named]
    dsimp only
    split
    · exact records_failure _
    · exact records_compileField literals noOperator called

theorem records_step (literals : v.children.filterMap Part.literal? = v.node.literals)
    (root : v.path = [] → v.node.isMapping) :
    Records (c.recording.step v) (c.step v) (c.Stepped v) := by
  unfold step
  cases last : v.path.getLast? with
  | none =>
    have empty : v.path = [] := List.getLast?_eq_none_iff.mp last
    have joined := records_invokeAnd (c := c) literals (by rw [last]; rfl) (root empty)
    rwa [empty] at joined
  | some seg =>
    cases seg with
    | key key => exact records_compileKey literals last
    | index i =>
      dsimp only
      split
      · rename_i mapping
        exact records_invokeAnd literals (by rw [last]; rfl) mapping
      · rename_i notMapping
        refine records_pure (.inl ⟨rfl, ?_⟩)
        intro part success
        refine ⟨(Except.ok.inj success).symm, ?_⟩
        simpa [Site.isCalled, last] using notMapping

end Steps

/-! ### Walks over documents -/

/-- What a walk over a node has put on record when it succeeds with the given part. -/
structure Walked (path : Path) (n : Node) (part : Option (Part α)) (new : List (Call α)) : Prop where
  sites_eq : new.map Call.site = (n.postorderAt path).filter Site.isCalled
  deep : ∀ call ∈ new, path.length ≤ call.operation.path.length
  artifacts_eq : artifactsAt path.length new = (part.bind Part.artifact?).toList
  literal_eq : part.bind Part.literal? = if Site.isCalled ⟨path, n⟩ then none else some n

/-- As `Walked`, for the nodes directly below a path and all that is below them. -/
structure WalkedParts (path : Path) (sites : List Site) (literals : List Node)
    (results : List (Part α)) (new : List (Call α)) : Prop where
  sites_eq : new.map Call.site = sites.filter Site.isCalled
  deep : ∀ call ∈ new, path.length < call.operation.path.length
  artifacts_eq : artifactsAt (path.length + 1) new = results.filterMap Part.artifact?
  literals_eq : results.filterMap Part.literal? = literals

theorem artifactsAt_append (length : Nat) (first second : List (Call α)) :
    artifactsAt length (first ++ second) = artifactsAt length first ++ artifactsAt length second := by
  simp [artifactsAt]

theorem artifactsAt_eq_nil {length : Nat} {calls : List (Call α)}
    (deep : ∀ call ∈ calls, length < call.operation.path.length) : artifactsAt length calls = [] := by
  have nothing : calls.filter (·.operation.path.length = length) = [] := by
    rw [List.filter_eq_nil_iff]
    intro call member
    have longer := deep call member
    simp only [decide_eq_true_eq]
    omega
  rw [artifactsAt, nothing]
  rfl

theorem WalkedParts.nil (path : Path) : WalkedParts (α := α) path [] [] [] [] where
  sites_eq := rfl
  deep := by simp
  artifacts_eq := rfl
  literals_eq := rfl

theorem WalkedParts.cons {path : Path} {seg : Segment} {n : Node} {part : Option (Part α)}
    {sites : List Site} {literals : List Node} {results : List (Part α)} {new more : List (Call α)}
    (first : Walked (path ++ [seg]) n part new) (rest : WalkedParts path sites literals results more) :
    WalkedParts path (n.postorderAt (path ++ [seg]) ++ sites)
      ((if Site.isCalled ⟨path ++ [seg], n⟩ then [] else [n]) ++ literals)
      (part.toList ++ results) (new ++ more) where
  sites_eq := by rw [List.map_append, first.sites_eq, rest.sites_eq, List.filter_append]
  deep call member := by
    rcases List.mem_append.mp member with member | member
    · have longer := first.deep call member
      rw [List.length_append, List.length_singleton] at longer
      omega
    · exact rest.deep call member
  artifacts_eq := by
    have own := first.artifacts_eq
    rw [List.length_append, List.length_singleton] at own
    rw [artifactsAt_append, own, rest.artifacts_eq, List.filterMap_append]
    cases part with
    | none => rfl
    | some part => cases part <;> rfl
  literals_eq := by
    have own := first.literal_eq
    rw [List.filterMap_append, rest.literals_eq]
    congr 1
    cases part with
    | none =>
      split at own
      · rename_i called
        rw [if_pos called]
        rfl
      · cases own
    | some part =>
      cases part with
      | artifact a =>
        split at own
        · rename_i called
          rw [if_pos called]
          rfl
        · cases own
      | literal m =>
        split at own
        · cases own
        · rename_i literal
          rw [if_neg literal]
          exact congrArg (fun m => [m]) (Option.some.inj own)

theorem Stepped.walked {c : Compiler σ α β} {path : Path} {n : Node} {parent : Option Node}
    {results : List (Part α)} {below new : List (Call α)}
    (parts : WalkedParts path (n.postorderParts path) n.literals results below)
    (justified : c.Justified below) {r : Except CompileError (Option (Part α))}
    (stepped : c.Stepped ⟨path, n, parent, results⟩ r new) :
    c.Justified (below ++ new) ∧ ∀ part, r = .ok part → Walked path n part (below ++ new) := by
  have nothing : artifactsAt path.length below = [] := artifactsAt_eq_nil parts.deep
  rcases stepped with ⟨rfl, passes⟩ | ⟨op, result, rfl, rfl, called, validated⟩
  · refine ⟨by rwa [List.append_nil], ?_⟩
    intro part success
    obtain ⟨rfl, literal⟩ := passes part success
    rw [List.append_nil]
    refine ⟨?_, fun call member => Nat.le_of_lt (parts.deep call member), ?_, ?_⟩
    · rw [parts.sites_eq, Node.postorderAt_eq, List.filter_append]
      simp [literal]
    · exact nothing
    · rw [literal]
      rfl
  · refine ⟨justified.call validated ⟨parts.sites_eq, parts.artifacts_eq.symm⟩, ?_⟩
    intro part success
    refine ⟨?_, ?_, ?_, ?_⟩
    · rw [List.map_append, parts.sites_eq, Node.postorderAt_eq, List.filter_append]
      simp [called, Call.site, operationAt]
    · intro call member
      rcases List.mem_append.mp member with member | member
      · exact Nat.le_of_lt (parts.deep call member)
      · rw [List.mem_singleton.mp member]
        exact Nat.le_refl _
    · rw [artifactsAt_append, nothing, List.nil_append]
      cases result with
      | error e => cases success
      | ok made =>
        obtain rfl := Except.ok.inj success
        cases made <;> simp [artifactsAt, operationAt, Call.artifact?, Part.artifact?]
    · rw [called]
      cases result with
      | error e => cases success
      | ok made =>
        obtain rfl := Except.ok.inj success
        cases made <;> rfl

section Walks

variable {c : Compiler σ α β}

/-- What a walk puts on record: justified calls, and all those for the node if it succeeds. -/
def WalksAt (c : Compiler σ α β) (path : Path) (n : Node)
    (r : Except CompileError (Option (Part α))) (new : List (Call α)) : Prop :=
  c.Justified new ∧ ∀ part, r = .ok part → Walked path n part new

def WalksParts (c : Compiler σ α β) (path : Path) (sites : List Site) (literals : List Node)
    (r : Except CompileError (List (Part α))) (new : List (Call α)) : Prop :=
  c.Justified new ∧ ∀ results, r = .ok results → WalkedParts path sites literals results new

theorem records_nothing (path : Path) :
    Records (pure []) (pure [] : Generation σ (List (Part α))) (c.WalksParts path [] []) := by
  refine records_pure ⟨c.justified_nil, ?_⟩
  intro results success
  obtain rfl := Except.ok.inj success
  exact .nil path

theorem records_cons {path : Path} {seg : Segment} {n : Node} {sites : List Site}
    {literals : List Node} {g' : Generation (σ × List (Call α)) (Option (Part α))}
    {g : Generation σ (Option (Part α))} {f' : Generation (σ × List (Call α)) (List (Part α))}
    {f : Generation σ (List (Part α))} (first : Records g' g (c.WalksAt (path ++ [seg]) n))
    (rest : Records f' f (c.WalksParts path sites literals)) :
    Records (do let r ← g'; let rs ← f'; pure (r.toList ++ rs))
      (do let r ← g; let rs ← f; pure (r.toList ++ rs))
      (c.WalksParts path (n.postorderAt (path ++ [seg]) ++ sites)
        ((if Site.isCalled ⟨path ++ [seg], n⟩ then [] else [n]) ++ literals)) := by
  refine records_bind first ?_ ?_
  · rintro e new ⟨justified, _⟩
    exact ⟨justified, fun _ success => by cases success⟩
  · rintro part new ⟨justified, walked⟩
    refine records_map rest ?_
    rintro results more ⟨others, walkedParts⟩
    refine ⟨justified.append others, ?_⟩
    intro together success
    cases results with
    | error e => cases success
    | ok results =>
      obtain rfl := Except.ok.inj success
      exact .cons (walked part rfl) (walkedParts results rfl)

theorem records_items {ns : List Node}
    (each : ∀ n ∈ ns, ∀ path parent, path ≠ [] →
      Records (n.foldAt c.recording.step path parent) (n.foldAt c.step path parent) (c.WalksAt path n))
    (path : Path) (parent : Node) (i : Nat) :
    Records (Node.foldItems c.recording.step path parent i ns) (Node.foldItems c.step path parent i ns)
      (c.WalksParts path (Node.postorderItems path i ns) (ns.filter (!·.isMapping))) := by
  induction ns generalizing i with
  | nil => exact records_nothing path
  | cons n ns ih =>
    have first := each n List.mem_cons_self (path ++ [Segment.index i]) (some parent) (by simp)
    have rest := ih (fun n member => each n (List.mem_cons_of_mem _ member)) (i + 1)
    have both := records_cons first rest
    rw [Site.isCalled_index] at both
    rw [Node.postorderItems_cons, Node.foldItems_cons, Node.foldItems_cons, List.filter_cons]
    cases mapping : n.isMapping with
    | true => simpa [mapping] using both
    | false => simpa [mapping] using both

theorem records_entries {es : List (String × Node)}
    (each : ∀ e ∈ es, ∀ path parent, path ≠ [] →
      Records (e.2.foldAt c.recording.step path parent) (e.2.foldAt c.step path parent)
        (c.WalksAt path e.2))
    (path : Path) (parent : Node) :
    Records (Node.foldEntries c.recording.step path parent es) (Node.foldEntries c.step path parent es)
      (c.WalksParts path (Node.postorderEntries path es) []) := by
  induction es with
  | nil => exact records_nothing path
  | cons e es ih =>
    obtain ⟨key, n⟩ := e
    have first := each (key, n) List.mem_cons_self (path ++ [Segment.key key]) (some parent) (by simp)
    have both := records_cons first (ih fun e member => each e (List.mem_cons_of_mem _ member))
    rw [Site.isCalled_key] at both
    exact both

theorem records_node {path : Path} {n : Node} (parent : Option Node)
    (root : path = [] → n.isMapping)
    (parts : Records (n.foldParts c.recording.step path) (n.foldParts c.step path)
      (c.WalksParts path (n.postorderParts path) n.literals)) :
    Records (n.foldAt c.recording.step path parent) (n.foldAt c.step path parent)
      (c.WalksAt path n) := by
  rw [Node.foldAt_eq, Node.foldAt_eq]
  refine records_bind parts ?_ ?_
  · rintro e new ⟨justified, _⟩
    exact ⟨justified, fun _ success => by cases success⟩
  · rintro results new ⟨justified, walked⟩
    have parts := walked results rfl
    refine (records_step (v := ⟨path, n, parent, results⟩) parts.literals_eq root).mono ?_
    exact fun r more stepped => stepped.walked parts justified

theorem records_foldAt (c : Compiler σ α β) (n : Node) (path : Path) (parent : Option Node)
    (root : path = [] → n.isMapping) :
    Records (n.foldAt c.recording.step path parent) (n.foldAt c.step path parent)
      (c.WalksAt path n) := by
  induction n using Node.induct generalizing path parent with
  | scalar v => exact records_node parent root (records_nothing path)
  | sequence ns ih =>
    refine records_node parent root (records_items ?_ path _ 0)
    exact fun n member path parent nonempty => ih n member path parent fun empty =>
      absurd empty nonempty
  | mapping es ih =>
    refine records_node parent root (records_entries ?_ path _)
    exact fun e member path parent nonempty => ih e member path parent fun empty =>
      absurd empty nonempty

end Walks

/-! ### Compilations -/

theorem records_generate (c : Compiler σ α β) (n : Node) :
    Records (c.recording.generate n) (c.generate n) fun _ new => c.Justified new := by
  rw [generate_eq, generate_eq]
  split
  · rename_i mapping
    refine records_map (records_foldAt c n [] none fun _ => mapping) ?_
    exact fun r new walks => walks.1
  · exact records_throw c.justified_nil

theorem recording_compile (c : Compiler σ α β) (n : Node) :
    c.recording.compile n = c.compile n := by
  obtain ⟨new, same, _⟩ := records_generate c n c.dialect.start []
  rw [compile_eq, compile_eq]
  have start : c.recording.dialect.start = (c.dialect.start, []) := rfl
  rw [start, same]
  cases ran : outcome (c.generate n) c.dialect.start with
  | mk generated s => cases generated <;> rfl

theorem calls_eq (c : Compiler σ α β) (n : Node) :
    c.calls n = (outcome (c.recording.generate n) c.recording.dialect.start).2.2 := by
  unfold calls run
  cases generated : outcome (c.recording.generate n) c.recording.dialect.start with
  | mk result s =>
    cases result with
    | error e => rw [runWith_of_error generated, replaceWith_reject]
    | ok a =>
      rw [runWith_of_ok generated]
      rfl

theorem calls_justified (c : Compiler σ α β) (n : Node) : c.Justified (c.calls n) := by
  obtain ⟨new, same, justified⟩ := records_generate c n c.dialect.start []
  have start : c.recording.dialect.start = (c.dialect.start, []) := rfl
  rw [calls_eq, start, same]
  exact justified

end Compiler

end FilterQuery
