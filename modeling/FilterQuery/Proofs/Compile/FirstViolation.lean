import FilterQuery.Proofs.Compile.Traversal
import FilterQuery.Proofs.Document.DataPath

/-!
# The first violation

Whether a node breaks a rule depends on its path and the node alone: not on the artifacts of its
children, and not on the state. Generators may refuse operands as well; where that too depends on the
operand alone, a compilation stops at the first node in post-order that breaks a rule or is refused, and
succeeds if there is none (`Refuses.generate_decides`).
-/

namespace FilterQuery

namespace Generation

variable {σ α β : Type}

/-- From every state, the step fails with the given error, and succeeds if none is given. -/
def Decides (g : Generation σ α) : Option CompileError → Prop
  | some e => ∀ s, Fails g s e
  | none => ∀ s, ∃ a t, Yields g s a t

theorem decides_pure (a : α) : Decides (pure a : Generation σ α) none :=
  fun s => ⟨a, s, yields_pure.mpr ⟨rfl, rfl⟩⟩

theorem decides_throw (e : CompileError) : Decides (throw e : Generation σ α) (some e) :=
  fails_throw e

theorem decides_bind {g : Generation σ α} {f : α → Generation σ β} {first rest : Option CompileError}
    (hg : Decides g first) (hf : ∀ a, Decides (f a) rest) : Decides (g >>= f) (first.or rest) := by
  cases first with
  | some e => exact fun s => fails_bind (hg s)
  | none =>
    cases rest with
    | some e =>
      intro s
      obtain ⟨a, t, yields⟩ := hg s
      exact fails_bind_of_yields yields (hf a t)
    | none =>
      intro s
      obtain ⟨a, t, yields⟩ := hg s
      obtain ⟨b, u, further⟩ := hf a t
      exact ⟨b, u, yields_bind.mpr ⟨a, t, yields, further⟩⟩

theorem decides_map {g : Generation σ α} {f : α → β} {first : Option CompileError}
    (hg : Decides g first) : Decides (f <$> g) first := by
  rw [map_eq_pure_bind]
  simpa using decides_bind hg fun a => decides_pure (f a)

end Generation

open Generation

namespace Node

variable {σ ρ : Type} {step : Visit ρ → Generation σ (Option ρ)} {broken : Site → Option CompileError}

theorem decides_sequential (broken : Site → Option CompileError) :
    Relation.Sequential (σ := σ) (τ := σ) fun sites g _ => Decides g (sites.findSome? broken) where
  pure a := decides_pure a
  bind here behind := by
    rw [List.findSome?_append]
    exact decides_bind here behind

/-- A fold whose steps fail at the broken nodes stops at the first of these in post-order. -/
theorem foldAt_decides (broken : Site → Option CompileError)
    (steps : ∀ v, Decides (step v) (broken ⟨v.path, v.node⟩)) (n : Node) (path : Path)
    (parent : Option Node) :
    Decides (foldAt step path parent n) ((postorderAt path n).findSome? broken) :=
  @foldAt_related σ σ ρ _ step step (decides_sequential broken) (fun v => by simpa using steps v) n path
    parent

end Node

namespace Operator

theorem isCommand_name (op : Operator) : Compiler.isCommand op.name = true := by
  cases op <;> decide

theorem ofName?_of_field {key : String} (field : Compiler.isCommand key = false) :
    ofName? key = none := by
  cases named : ofName? key with
  | none => rfl
  | some op =>
    rw [ofName?_eq_some_iff.mp named, isCommand_name] at field
    cases field

theorem not_isCombinator_of_takesValues {op : Operator} (list : op.takesValues) :
    op.isCombinator = false := by
  cases op <;> first | rfl | cases list

theorem not_takesValues_of_isCombinator {op : Operator} (combinator : op.isCombinator) :
    op.takesValues = false := by
  cases op <;> first | rfl | cases combinator

def takesScalar (op : Operator) : Bool := !op.isCombinator && !op.takesValues && op != .not

theorem takesScalar_of_accepts {op : Operator} {v : Value} (h : op.accepts (.scalar v)) :
    op.takesScalar := by
  cases op <;> first | rfl | cases h

theorem accepts_sequence (op : Operator) (ns : List Node) :
    op.accepts (.sequence ns) = (op.isCombinator && ns.all Node.isMapping || op.takesValues) := by
  cases op <;> first | rfl | exact (Bool.or_false _).symm

theorem accepts_mapping (op : Operator) (es : List (String × Node)) :
    op.accepts (.mapping es) = (op == .not) := by
  cases op <;> rfl

end Operator

/-- What a dialect understands: its operators, and how long data paths may be. -/
structure Language where
  supports : Operator → Bool
  /-- The greatest length of a data path; there is no limit if it is not positive. -/
  depth : Int

namespace Language

def Within (L : Language) (data : Path) : Prop := L.depth ≤ 0 ∨ (data.length : Int) ≤ L.depth

instance (L : Language) (data : Path) : Decidable (L.Within data) :=
  inferInstanceAs (Decidable (_ ∨ _))

/-- The rule that the operand of an operator breaks, where `data` is the operator's field. -/
def operandViolation? (L : Language) (op : Operator) (data : Path) (n : Node) :
    Option ViolationKind :=
  if ¬L.supports op then some .operatorNotSupported
  else if ¬op.accepts n then some .unexpectedValue
  else if op.needsField ∧ data = [] then some .propertyNotFound
  else if L.Within data then none
  else some .maxDataDepth

theorem operandViolation?_eq_none_iff {L : Language} {op : Operator} {data : Path} {n : Node} :
    L.operandViolation? op data n = none ↔
      L.supports op ∧ op.accepts n ∧ (op.needsField → data ≠ []) ∧ L.Within data := by
  unfold operandViolation?
  cases L.supports op <;> cases op.accepts n <;> cases op.needsField <;>
    by_cases empty : data = [] <;> simp [empty]

/-- The rule that the value of a field breaks, where `data` leads to the field. -/
def fieldViolation? (L : Language) (data : Path) : Node → Option ViolationKind
  | .mapping _ => none
  | .sequence _ => some .operatorNotSupported
  | .scalar _ => if L.Within data then none else some .maxDataDepth

/-- The rule that a node breaks, by the last segment of its path. -/
def violation? (L : Language) (site : Site) : Option ViolationKind :=
  match site.path.getLast? with
  | some (.key key) =>
    match Operator.ofName? key with
    | some op => L.operandViolation? op site.path.data site.node
    | none =>
      if Compiler.isCommand key then some .operatorNotSupported
      else L.fieldViolation? site.path.data site.node
  | _ => none

def violationAt? (L : Language) (site : Site) : Option Violation :=
  (L.violation? site).map fun kind => .ofNode kind site.node site.path

/-- The first violation of a document in post-order. A document that is not a mapping is refused
as a whole. -/
def firstViolation? (L : Language) (n : Node) : Option Violation :=
  if n.isMapping then n.postorder.findSome? L.violationAt?
  else some (.ofNode .unexpectedValue n [])

end Language

namespace Compiler

variable {σ α β : Type}

def language (c : Compiler σ α β) : Language where
  supports op := (c.dialect.generator? op).isSome
  depth := c.dialect.depth

/-- The generators of a compiler succeed, or drop their operation, and so does its last step. -/
structure Total (c : Compiler σ α β) : Prop where
  generates {op : Operator} {g : Generator σ α} :
    c.dialect.generator? op = some g → ∀ o, Decides (g o) none
  resolves (a : α) : Decides (c.resolve a) none

theorem check_eq (c : Compiler σ α β) (op : Operator) (data : Path) (v : Visit (Part α))
    (supported : c.language.supports op) :
    c.check op data v =
      (c.language.operandViolation? op data v.node).map fun kind => .ofNode kind v.node v.path := by
  have within : (0 < c.dialect.depth ∧ c.dialect.depth < data.length) ↔
      ¬c.language.Within data := by
    simp only [Language.Within, language]
    omega
  simp only [check, Operator.violation?, Language.operandViolation?, within, supported]
  cases op.accepts v.node with
  | false => rfl
  | true =>
    cases op.needsField with
    | false => by_cases h : c.language.Within data <;> simp [h]
    | true =>
      cases data with
      | nil => rfl
      | cons seg rest => by_cases h : c.language.Within (seg :: rest) <;> simp [h]

/-- The generators of a compiler succeed, drop their operation, or refuse it for its operand, and the
last step succeeds. -/
structure Refuses (c : Compiler σ α β) (refusal? : Operator → Path → Node → Option CompileError) :
    Prop where
  generates {op : Operator} {g : Generator σ α} :
    c.dialect.generator? op = some g →
      ∀ o, o.operator = op → Decides (g o) (refusal? op o.path o.operand)
  resolves (a : α) : Decides (c.resolve a) none

theorem Total.refuses {c : Compiler σ α β} (total : c.Total) : c.Refuses fun _ _ _ => none where
  generates found o _ := total.generates found o
  resolves := total.resolves

/-- The operator that a field with the node is compiled as. -/
def fieldOperator : Node → Operator
  | .mapping _ => .and
  | _ => .eq

/-- The operator whose generator is called for a node that breaks no rule. -/
def operatorAt? (site : Site) : Option Operator :=
  match site.path.getLast? with
  | none => some .and
  | some (.index _) => if site.node.isMapping then some .and else none
  | some (.key key) => some ((Operator.ofName? key).getD (fieldOperator site.node))

def refusalAt? (refusal? : Operator → Path → Node → Option CompileError) (site : Site) :
    Option CompileError :=
  (operatorAt? site).bind fun op => refusal? op site.path site.node

/-- The error at a node: that it breaks a rule, or else that it is refused. -/
def errorAt? (c : Compiler σ α β) (refusal? : Operator → Path → Node → Option CompileError)
    (site : Site) : Option CompileError :=
  ((c.language.violationAt? site).map .violation).or (refusalAt? refusal? site)

namespace Refuses

variable {c : Compiler σ α β} {refusal? : Operator → Path → Node → Option CompileError}

theorem invoke {g : Generator σ α} {op : Operator} (refuses : c.Refuses refusal?)
    (found : c.dialect.generator? op = some g) (data : Path) (v : Visit (Part α)) :
    Decides (Compiler.invoke g op data v) (refusal? op v.path v.node) :=
  decides_map (refuses.generates found _ rfl)

theorem invokeAnd (refuses : c.Refuses refusal?) (data : Path) (v : Visit (Part α)) :
    Decides (c.invokeAnd data v) (refusal? .and v.path v.node) :=
  refuses.invoke (Option.some_get c.andSupported).symm data v

theorem invokeChecked (refuses : c.Refuses refusal?) {op : Operator} {g : Generator σ α}
    (found : c.dialect.generator? op = some g) (data : Path) (v : Visit (Part α)) :
    Decides (c.invokeChecked g op data v)
      ((((c.language.operandViolation? op data v.node).map
        fun kind => .ofNode kind v.node v.path).map .violation).or (refusal? op v.path v.node)) := by
  have supported : c.language.supports op := by simp [language, found]
  rw [← check_eq c op data v supported, Compiler.invokeChecked]
  split
  · rename_i violation broken
    rw [broken]
    exact decides_throw _
  · rename_i clean
    rw [clean]
    exact refuses.invoke found data v

theorem compileField (refuses : c.Refuses refusal?) {data : Path} (nonempty : data ≠ [])
    (v : Visit (Part α)) :
    Decides (c.compileField data v)
      ((((c.language.fieldViolation? data v.node).map
        fun kind => .ofNode kind v.node v.path).map .violation).or
          (refusal? (fieldOperator v.node) v.path v.node)) := by
  obtain ⟨path, node, parent, children⟩ := v
  cases node with
  | mapping es => exact refuses.invokeAnd data _
  | sequence ns => exact decides_throw _
  | scalar value =>
    have checked := refuses.invokeChecked (Option.some_get c.eqSupported).symm data
      ⟨path, .scalar value, parent, children⟩
    have supported : c.language.supports .eq := c.eqSupported
    -- of the rules for `$eq`, a field with a scalar can only break the one on the length
    have same : c.language.operandViolation? .eq data (.scalar value) =
        c.language.fieldViolation? data (.scalar value) := by
      have accepted : Operator.eq.accepts (.scalar value) = true := rfl
      simp [Language.operandViolation?, Language.fieldViolation?, supported, nonempty, accepted]
    rw [same] at checked
    exact checked

theorem step (refuses : c.Refuses refusal?) (v : Visit (Part α)) :
    Decides (c.step v) (c.errorAt? refusal? ⟨v.path, v.node⟩) := by
  unfold Compiler.step errorAt? refusalAt? operatorAt? Language.violationAt? Language.violation?
  cases last : v.path.getLast? with
  | none => exact refuses.invokeAnd [] v
  | some seg =>
    cases seg with
    | index i =>
      dsimp only
      split
      · exact refuses.invokeAnd _ v
      · exact decides_pure _
    | key key =>
      dsimp only
      unfold compileKey
      cases named : Operator.ofName? key with
      | some op =>
        dsimp only
        cases found : c.dialect.generator? op with
        | some g => exact refuses.invokeChecked found _ v
        | none =>
          have missing : c.language.supports op = false := by simp [language, found]
          simp only [Language.operandViolation?, missing]
          exact decides_throw _
      | none =>
        dsimp only
        split
        · exact decides_throw _
        -- the key itself is part of the data path, which therefore is not empty
        · refine refuses.compileField ?_ v
          obtain ⟨before, path⟩ := List.getLast?_eq_some_iff.mp last
          rw [path, Path.data_append_field before named]
          simp

/-- A compilation stops at the first node with an error, and succeeds if there is none. -/
theorem generate_decides (refuses : c.Refuses refusal?) (n : Node) :
    Decides (c.generate n)
      (if n.isMapping then n.postorder.findSome? (c.errorAt? refusal?)
      else some (.violation (.ofNode .unexpectedValue n []))) := by
  rw [generate_eq]
  split
  · exact decides_map (Node.foldAt_decides _ refuses.step n [] none)
  · exact decides_throw _

end Refuses

theorem generate_decides {c : Compiler σ α β} (total : c.Total) (n : Node) :
    Decides (c.generate n) ((c.language.firstViolation? n).map .violation) := by
  have decided := total.refuses.generate_decides n
  have violations : c.errorAt? (fun _ _ _ => none) =
      fun site => (c.language.violationAt? site).map .violation := by
    funext site
    simp [errorAt?, refusalAt?]
  rw [violations] at decided
  unfold Language.firstViolation?
  split
  · rename_i mapping
    rw [if_pos mapping] at decided
    rwa [Node.postorder, List.map_findSome?]
  · rename_i other
    rwa [if_neg other] at decided

end Compiler

end FilterQuery
