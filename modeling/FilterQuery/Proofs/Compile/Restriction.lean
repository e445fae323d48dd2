import FilterQuery.Proofs.Compile.Calls
import FilterQuery.Proofs.Compile.Grammar
import FilterQuery.Proofs.Compile.Induction
import FilterQuery.Proofs.Compile.Traversal

/-!
# Restricted compilers

A compiler that lacks operators of another one, or takes shorter data paths only, and otherwise does the
same, compiles fewer documents, and those to the same results (`restricted_rejects_more`). What it lacks
shows at single nodes: `Language.exclusion?` says which. Up to the first such node in post-order the two
do the same, and there the restricted one stops.
-/

namespace FilterQuery

open Generation

/-- The rule of the first language that a node breaks, though it may be a node of the second one: its
operator is missing, or the data path of its operator, or of its field with a scalar, is too long. -/
def Language.exclusion? (K L : Language) (site : Site) : Option ViolationKind :=
  match site.path.getLast? with
  | some (.key key) =>
    match Operator.ofName? key with
    | some op =>
      if L.supports op ∧ ¬K.supports op then some .operatorNotSupported
      else if K.Within site.path.data then none
      else some .maxDataDepth
    | none =>
      if Compiler.isCommand key = false ∧ site.node.kind = .scalar ∧ ¬K.Within site.path.data then
        some .maxDataDepth
      else none
  | _ => none

def Language.exclusionAt? (K L : Language) (site : Site) : Option CompileError :=
  (K.exclusion? L site).map fun kind => .violation (.ofNode kind site.node site.path)

namespace Compiler

variable {σ α β γ : Type} {A B : Compiler σ α β}

/-- The first compiler is the second one with fewer operators and with shorter data paths only. -/
structure Restricts (A B : Compiler σ α β) : Prop where
  generators {op : Operator} {g : Generator σ α} :
    A.dialect.generator? op = some g → B.dialect.generator? op = some g
  depth : B.dialect.depth ≤ 0 ∨ 0 < A.dialect.depth ∧ A.dialect.depth ≤ B.dialect.depth
  start : A.dialect.start = B.dialect.start
  blank : A.dialect.blank = B.dialect.blank
  resolve : A.resolve = B.resolve
  keeps (v : Violation) : A.dialect.reject v = none

/-- The first step is the second one, unless there is an error to stop with. Then it never succeeds, and
fails with that error wherever the second one succeeds. -/
def Restrains (g g' : Generation σ γ) : Option CompileError → Prop
  | none => g = g'
  | some e => (∀ s a t, ¬Yields g s a t) ∧ ∀ s a t, Yields g' s a t → Fails g s e

theorem restrains_throw {g' : Generation σ γ} {e e' : CompileError}
    (same : ∀ s a t, Yields g' s a t → e = e') : Restrains (throw e) g' (some e') := by
  refine ⟨fun s a t => yields_throw, fun s a t yields => ?_⟩
  rw [same s a t yields]
  exact fails_throw e' s

/-- A sequence of steps stops with the first error of its steps. -/
theorem restrains_sequential (error? : Site → Option CompileError) :
    Relation.Sequential (σ := σ) (τ := σ) fun sites g g' =>
      Restrains g g' (sites.findSome? error?) where
  pure _ := rfl
  bind {_ _ first rest g g' f f'} here behind := by
    rw [List.findSome?_append]
    cases stop : first.findSome? error? with
    | some e =>
      rw [stop] at here
      obtain ⟨never, fails⟩ := here
      refine ⟨fun s b u yields => ?_, fun s b u yields => ?_⟩
      · obtain ⟨a, t, earlier, _⟩ := yields_bind.mp yields
        exact never s a t earlier
      · obtain ⟨a, t, earlier, _⟩ := yields_bind.mp yields
        exact fails_bind (fails s a t earlier)
    | none =>
      rw [stop] at here
      obtain rfl : g = g' := here
      cases later : rest.findSome? error? with
      | none =>
        rw [later] at behind
        exact congrArg (g >>= ·) (funext behind)
      | some e =>
        rw [later] at behind
        refine ⟨fun s b u yields => ?_, fun s b u yields => ?_⟩
        · obtain ⟨a, t, _, yields⟩ := yields_bind.mp yields
          exact (behind a).1 t b u yields
        · obtain ⟨a, t, earlier, yields⟩ := yields_bind.mp yields
          exact fails_bind_of_yields earlier ((behind a).2 t b u yields)

/-! ### Steps of the compilers -/

theorem language_recording : A.recording.language = A.language := by
  simp [language, recording]

namespace Restricts

variable (restricts : A.Restricts B)
include restricts

theorem within {data : Path} (within : A.language.Within data) : B.language.Within data := by
  have depth := restricts.depth
  simp only [Language.Within, language] at within ⊢
  omega

theorem invokeAnd (data : Path) (v : Visit (Part α)) : A.invokeAnd data v = B.invokeAnd data v := by
  have same : A.andGenerator = B.andGenerator :=
    Option.some.inj ((restricts.generators A.generator?_and).symm.trans B.generator?_and)
  exact congrArg (fun g => invoke g .and data v) same

theorem invokeChecked {op : Operator} {g : Generator σ α}
    (found : A.dialect.generator? op = some g) (data : Path) (v : Visit (Part α)) :
    Restrains (A.invokeChecked g op data v) (B.invokeChecked g op data v)
      (if A.language.Within data then none
      else some (.violation (.ofNode .maxDataDepth v.node v.path))) := by
  have supported : A.language.supports op := by simp [language, found]
  have found' := restricts.generators found
  have supported' : B.language.supports op := by simp [language, found']
  split
  · rename_i within
    have rules : A.language.operandViolation? op data v.node =
        B.language.operandViolation? op data v.node := by
      simp [Language.operandViolation?, supported, supported', within, restricts.within within]
    have checks : A.check op data v = B.check op data v := by
      rw [check_eq A op data v supported, check_eq B op data v supported', rules]
    unfold Compiler.invokeChecked
    rw [checks]
    exact rfl
  · rename_i long
    obtain ⟨kind, broken⟩ : ∃ kind, A.language.operandViolation? op data v.node = some kind := by
      refine Option.ne_none_iff_exists'.mp fun clean => long ?_
      exact (Language.operandViolation?_eq_none_iff.mp clean).2.2.2
    have check : A.check op data v = some (.ofNode kind v.node v.path) := by
      rw [check_eq A op data v supported, broken]
      rfl
    have stops : A.invokeChecked g op data v = throw (.violation (.ofNode kind v.node v.path)) := by
      rw [Compiler.invokeChecked, check]
    rw [stops]
    refine restrains_throw fun s part t yields => ?_
    -- where the second compiler succeeds, the other rules are obeyed
    obtain ⟨accepted, onField, _⟩ := yields_invokeChecked found' yields
    have there : ¬(op.needsField ∧ data = []) := fun both => onField both.1 both.2
    have longest : A.language.operandViolation? op data v.node = some .maxDataDepth := by
      simp [Language.operandViolation?, supported, accepted, there, long]
    obtain rfl := Option.some.inj (broken.symm.trans longest)
    rfl

theorem compileField {key : String} (named : Operator.ofName? key = none)
    (field : isCommand key = false) {v : Visit (Part α)} (last : v.path.getLast? = some (.key key)) :
    Restrains (A.compileField v.path.data v) (B.compileField v.path.data v)
      (A.language.exclusionAt? B.language ⟨v.path, v.node⟩) := by
  obtain ⟨path, node, parent, children⟩ := v
  simp only [Language.exclusionAt?, Language.exclusion?, last, named, field, true_and]
  cases node with
  | mapping es => exact restricts.invokeAnd path.data _
  | sequence ns => exact rfl
  | scalar value =>
    have found := A.generator?_eq
    have same : A.eqGenerator = B.eqGenerator :=
      Option.some.inj ((restricts.generators found).symm.trans B.generator?_eq)
    have checked := restricts.invokeChecked found path.data ⟨path, .scalar value, parent, children⟩
    change Restrains (A.invokeChecked A.eqGenerator .eq path.data _)
      (B.invokeChecked B.eqGenerator .eq path.data _) _
    rw [← same]
    by_cases within : A.language.Within path.data
    · simpa [within] using checked
    · simpa [within, Node.kind] using checked

theorem compileKey {key : String} {v : Visit (Part α)} (last : v.path.getLast? = some (.key key)) :
    Restrains (A.compileKey key v.path.data v) (B.compileKey key v.path.data v)
      (A.language.exclusionAt? B.language ⟨v.path, v.node⟩) := by
  unfold Compiler.compileKey
  cases named : Operator.ofName? key with
  | none =>
    dsimp only
    cases field : isCommand key with
    | true =>
      simp only [Language.exclusionAt?, Language.exclusion?, last, named, field]
      exact rfl
    | false => exact restricts.compileField named field last
  | some op =>
    dsimp only
    simp only [Language.exclusionAt?, Language.exclusion?, last, named]
    cases found : A.dialect.generator? op with
    | some g =>
      rw [restricts.generators found]
      have supported : A.language.supports op := by simp [language, found]
      have checked := restricts.invokeChecked found v.path.data v
      by_cases within : A.language.Within v.path.data
      · simpa [supported, within] using checked
      · simpa [supported, within] using checked
    | none =>
      have missing : A.language.supports op = false := by simp [language, found]
      cases found' : B.dialect.generator? op with
      | some g =>
        have supported : B.language.supports op := by simp [language, found']
        simp only [missing, supported]
        exact restrains_throw fun _ _ _ _ => rfl
      | none =>
        have missing' : B.language.supports op = false := by simp [language, found']
        by_cases within : A.language.Within v.path.data
        · simp only [missing', within]
          exact rfl
        · simp only [missing', within]
          exact restrains_throw fun _ _ _ yields => absurd yields yields_throw

theorem step (v : Visit (Part α)) :
    Restrains (A.step v) (B.step v) (A.language.exclusionAt? B.language ⟨v.path, v.node⟩) := by
  unfold Compiler.step
  cases last : v.path.getLast? with
  | none =>
    simp only [Language.exclusionAt?, Language.exclusion?, last]
    exact restricts.invokeAnd [] v
  | some seg =>
    cases seg with
    | index i =>
      simp only [Language.exclusionAt?, Language.exclusion?, last, restricts.invokeAnd]
      exact rfl
    | key key => exact restricts.compileKey last

theorem generate {n : Node} (mapping : n.isMapping) :
    Restrains (A.generate n) (B.generate n)
      (n.postorder.findSome? (A.language.exclusionAt? B.language)) := by
  have sequential := restrains_sequential (σ := σ) (A.language.exclusionAt? B.language)
  have steps : ∀ v : Visit (Part α), Restrains (A.step v) (B.step v)
      ([⟨v.path, v.node⟩].findSome? (A.language.exclusionAt? B.language)) := by
    intro v
    rw [List.findSome?_singleton]
    exact restricts.step v
  have folds := Node.foldAt_related sequential steps n [] none
  rw [generate_eq, generate_eq, if_pos mapping, if_pos mapping, restricts.blank]
  have returned := sequential.bind folds fun part =>
    sequential.pure ((part.bind Part.artifact?).getD B.dialect.blank)
  rwa [List.append_nil] at returned

theorem recording : A.recording.Restricts B.recording where
  generators := by
    intro op g found
    obtain ⟨inner, registered, rfl⟩ := Option.map_eq_some_iff.mp found
    exact Option.map_eq_some_iff.mpr ⟨inner, restricts.generators registered, rfl⟩
  depth := restricts.depth
  start := congrArg (·, []) restricts.start
  blank := restricts.blank
  resolve := by
    funext a
    change unrecorded (A.resolve a) = unrecorded (B.resolve a)
    rw [restricts.resolve]
  keeps := restricts.keeps

theorem same_of_none {q : Node} (mapping : q.isMapping)
    (none : q.postorder.findSome? (A.language.exclusionAt? B.language) = none) :
    A.generate q = B.generate q ∧ A.calls q = B.calls q := by
  have generated := restricts.generate mapping
  have recorded := restricts.recording.generate mapping
  rw [none] at generated
  rw [language_recording, language_recording, none] at recorded
  have recorded : A.recording.generate q = B.recording.generate q := recorded
  exact ⟨generated, by rw [calls_eq, calls_eq, recorded, restricts.recording.start]⟩

end Restricts

/-- If the restricted compiler compiles a document, then so does the other one, with the same calls of
generators and to the same result. If only the other one compiles it, then the restricted one reports the
first node in post-order that it excludes. -/
theorem restricted_rejects_more (restricts : A.Restricts B) (q : Node) :
    (∀ r, A.compile q = .ok r → B.compile q = .ok r ∧ B.calls q = A.calls q) ∧
    ∀ r e, B.compile q = .ok r → A.compile q = .error e →
      ∃ before site after kind, q.postorder = before ++ site :: after ∧
        (∀ s ∈ before, A.language.exclusion? B.language s = none) ∧
        A.language.exclusion? B.language site = some kind ∧
        e = .violation (.ofNode kind site.node site.path) := by
  have isMapping {c : Compiler σ α β} {r : β} (accepted : c.compile q = .ok r) : q.isMapping := by
    obtain ⟨a, s, t, generated, _⟩ := compile_eq_ok_iff.mp accepted
    by_contra other
    rw [generate_eq, if_neg other] at generated
    exact yields_throw generated
  constructor
  · intro r accepted
    have mapping := isMapping accepted
    obtain ⟨a, s, t, generated, resolved⟩ := compile_eq_ok_iff.mp accepted
    cases stop : q.postorder.findSome? (A.language.exclusionAt? B.language) with
    | none =>
      obtain ⟨same, calls⟩ := restricts.same_of_none mapping stop
      rw [same, restricts.start] at generated
      rw [restricts.resolve] at resolved
      exact ⟨compile_eq_ok_iff.mpr ⟨a, s, t, generated, resolved⟩, calls.symm⟩
    | some e =>
      have restrained := restricts.generate mapping
      rw [stop] at restrained
      exact absurd generated (restrained.1 _ _ _)
  · intro r e accepted refused
    have mapping := isMapping accepted
    obtain ⟨a, s, t, generated, resolved⟩ := compile_eq_ok_iff.mp accepted
    cases stop : q.postorder.findSome? (A.language.exclusionAt? B.language) with
    | none =>
      obtain ⟨same, _⟩ := restricts.same_of_none mapping stop
      rw [← same, ← restricts.start] at generated
      rw [← restricts.resolve] at resolved
      rw [compile_eq_ok_iff.mpr ⟨a, s, t, generated, resolved⟩] at refused
      cases refused
    | some stopped =>
      have restrained := restricts.generate mapping
      rw [stop] at restrained
      rw [← restricts.start] at generated
      have reported := compile_of_fails (restrained.2 _ _ _ generated)
      obtain ⟨before, site, after, split, found, clean⟩ := List.findSome?_eq_some_iff.mp stop
      obtain ⟨kind, excluded, rfl⟩ := Option.map_eq_some_iff.mp found
      refine ⟨before, site, after, kind, split, fun s member => ?_, excluded, ?_⟩
      · exact Option.map_eq_none_iff.mp (clean s member)
      · rw [reported] at refused
        simpa [replaced, CompileError.violation?, restricts.keeps] using refused.symm

/-- The tracing compiler for filters on fields at the top, without disjunctions. -/
def flatTracing : Compiler Trace String String where
  dialect := Trace.dialect String "string" { unsupported := [.or], depth := 1 } (some Trace.resolve)
  resolve := Trace.resolve
  andSupported := rfl
  eqSupported := rfl

theorem flatTracing_restricts : flatTracing.Restricts tracing where
  generators := by
    intro op g found
    cases op with
    | or => cases found
    | _ => exact found
  depth := .inl (Int.le_refl 0)
  start := rfl
  blank := rfl
  resolve := rfl
  keeps _ := rfl

/-- A field at the top is compiled by both, and a disjunction of it by one of them. -/
theorem restricted_rejects_more_flat :
    flatTracing.Restricts tracing ∧
    (let field : Node := .mapping [("a", .scalar .null)]
    ∃ r, tracing.compile field = .ok r ∧ tracing.calls field = flatTracing.calls field) ∧
    (let disjunction : Node := .mapping [("$or", .sequence [.mapping [("a", .scalar .null)]])]
    ∃ site ∈ disjunction.postorder, ∃ kind,
      flatTracing.language.exclusion? tracing.language site = some kind ∧
      flatTracing.compile disjunction = .error (.violation (.ofNode kind site.node site.path))) := by
  refine ⟨flatTracing_restricts, ?_, ?_⟩
  · have accepted : flatTracing.compile (.mapping [("a", .scalar .null)]) = .ok _ := rfl
    exact ⟨_, (restricted_rejects_more flatTracing_restricts _).1 _ accepted⟩
  · have refused : flatTracing.compile
        (.mapping [("$or", .sequence [.mapping [("a", .scalar .null)]])]) = .error _ := rfl
    obtain ⟨before, site, after, kind, split, _, excluded, reported⟩ :=
      (restricted_rejects_more flatTracing_restricts _).2 _ _ rfl refused
    exact ⟨site, by simp [split], kind, excluded, refused.trans (congrArg _ reported)⟩

end Compiler

end FilterQuery
