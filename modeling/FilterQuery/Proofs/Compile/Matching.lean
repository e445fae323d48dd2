import FilterQuery.Proofs.Compile.Induction

/-!
# Compilations side by side

Two steps match if from each state both succeed, with related values and in the same state, or both fail
with related errors. A document that is written in two ways is compiled by two folds, which are compared
one pair of nodes at a time.
-/

namespace FilterQuery

namespace Generation

variable {σ α α' β β' : Type}

/-- From each state both steps succeed, with related values and in the same state, or both fail, with
related errors. -/
def Matches (E : CompileError → CompileError → Prop) (R : α → α' → Prop) (g : Generation σ α)
    (g' : Generation σ α') : Prop :=
  ∀ s, (∃ a a' t, Yields g s a t ∧ Yields g' s a' t ∧ R a a') ∨
    ∃ e e', Fails g s e ∧ Fails g' s e' ∧ E e e'

variable {E : CompileError → CompileError → Prop} {R : α → α' → Prop} {S : β → β' → Prop}

theorem matches_pure {a : α} {a' : α'} (related : R a a') :
    Matches E R (pure a : Generation σ α) (pure a') :=
  fun s => .inl ⟨a, a', s, yields_pure.mpr ⟨rfl, rfl⟩, yields_pure.mpr ⟨rfl, rfl⟩, related⟩

theorem matches_throw {e e' : CompileError} (alike : E e e') :
    Matches E R (throw e : Generation σ α) (throw e') :=
  fun s => .inr ⟨e, e', fails_throw e s, fails_throw e' s, alike⟩

theorem matches_refl {R : α → α → Prop} (errors : ∀ e, E e e) (values : ∀ a, R a a)
    (g : Generation σ α) : Matches E R g g := by
  intro s
  cases run : outcome g s with
  | mk result t =>
    cases result with
    | ok a => exact .inl ⟨a, a, t, run, run, values a⟩
    | error e => exact .inr ⟨e, e, ⟨t, run⟩, ⟨t, run⟩, errors e⟩

theorem matches_bind {g : Generation σ α} {g' : Generation σ α'} {f : α → Generation σ β}
    {f' : α' → Generation σ β'} (first : Matches E R g g')
    (rest : ∀ a a', R a a' → Matches E S (f a) (f' a')) : Matches E S (g >>= f) (g' >>= f') := by
  intro s
  rcases first s with ⟨a, a', t, yields, yields', related⟩ | ⟨e, e', fails, fails', alike⟩
  · rcases rest a a' related t with ⟨b, b', u, after, after', further⟩ | ⟨e, e', fails, fails', alike⟩
    · exact .inl ⟨b, b', u, yields_bind.mpr ⟨a, t, yields, after⟩,
        yields_bind.mpr ⟨a', t, yields', after'⟩, further⟩
    · exact .inr ⟨e, e', fails_bind_of_yields yields fails, fails_bind_of_yields yields' fails', alike⟩
  · exact .inr ⟨e, e', fails_bind fails, fails_bind fails', alike⟩

theorem matches_map {g : Generation σ α} {g' : Generation σ α'} {f : α → β} {f' : α' → β'}
    (first : Matches E R g g') (related : ∀ a a', R a a' → S (f a) (f' a')) :
    Matches E S (f <$> g) (f' <$> g') := by
  rw [map_eq_pure_bind, map_eq_pure_bind]
  exact matches_bind first fun a a' h => matches_pure (related a a' h)

theorem Matches.and_yields {P : α → Prop} {g : Generation σ α} {g' : Generation σ α'}
    (matched : Matches E R g g') (yields : ∀ s a t, Yields g s a t → P a) :
    Matches E (fun a a' => R a a' ∧ P a) g g' := by
  intro s
  rcases matched s with ⟨a, a', t, here, there, related⟩ | failed
  · exact .inl ⟨a, a', t, here, there, related, yields s a t here⟩
  · exact .inr failed

end Generation

open Generation

theorem Language.operandViolation?_congr {L : Language} {op : Operator} {data data' : Path}
    {n n' : Node} (accepts : op.accepts n = op.accepts n') (field : data = [] ↔ data' = [])
    (within : L.Within data ↔ L.Within data') :
    L.operandViolation? op data n = L.operandViolation? op data' n' := by
  simp only [operandViolation?, accepts, field, within]

namespace Compiler

variable {σ α β : Type} {c : Compiler σ α β} {E : CompileError → CompileError → Prop}

/-! ### Parts -/

/-- The parts have the same artifact, or none. -/
def SamePart (p p' : Option (Part α)) : Prop := p.bind Part.artifact? = p'.bind Part.artifact?

theorem SamePart.eq_artifact {a : α} {p : Option (Part α)} (same : SamePart (some (.artifact a)) p) :
    p = some (.artifact a) := by
  cases p with
  | none => cases same
  | some part =>
    cases part with
    | literal n => cases same
    | artifact b =>
      obtain rfl : a = b := Option.some.inj same
      rfl

def SameParts (ps ps' : List (Part α)) : Prop :=
  ps.filterMap Part.artifact? = ps'.filterMap Part.artifact?

theorem filterMap_artifact?_toList (p : Option (Part α)) :
    p.toList.filterMap Part.artifact? = (p.bind Part.artifact?).toList := by
  cases p with
  | none => rfl
  | some part => cases part <;> rfl

theorem matches_cons {g g' : Generation σ (Option (Part α))} {f f' : Generation σ (List (Part α))}
    (first : Matches E SamePart g g') (rest : Matches E SameParts f f') :
    Matches E SameParts (do let p ← g; let ps ← f; pure (p.toList ++ ps))
      (do let p ← g'; let ps ← f'; pure (p.toList ++ ps)) := by
  refine matches_bind first fun p p' same => matches_bind rest fun ps ps' sames => matches_pure ?_
  rw [SameParts, List.filterMap_append, List.filterMap_append, filterMap_artifact?_toList,
    filterMap_artifact?_toList, same, sames]

/-! ### Steps -/

theorem matches_invokeChecked {R : Option (Part α) → Option (Part α) → Prop} {g : Generator σ α}
    {op : Operator} (found : c.dialect.generator? op = some g) {data data' : Path}
    {v v' : Visit (Part α)} (rules : c.language.operandViolation? op data v.node =
      c.language.operandViolation? op data' v'.node)
    (refused : ∀ kind, E (.violation (.ofNode kind v.node v.path))
      (.violation (.ofNode kind v'.node v'.path)))
    (invoked : op.accepts v.node → Matches E R (invoke g op data v) (invoke g op data' v')) :
    Matches E R (c.invokeChecked g op data v) (c.invokeChecked g op data' v') := by
  have supported : c.language.supports op := by simp [language, found]
  unfold invokeChecked
  rw [check_eq c op data v supported, check_eq c op data' v' supported, ← rules]
  cases rule : c.language.operandViolation? op data v.node with
  | none => exact invoked (Language.operandViolation?_eq_none_iff.mp rule).2.1
  | some kind => exact matches_throw (refused kind)

theorem compileKey_field {key : String} (field : isCommand key = false) (data : Path)
    (v : Visit (Part α)) : c.compileKey key data v = c.compileField data v := by
  unfold compileKey
  rw [Operator.ofName?_of_field field, field]
  rfl

theorem step_field (path : Path) {key : String} (field : isCommand key = false) (n : Node)
    (parent : Option Node) (ps : List (Part α)) :
    c.step ⟨path ++ [Segment.key key], n, parent, ps⟩ =
      c.compileField (Path.data (path ++ [Segment.key key]))
        ⟨path ++ [Segment.key key], n, parent, ps⟩ := by
  unfold step
  dsimp only
  rw [List.getLast?_concat]
  exact compileKey_field field _ _

theorem foldAt_parent (n : Node) (path : Path) (parent parent' : Option Node) :
    n.foldAt c.step path parent = n.foldAt c.step path parent' := by
  rw [Node.foldAt_eq, Node.foldAt_eq]
  rfl

end Compiler

end FilterQuery
