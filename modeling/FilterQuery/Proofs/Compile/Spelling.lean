import FilterQuery.Proofs.Compile.Matching
import FilterQuery.Proofs.Document.DataPath
import FilterQuery.Proofs.Document.Spelling

/-!
# Compiling fields with a spelled out operator

A field with a scalar is compiled by the generator of `$eq`, and a spelled out one by that generator and
then by the one that joins entries, with a single artifact. Where joining a single artifact gives it back
(`Collapsing`), the two folds go side by side: at each pair of nodes both leave the same state and the same
artifact, or both fail for the same reason at the same data path (`SpelledOut.matches`).
-/

namespace FilterQuery

open Generation

/-- Errors of the same kind at the same field. -/
inductive CompileError.Alike : CompileError → CompileError → Prop
  | same (e : CompileError) : Alike e e
  | violation {v v' : Violation} (kind : v.kind = v'.kind) (data : v.dataPath = v'.dataPath) :
    Alike (.violation v) (.violation v')

namespace Compiler

open CompileError (Alike)

variable {σ α β : Type} {c : Compiler σ α β}

/-- What a spelled out field relies on. Comparisons read the path of a scalar for their errors only, and
joining a single comparison gives it back. What joins filters looks at their artifacts, and at the operand
for its errors only. -/
structure Collapsing (c : Compiler σ α β) : Prop where
  compares {path path' : Path} : path.data = path'.data → ∀ data v,
    Matches Alike Eq (c.eqGenerator ⟨.eq, path, data, .scalar v, [], []⟩)
      (c.eqGenerator ⟨.eq, path', data, .scalar v, [], []⟩)
  collapses {o : Operation α} {s t : σ} {r : Option α} : o.operator = .eq →
    Yields (c.eqGenerator o) s r t →
      ∃ a, r = some a ∧ ∀ path data n ns, c.andGenerator ⟨.and, path, data, n, [a], ns⟩ = pure (some a)
  joins {op : Operator} {g : Generator σ α} : c.dialect.generator? op = some g →
    op.isCombinator ∨ op = .not → ∀ path data n n' as ns ns',
      Matches Alike Eq (g ⟨op, path, data, n, as, ns⟩) (g ⟨op, path, data, n', as, ns'⟩)
  keeps (v : Violation) : c.dialect.reject v = none

/-! ### Steps -/

theorem matches_violate {R : Option (Part α) → Option (Part α) → Prop} (kind : ViolationKind)
    (n n' : Node) {path path' : Path} (same : path.data = path'.data) :
    Matches Alike R (violate kind n path : Generation σ (Option (Part α)))
      (violate kind n' path') :=
  matches_throw (.violation rfl same)

namespace Collapsing

variable (collapsing : c.Collapsing) {path : Path} {n n' : Node} {ps ps' : List (Part α)}
include collapsing

theorem invoke {op : Operator} {g : Generator σ α} (found : c.dialect.generator? op = some g)
    (joins : op.isCombinator ∨ op = .not) (data : Path) (parent parent' : Option Node)
    (same : SameParts ps ps') :
    Matches Alike SamePart (Compiler.invoke g op data ⟨path, n, parent, ps⟩)
      (Compiler.invoke g op data ⟨path, n', parent', ps'⟩) := by
  refine matches_map (R := Eq) ?_ fun r r' equal => by rw [equal, SamePart]
  have artifacts : ps'.filterMap Part.artifact? = ps.filterMap Part.artifact? := same.symm
  dsimp only
  rw [artifacts]
  exact collapsing.joins found joins path data n n' _ _ _

theorem invokeAnd (data : Path) (parent parent' : Option Node) (same : SameParts ps ps') :
    Matches Alike SamePart (c.invokeAnd data ⟨path, n, parent, ps⟩)
      (c.invokeAnd data ⟨path, n', parent', ps'⟩) :=
  collapsing.invoke c.generator?_and (.inl rfl) data parent parent' same

/-- The steps at a pair of nodes with parts, as long as those are no list of values. -/
theorem step (outside : path.OutsideValues) (parts : n.kind ≠ .scalar) (spelled : n.SpelledOut n')
    (parent parent' : Option Node) (same : SameParts ps ps') :
    Matches Alike SamePart (c.step ⟨path, n, parent, ps⟩) (c.step ⟨path, n', parent', ps'⟩) := by
  unfold Compiler.step
  dsimp only
  cases last : path.getLast? with
  | none => exact collapsing.invokeAnd [] parent parent' same
  | some seg =>
    cases seg with
    | index i =>
      dsimp only
      rw [← spelled.isMapping_eq]
      split
      · exact collapsing.invokeAnd path.data parent parent' same
      · exact matches_pure rfl
    | key key =>
      dsimp only
      unfold compileKey
      cases named : Operator.ofName? key with
      | some op =>
        dsimp only
        cases found : c.dialect.generator? op with
        | none => exact matches_violate .operatorNotSupported n n' rfl
        | some g =>
          have noValues : op.takesValues = false := by
            simpa [takesValuesAt, named] using outside key last
          refine matches_invokeChecked found
            (Language.operandViolation?_congr (op.accepts_sameShape spelled.sameShape) .rfl .rfl)
            (fun _ => .violation rfl rfl)
            fun accepted => collapsing.invoke found ?_ path.data parent parent' same
          cases n with
          | scalar v => exact absurd rfl parts
          | sequence ns =>
            rw [Operator.accepts_sequence, noValues, Bool.or_false, Bool.and_eq_true] at accepted
            exact .inl accepted.1
          | mapping es =>
            rw [Operator.accepts_mapping, beq_iff_eq] at accepted
            exact .inr accepted
      | none =>
        dsimp only
        split
        · exact matches_violate .operatorNotSupported n n' rfl
        · cases spelled with
          | scalar => exact absurd rfl parts
          | sequence items => exact matches_violate .operatorNotSupported _ _ rfl
          | mapping entries => exact collapsing.invokeAnd path.data parent parent' same

theorem compared {place place' : Path} (same : place.data = place'.data) (data : Path) (v : Value)
    (parent parent' : Option Node) :
    Matches Alike (fun p p' => p = p' ∧ ∃ a, p = some (.artifact a) ∧
        ∀ path data n ns, c.andGenerator ⟨.and, path, data, n, [a], ns⟩ = pure (some a))
      (c.invokeChecked c.eqGenerator .eq data ⟨place, .scalar v, parent, []⟩)
      (c.invokeChecked c.eqGenerator .eq data ⟨place', .scalar v, parent', []⟩) := by
  refine matches_invokeChecked c.generator?_eq rfl (fun _ => .violation rfl same) fun _ => ?_
  have compares := (collapsing.compares same data v).and_yields
    fun s r t yields => collapsing.collapses rfl yields
  refine matches_map compares fun r r' related => ?_
  obtain ⟨rfl, a, rfl, joined⟩ := related
  exact ⟨rfl, a, rfl, joined⟩

theorem equalTo (path : Path) {key : String} (field : isCommand key = false) (v : Value)
    (parent parent' : Option Node) :
    Matches Alike SamePart ((Node.scalar v).foldAt c.step (path ++ [Segment.key key]) parent)
      ((Node.equalTo v).foldAt c.step (path ++ [Segment.key key]) parent') := by
  have isEq := Operator.ofName?_name .eq
  let place : Path := path ++ [Segment.key key]
  let inner : Path := place ++ [Segment.key Operator.eq.name]
  have data : inner.data = place.data := Path.data_append_operator _ isEq
  have short : c.step ⟨place, .scalar v, parent, []⟩ =
      c.invokeChecked c.eqGenerator .eq place.data ⟨place, .scalar v, parent, []⟩ :=
    step_field path field (.scalar v) parent []
  have long (around : Option Node) : c.step ⟨inner, .scalar v, around, []⟩ =
      c.invokeChecked c.eqGenerator .eq place.data ⟨inner, .scalar v, around, []⟩ := by
    simp only [Compiler.step, inner, List.getLast?_concat, compileKey, isEq, c.generator?_eq]
    rw [← data]
  have spelled : (Node.equalTo v).foldAt c.step place parent' =
      c.step ⟨inner, .scalar v, some (Node.equalTo v), []⟩ >>= fun p =>
        c.step ⟨place, Node.equalTo v, parent', p.toList⟩ := by
    simp [Node.equalTo, Node.foldAt, Node.foldEntries, inner]
  change Matches Alike SamePart (c.step ⟨place, .scalar v, parent, []⟩)
    ((Node.equalTo v).foldAt c.step place parent')
  rw [spelled, short, long, ← bind_pure (c.invokeChecked _ _ _ ⟨place, _, _, _⟩)]
  refine matches_bind (collapsing.compared data.symm place.data v parent _) fun p p' related => ?_
  obtain ⟨rfl, a, rfl, joined⟩ := related
  have outer : c.step ⟨place, Node.equalTo v, parent', [.artifact a]⟩ =
      c.invokeAnd place.data ⟨place, Node.equalTo v, parent', [.artifact a]⟩ :=
    step_field path field (Node.equalTo v) parent' [.artifact a]
  have gives : c.invokeAnd place.data ⟨place, Node.equalTo v, parent', [.artifact a]⟩ =
      pure (some (.artifact a)) :=
    congrArg (Option.map Part.artifact <$> ·) (joined place place.data (Node.equalTo v) [])
  change Matches Alike SamePart _ (c.step ⟨place, Node.equalTo v, parent', [.artifact a]⟩)
  rw [outer, gives]
  exact matches_pure rfl

end Collapsing

/-! ### Folds -/

mutual

theorem SpelledOut.matches (collapsing : c.Collapsing) : ∀ {n n' : Node}, n.SpelledOut n' →
    ∀ {path : Path}, path.OutsideValues → ∀ parent parent' : Option Node,
      Matches Alike SamePart (n.foldAt c.step path parent) (n'.foldAt c.step path parent')
  | _, _, .scalar, path, _, parent, parent' => by
    rw [foldAt_parent _ path parent parent']
    exact matches_refl (R := SamePart) .same (fun _ => rfl) _
  | _, _, .sequence items, path, outside, parent, parent' =>
    matches_bind (ItemsSpelledOut.matches collapsing items path _ _ 0) fun _ _ same =>
      collapsing.step outside (fun same => by cases same) (.sequence items) parent parent' same
  | _, _, .mapping entries, path, outside, parent, parent' =>
    matches_bind (EntriesSpelledOut.matches collapsing entries path _ _) fun _ _ same =>
      collapsing.step outside (fun same => by cases same) (.mapping entries) parent parent' same

theorem ItemsSpelledOut.matches (collapsing : c.Collapsing) : ∀ {ns ns' : List Node},
    Node.ItemsSpelledOut ns ns' → ∀ (path : Path) (parent parent' : Node) (i : Nat),
      Matches Alike SameParts (Node.foldItems c.step path parent i ns)
        (Node.foldItems c.step path parent' i ns')
  | _, _, .nil, _, _, _, _ => matches_pure rfl
  | _, _, .cons first rest, path, parent, parent', i =>
    matches_cons (SpelledOut.matches collapsing first (Path.outsideValues_index path i) _ _)
      (ItemsSpelledOut.matches collapsing rest path parent parent' (i + 1))

theorem EntriesSpelledOut.matches (collapsing : c.Collapsing) : ∀ {es es' : List (String × Node)},
    Node.EntriesSpelledOut es es' → ∀ (path : Path) (parent parent' : Node),
      Matches Alike SameParts (Node.foldEntries c.step path parent es)
        (Node.foldEntries c.step path parent' es')
  | _, _, .nil, _, _, _ => matches_pure rfl
  | _, _, .same (e := (key, n)) rest, path, parent, parent' => by
    refine matches_cons ?_ (EntriesSpelledOut.matches collapsing rest path parent parent')
    rw [foldAt_parent n _ (some parent) (some parent')]
    exact matches_refl (R := SamePart) .same (fun _ => rfl) _
  | _, _, .inside outside first rest, path, parent, parent' =>
    matches_cons (SpelledOut.matches collapsing first (Path.outsideValues_key path outside) _ _)
      (EntriesSpelledOut.matches collapsing rest path parent parent')
  | _, _, .equals field rest, path, parent, parent' =>
    matches_cons (collapsing.equalTo path field _ _ _)
      (EntriesSpelledOut.matches collapsing rest path parent parent')

end

/-! ### Compilations -/

/-- The compilations have the same result, or they fail alike. -/
inductive SameResult : Except CompileError β → Except CompileError β → Prop
  | ok (b : β) : SameResult (.ok b) (.ok b)
  | error {e e' : CompileError} (alike : e.Alike e') : SameResult (.error e) (.error e')

theorem sameResult_refl (r : Except CompileError β) : SameResult r r := by
  cases r with
  | ok b => exact .ok b
  | error e => exact .error (.same e)

theorem SameResult.of_ok {r r' : Except CompileError β} {b : β} (same : SameResult r r')
    (accepted : r = .ok b) : r' = .ok b := by
  cases same with
  | ok _ => exact accepted
  | error _ => cases accepted

theorem SameResult.of_error {r r' : Except CompileError β} {e : CompileError} (same : SameResult r r')
    (refused : r = .error e) : ∃ e', r' = .error e' ∧ e.Alike e' := by
  cases same with
  | ok _ => cases refused
  | @error _ e' alike =>
    cases refused
    exact ⟨e', rfl, alike⟩

theorem Collapsing.replaced_eq (collapsing : c.Collapsing) (e : CompileError) : c.replaced e = e := by
  unfold replaced
  cases e.violation? with
  | none => rfl
  | some v => simp [collapsing.keeps]

theorem Collapsing.generate (collapsing : c.Collapsing) {q q' : Node} (spelled : q.SpelledOut q') :
    Matches Alike Eq (c.generate q) (c.generate q') := by
  rw [generate_eq, generate_eq, ← spelled.isMapping_eq]
  split
  · refine matches_bind (SpelledOut.matches collapsing spelled Path.outsideValues_nil none none)
      fun p p' same => matches_pure ?_
    rw [show p.bind Part.artifact? = p'.bind Part.artifact? from same]
  · exact matches_throw (.violation rfl rfl)

theorem Collapsing.compile (collapsing : c.Collapsing) {q q' : Node} (spelled : q.SpelledOut q') :
    SameResult (c.compile q) (c.compile q') := by
  rcases collapsing.generate spelled c.dialect.start with
    ⟨a, _, s, yields, yields', rfl⟩ | ⟨e, e', fails, fails', alike⟩
  · rw [compile_eq, compile_eq, yields, yields']
    exact sameResult_refl _
  · rw [compile_of_fails fails, compile_of_fails fails', collapsing.replaced_eq,
      collapsing.replaced_eq]
    exact .error alike

end Compiler

end FilterQuery
