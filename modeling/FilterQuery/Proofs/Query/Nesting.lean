import FilterQuery.Proofs.Compile.Matching
import FilterQuery.Proofs.Document.Nesting
import FilterQuery.Proofs.Query.FieldNames
import FilterQuery.Proofs.Query.Spelling

/-!
# Dotted keys and nested fields in predicates

Items are read at the parts of a dotted key, so a dotted key and the fields that it is taken apart into
are the same field of an item. The paths of the two documents differ in their lengths, but at each pair of
nodes they lead to the same field (`SameField`), and the mapping that is added joins a single condition.
-/

namespace FilterQuery.Predicate

open Generation Compiler Node

variable {ε : Type}

/-! ### The parts of keys -/

theorem fieldPath_append (P Q : Path) : fieldPath (P ++ Q) = fieldPath P ++ fieldPath Q :=
  List.flatMap_append

theorem fieldPath_key (key : String) :
    fieldPath [.key key] =
      (Path.splitDots key.toList).map fun piece => .key (String.ofList piece) := by
  by_cases dotted : '.' ∈ key.toList
  · have filled : key ≠ "" := by
      rintro rfl
      cases dotted
    simp [fieldPath, dotted, Path.ofDotted, filled]
  · simp [fieldPath, dotted, Path.splitDots_plain dotted]

theorem fieldPath_dottedKey (outer inner : String) :
    fieldPath [.key (dottedKey outer inner)] = fieldPath [.key outer] ++ fieldPath [.key inner] := by
  have chars : (dottedKey outer inner).toList = outer.toList ++ '.' :: inner.toList := by
    simp [dottedKey]
  rw [fieldPath_key, fieldPath_key, fieldPath_key, chars, Path.splitDots_append, List.map_append]

theorem fieldPath_eq_nil {P : Path} : fieldPath P = [] ↔ P = [] := by
  constructor
  · intro empty
    cases P with
    | nil => rfl
    | cons seg P =>
      rw [fieldPath_cons, List.append_eq_nil_iff] at empty
      cases seg with
      | index i => cases empty.1
      | key k =>
        rw [fieldPath_key, List.map_eq_nil_iff] at empty
        exact absurd empty.1 (Path.splitDots_ne_nil _)
  · rintro rfl
    rfl

/-! ### Paths to the same field -/

/-- The last key of the path is that of a field. -/
def EndsInField (path : Path) : Prop :=
  ∃ key, path.getLast? = some (.key key) ∧ isCommand key = false

theorem endsInField_key (path : Path) {key : String} (field : isCommand key = false) :
    EndsInField (path ++ [Segment.key key]) :=
  ⟨key, List.getLast?_concat, field⟩

/-- The paths lead to the same field, and the compiler goes on alike from both. -/
structure SameField (path path' : Path) : Prop where
  field : fieldPath path.data = fieldPath path'.data
  last : path.getLast? = path'.getLast? ∨ EndsInField path ∧ EndsInField path'

theorem sameField_nil : SameField [] [] := ⟨rfl, .inl rfl⟩

namespace SameField

variable {path path' : Path} (same : SameField path path')
include same

theorem endsInCombinator_eq : path.endsInCombinator = path'.endsInCombinator := by
  rcases same.last with last | ⟨⟨key, last, field⟩, ⟨key', last', field'⟩⟩
  · simp only [Path.endsInCombinator, last]
  · simp [Path.endsInCombinator, last, last', Segment.operator?, Operator.ofName?_of_field field,
      Operator.ofName?_of_field field']

theorem key (key : String) : SameField (path ++ [Segment.key key]) (path' ++ [Segment.key key]) := by
  refine ⟨?_, .inl (by rw [List.getLast?_concat, List.getLast?_concat])⟩
  cases named : Operator.ofName? key with
  | some op => rw [Path.data_append_operator _ named, Path.data_append_operator _ named, same.field]
  | none =>
    rw [Path.data_append_field _ named, Path.data_append_field _ named, fieldPath_append,
      fieldPath_append, same.field]

theorem index (i : Int) : SameField (path ++ [Segment.index i]) (path' ++ [Segment.index i]) := by
  refine ⟨?_, .inl (by rw [List.getLast?_concat, List.getLast?_concat])⟩
  rw [Path.data_append_index, Path.data_append_index, same.endsInCombinator_eq]
  split
  · exact same.field
  · rw [fieldPath_append, fieldPath_append, same.field]

theorem nest {outer inner : String} (outside : isCommand outer = false)
    (inside : isCommand inner = false) :
    SameField (path ++ [Segment.key (dottedKey outer inner)])
      (path' ++ [Segment.key outer] ++ [Segment.key inner]) := by
  have dotted := isCommand_dottedKey outside inner
  refine ⟨?_, .inr ⟨endsInField_key _ dotted, endsInField_key _ inside⟩⟩
  rw [Path.data_append_field _ (Operator.ofName?_of_field dotted),
    Path.data_append_field _ (Operator.ofName?_of_field inside),
    Path.data_append_field _ (Operator.ofName?_of_field outside), fieldPath_append,
    fieldPath_dottedKey, fieldPath_append, fieldPath_append, same.field, List.append_assoc]

end SameField

/-! ### Operations on the same field -/

/-- Errors of the same kind at the same field of an item. -/
inductive AtSameField : CompileError → CompileError → Prop
  | violation {v v' : Violation} (kind : v.kind = v'.kind)
    (field : fieldPath v.dataPath = fieldPath v'.dataPath) : AtSameField (.violation v) (.violation v')

variable {e : Engine ε} {depth : Int} {op : Operator} {path path' : Path} {n n' : Node}
  {parent parent' : Option Node} {ps ps' : List (Part (Predicate ε))}

/-- An operation reads the field of its data path in items. What joins filters does not look at its
operand. -/
theorem generator_matches {g : Generator Unit (Predicate ε)} {as : List (Predicate ε)}
    {ns ns' : List Node} (found : ((compiler e).withDepth depth).dialect.generator? op = some g)
    (field : fieldPath path.data = fieldPath path'.data)
    (operand : n = n' ∨ op.isCombinator ∨ op = .not) :
    Matches AtSameField Eq (g ⟨op, path, path.data, n, as, ns⟩)
      (g ⟨op, path', path'.data, n', as, ns'⟩) := by
  obtain rfl := Option.some.inj found
  cases op with
  | and | or | nor | not => exact matches_pure rfl
  | like =>
    obtain rfl := operand.resolve_right (by simp [Operator.isCombinator])
    unfold ofOperation
    dsimp only
    cases pattern? n.plain with
    | none => exact matches_throw (.violation rfl field)
    | some re =>
      refine matches_pure (congrArg some (funext fun item => ?_))
      simp only [anyValue, field]
  | _ =>
    obtain rfl := operand.resolve_right (by simp [Operator.isCombinator])
    refine matches_pure (congrArg some (funext fun item => ?_))
    simp only [isEqual, isOneOf, hasAll, range, isPresent, negate, anyValue, field]

theorem invoke_matches {g : Generator Unit (Predicate ε)}
    (found : ((compiler e).withDepth depth).dialect.generator? op = some g)
    (field : fieldPath path.data = fieldPath path'.data)
    (operand : n = n' ∨ op.isCombinator ∨ op = .not) (same : SameParts ps ps') :
    Matches AtSameField SamePart (invoke g op path.data ⟨path, n, parent, ps⟩)
      (invoke g op path'.data ⟨path', n', parent', ps'⟩) := by
  have artifacts : ps'.filterMap Part.artifact? = ps.filterMap Part.artifact? := same.symm
  unfold invoke
  rw [artifacts]
  refine matches_map (generator_matches found field operand) fun r r' equal => ?_
  rw [equal, SamePart]

theorem invokeAnd_matches (field : fieldPath path.data = fieldPath path'.data)
    (same : SameParts ps ps') :
    Matches AtSameField SamePart
      (((compiler e).withDepth depth).invokeAnd path.data ⟨path, n, parent, ps⟩)
      (((compiler e).withDepth depth).invokeAnd path'.data ⟨path', n', parent', ps'⟩) :=
  invoke_matches (generator?_and _) field (.inr (.inl rfl)) same

theorem invokeChecked_matches (unlimited : depth ≤ 0) {g : Generator Unit (Predicate ε)}
    (found : ((compiler e).withDepth depth).dialect.generator? op = some g)
    (field : fieldPath path.data = fieldPath path'.data) (shape : n.SameShape n')
    (operand : op.accepts n → n = n' ∨ op.isCombinator ∨ op = .not) (same : SameParts ps ps') :
    Matches AtSameField SamePart
      (((compiler e).withDepth depth).invokeChecked g op path.data ⟨path, n, parent, ps⟩)
      (((compiler e).withDepth depth).invokeChecked g op path'.data ⟨path', n', parent', ps'⟩) := by
  have nowhere : path.data = [] ↔ path'.data = [] := by
    rw [← fieldPath_eq_nil, field, fieldPath_eq_nil]
  exact matches_invokeChecked found
    (Language.operandViolation?_congr (op.accepts_sameShape shape) nowhere
      (iff_of_true (.inl unlimited) (.inl unlimited)))
    (fun _ => .violation rfl field) fun accepted => invoke_matches found field (operand accepted) same

theorem compileField_matches (unlimited : depth ≤ 0)
    (field : fieldPath path.data = fieldPath path'.data) (shape : n.SameShape n')
    (same : SameParts ps ps') :
    Matches AtSameField SamePart
      (((compiler e).withDepth depth).compileField path.data ⟨path, n, parent, ps⟩)
      (((compiler e).withDepth depth).compileField path'.data ⟨path', n', parent', ps'⟩) := by
  cases shape with
  | scalar v =>
    exact invokeChecked_matches unlimited (generator?_eq _) field (.scalar v) (fun _ => .inl rfl) same
  | sequence _ => exact matches_throw (.violation rfl field)
  | mapping es es' => exact invokeAnd_matches field same

theorem operand_joins (shape : n.SameShape n') (values : n = n' ∨ op.takesValues = false)
    (accepted : op.accepts n) : n = n' ∨ op.isCombinator ∨ op = .not := by
  -- scalars stay, and so do lists of values; what is left are the filters that an operator joins
  cases shape with
  | scalar v => exact .inl rfl
  | sequence _ =>
    rcases values with equal | noValues
    · exact .inl equal
    · rw [Operator.accepts_sequence, noValues, Bool.or_false, Bool.and_eq_true] at accepted
      exact .inr (.inl accepted.1)
  | mapping es es' =>
    rw [Operator.accepts_mapping, beq_iff_eq] at accepted
    exact .inr (.inr accepted)

theorem compileKey_matches (unlimited : depth ≤ 0) {key : String}
    (field : fieldPath path.data = fieldPath path'.data) (shape : n.SameShape n')
    (values : n = n' ∨ takesValuesAt key = false) (same : SameParts ps ps') :
    Matches AtSameField SamePart
      (((compiler e).withDepth depth).compileKey key path.data ⟨path, n, parent, ps⟩)
      (((compiler e).withDepth depth).compileKey key path'.data ⟨path', n', parent', ps'⟩) := by
  unfold compileKey
  cases named : Operator.ofName? key with
  | some op =>
    rw [takesValuesAt, named] at values
    exact invokeChecked_matches unlimited rfl field shape (operand_joins shape values) same
  | none =>
    dsimp only
    split
    · exact matches_throw (.violation rfl field)
    · exact compileField_matches unlimited field shape same

theorem step_matches (unlimited : depth ≤ 0) (located : SameField path path')
    (shape : n.SameShape n') (values : n = n' ∨ path.OutsideValues) (same : SameParts ps ps') :
    Matches AtSameField SamePart (((compiler e).withDepth depth).step ⟨path, n, parent, ps⟩)
      (((compiler e).withDepth depth).step ⟨path', n', parent', ps'⟩) := by
  have field := located.field
  unfold step
  dsimp only
  -- the last segments are the same, or else the keys of fields, of which only the operands count
  rcases located.last with last | ⟨⟨key, last, outer⟩, ⟨key', last', inner⟩⟩
  · rw [← last]
    cases ends : path.getLast? with
    | none =>
      rw [ends] at last
      obtain rfl := List.getLast?_eq_none_iff.mp ends
      obtain rfl := List.getLast?_eq_none_iff.mp last.symm
      exact invokeAnd_matches rfl same
    | some seg =>
      cases seg with
      | index i =>
        dsimp only
        rw [← shape.isMapping_eq]
        split
        · exact invokeAnd_matches field same
        · exact matches_pure rfl
      | key key =>
        have noValues := values.imp_right fun outside => outside key ends
        exact compileKey_matches unlimited field shape noValues same
  · rw [last, last']
    dsimp only
    rw [compileKey_field outer, compileKey_field inner]
    exact compileField_matches unlimited field shape same

/-! ### Folds -/

theorem invoke_artifact {g : Generator Unit (Predicate ε)} {data : Path}
    {v : Visit (Part (Predicate ε))} {s t : Unit} {p : Option (Part (Predicate ε))}
    (found : ((compiler e).withDepth depth).dialect.generator? op = some g)
    (yields : Yields (invoke g op data v) s p t) : ∃ a, p = some (.artifact a) := by
  obtain rfl := Option.some.inj found
  obtain ⟨r, generated, rfl⟩ := yields_invoke.mp yields
  split at generated
  · obtain ⟨rfl, _⟩ := yields_pure.mp generated
    exact ⟨_, rfl⟩
  · exact absurd generated yields_throw

theorem foldAt_artifact {key : String} {s t : Unit} {p : Option (Part (Predicate ε))}
    (yields : Yields
      (n.foldAt ((compiler e).withDepth depth).step (path ++ [Segment.key key]) parent) s p t) :
    ∃ a, p = some (.artifact a) := by
  rw [foldAt_eq] at yields
  obtain ⟨ps, _, _, yields⟩ := yields_bind.mp yields
  simp only [step, List.getLast?_concat, compileKey] at yields
  split at yields
  · rename_i op named
    have found : ((compiler e).withDepth depth).dialect.generator? op = some _ := rfl
    exact invoke_artifact found (yields_invokeChecked found yields).2.2.2
  · split at yields
    · exact absurd yields yields_throw
    · cases n with
      | scalar v =>
        exact invoke_artifact (generator?_eq _) (yields_invokeChecked (generator?_eq _) yields).2.2.2
      | sequence ns => exact absurd yields yields_throw
      | mapping es => exact invoke_artifact (generator?_and _) yields

theorem nest_matches {g : Generation Unit (Option (Part (Predicate ε)))}
    (single : ∀ s p t, Yields g s p t → ∃ a, p = some (.artifact a)) {outer inner : String}
    (outside : isCommand outer = false)
    (first : Matches AtSameField SamePart g (n.foldAt ((compiler e).withDepth depth).step
      (path ++ [Segment.key outer] ++ [Segment.key inner]) none)) :
    Matches AtSameField SamePart g ((Node.mapping [(inner, n)]).foldAt
      ((compiler e).withDepth depth).step (path ++ [Segment.key outer]) parent) := by
  let c := (compiler e).withDepth depth
  let place : Path := path ++ [Segment.key outer]
  have nested : (Node.mapping [(inner, n)]).foldAt c.step place parent =
      n.foldAt c.step (place ++ [Segment.key inner]) none >>= fun p =>
        c.step ⟨place, .mapping [(inner, n)], parent, p.toList⟩ := by
    rw [foldAt_parent n _ none (some (.mapping [(inner, n)]))]
    simp [foldAt, foldEntries]
  change Matches _ _ _ ((Node.mapping [(inner, n)]).foldAt c.step place parent)
  rw [nested, ← bind_pure g]
  refine matches_bind (first.and_yields single) fun p p' related => ?_
  obtain ⟨same, a, rfl⟩ := related
  have joined : c.step ⟨place, .mapping [(inner, n)], parent, [.artifact a]⟩ =
      pure (some (.artifact (allOf [a]))) :=
    step_field path outside _ parent [.artifact a]
  -- the mapping that takes the key apart joins a single condition, which stays as it is
  rw [same.eq_artifact]
  change Matches _ _ _ (c.step ⟨place, .mapping [(inner, n)], parent, [.artifact a]⟩)
  rw [joined, allOf_singleton]
  exact matches_pure rfl

theorem takesValuesAt_of_field {key : String} (field : isCommand key = false) :
    takesValuesAt key = false := by
  rw [takesValuesAt, Operator.ofName?_of_field field]
  rfl

theorem eq_or_outside {free : Bool} (nested : Nested free n n')
    (outside : free = true → path.OutsideValues) : n = n' ∨ path.OutsideValues := by
  cases free with
  | false => exact .inl nested.eq_of_not_free
  | true => exact .inr (outside rfl)

mutual

theorem nested_matches (unlimited : depth ≤ 0) {free : Bool} : ∀ {n n' : Node}, Nested free n n' →
    ∀ {path path' : Path}, SameField path path' → (free = true → path.OutsideValues) →
      ∀ parent parent' : Option Node,
        Matches AtSameField SamePart (n.foldAt ((compiler e).withDepth depth).step path parent)
          (n'.foldAt ((compiler e).withDepth depth).step path' parent')
  | _, _, .scalar, _, _, located, _, _, _ =>
    step_matches unlimited located (.scalar _) (.inl rfl) rfl
  | _, _, .sequence items, _, _, located, outside, _, _ =>
    matches_bind (items_match unlimited items located _ _ 0) fun _ _ same =>
      step_matches unlimited located (.sequence items.all_isMapping_eq)
        (eq_or_outside (.sequence items) outside) same
  | _, _, .mapping entries, _, _, located, outside, _, _ =>
    matches_bind (entries_match unlimited entries located _ _) fun _ _ same =>
      step_matches unlimited located (.mapping _ _) (eq_or_outside (.mapping entries) outside) same

theorem items_match (unlimited : depth ≤ 0) {free : Bool} : ∀ {ns ns' : List Node},
    ItemsNested free ns ns' → ∀ {path path' : Path}, SameField path path' →
      ∀ (parent parent' : Node) (i : Nat),
        Matches AtSameField SameParts
          (foldItems ((compiler e).withDepth depth).step path parent i ns)
          (foldItems ((compiler e).withDepth depth).step path' parent' i ns')
  | _, _, .nil, _, _, _, _, _, _ => matches_pure rfl
  | _, _, .cons first rest, _, _, located, parent, parent', i =>
    matches_cons (nested_matches unlimited first (located.index i)
        (fun _ => Path.outsideValues_index _ i) _ _)
      (items_match unlimited rest located parent parent' (i + 1))

theorem entries_match (unlimited : depth ≤ 0) {free : Bool} : ∀ {es es' : List (String × Node)},
    EntriesNested free es es' → ∀ {path path' : Path}, SameField path path' →
      ∀ parent parent' : Node,
        Matches AtSameField SameParts
          (foldEntries ((compiler e).withDepth depth).step path parent es)
          (foldEntries ((compiler e).withDepth depth).step path' parent' es')
  | _, _, .nil, _, _, _, _, _ => matches_pure rfl
  | _, _, @EntriesNested.keep _ key _ _ _ _ first rest, _, _, located, parent, parent' => by
    refine matches_cons (nested_matches unlimited first (located.key key) (fun isFree => ?_) _ _)
      (entries_match unlimited rest located parent parent')
    rw [Bool.and_eq_true, Bool.not_eq_true'] at isFree
    exact Path.outsideValues_key _ isFree.2
  | _, _, @EntriesNested.nest _ inner _ _ _ _ outside inside first rest, _, _, located, parent,
      parent' => by
    have noValues := takesValuesAt_of_field (isCommand_dottedKey outside inner)
    have apart := nested_matches unlimited first (located.nest outside inside)
      (fun _ => Path.outsideValues_key _ noValues) (some parent) none
    exact matches_cons (nest_matches (fun _ _ _ => foldAt_artifact) outside apart)
      (entries_match unlimited rest located parent parent')

end

/-! ### Compilations -/

variable {q q' : Node}

theorem generate_matches (unlimited : depth ≤ 0) (nested : Nested true q q') :
    Matches AtSameField Eq (((compiler e).withDepth depth).generate q)
      (((compiler e).withDepth depth).generate q') := by
  rw [generate_eq, generate_eq, ← nested.isMapping_eq]
  split
  · refine matches_bind (nested_matches unlimited nested sameField_nil
      (fun _ => Path.outsideValues_nil) none none) fun p p' same => matches_pure ?_
    rw [show p.bind Part.artifact? = p'.bind Part.artifact? from same]
  · exact matches_throw (.violation rfl rfl)

theorem compile_nested (unlimited : depth ≤ 0) (nested : Nested true q q') :
    (∃ p, ((compiler e).withDepth depth).compile q = .ok p ∧
      ((compiler e).withDepth depth).compile q' = .ok p) ∨
    ∃ err err', ((compiler e).withDepth depth).compile q = .error err ∧
      ((compiler e).withDepth depth).compile q' = .error err' ∧ AtSameField err err' := by
  have kept (v : Violation) : ((compiler e).withDepth depth).replaced (.violation v) = .violation v :=
    rfl
  rcases generate_matches unlimited nested () with
    ⟨p, _, s, yields, yields', rfl⟩ | ⟨_, _, fails, fails', ⟨kind, field⟩⟩
  · refine .inl ⟨p, ?_, ?_⟩
    · exact compile_eq_ok_iff.mpr ⟨p, s, s, yields, yields_pure.mpr ⟨rfl, rfl⟩⟩
    · exact compile_eq_ok_iff.mpr ⟨p, s, s, yields', yields_pure.mpr ⟨rfl, rfl⟩⟩
  · refine .inr ⟨_, _, compile_of_fails fails, compile_of_fails fails', ?_⟩
    rw [kept, kept]
    exact .violation kind field

/-- Any set of dotted keys of fields may be taken apart, anywhere but below a list of values: the documents
are both accepted or both refused, and if they are accepted, each item has the same result for both, or
the same error. A refusal is for the same reason at the same field. -/
theorem nested_keys_match_same (e : Engine ε) (nested : Nested true q q') :
    ((∃ p, (compiler e).compile q = .ok p) ↔ ∃ p, (compiler e).compile q' = .ok p) ∧
    (∀ p p', (compiler e).compile q = .ok p → (compiler e).compile q' = .ok p' →
      ∀ item, p item = p' item) ∧
    ∀ err, (compiler e).compile q = .error err →
      ∃ err', (compiler e).compile q' = .error err' ∧ AtSameField err err' := by
  -- the dialect sets no limit of the length of data paths
  have same : (compiler e).withDepth 0 = compiler e := rfl
  rcases compile_nested (e := e) (Int.le_refl 0) nested with
    ⟨p, accepted, accepted'⟩ | ⟨err, err', refused, refused', alike⟩
  · rw [same] at accepted accepted'
    rw [accepted, accepted']
    refine ⟨iff_of_true ⟨p, rfl⟩ ⟨p, rfl⟩, ?_, nofun⟩
    rintro _ _ ⟨⟩ ⟨⟩ item
    rfl
  · rw [same] at refused refused'
    rw [refused, refused']
    refine ⟨iff_of_false nofun nofun, nofun, ?_⟩
    rintro _ ⟨⟩
    exact ⟨err', rfl, alike⟩

theorem nested_keys_match_same_some :
    let one := Value.double (.finite false 1 0)
    let dotted := Node.mapping [("a.b", .mapping [("$gte", .scalar one)]),
      ("$or", .sequence [.mapping [("x.y.z", .scalar (.text "v"))],
        .mapping [("k", .mapping [("$in", .sequence [.mapping [("c.d", .scalar one)]])])]])]
    let nested := Node.mapping [("a", .mapping [("b", .mapping [("$gte", .scalar one)])]),
      ("$or", .sequence [.mapping [("x", .mapping [("y.z", .scalar (.text "v"))])],
        .mapping [("k", .mapping [("$in", .sequence [.mapping [("c.d", .scalar one)]])])]])]
    ∃ p p', (compiler .standard).compile dotted = .ok p ∧
      (compiler .standard).compile nested = .ok p' ∧ ∀ item, p item = p' item := by
  intro one dotted nested
  have related : Nested true dotted nested := by
    change Nested true (.mapping [(dottedKey "a" "b", _), ("$or", .sequence
      [.mapping [(dottedKey "x" "y.z", _)], _])]) _
    refine .mapping (.nest rfl rfl (.mapping (.keep .scalar .nil)) (.keep ?_ .nil))
    change Nested true _ _
    refine .sequence (.cons (.mapping (.nest rfl rfl .scalar .nil)) (.cons ?_ .nil))
    exact .mapping (.keep (.mapping (.keep (.sequence (.cons (.mapping (.keep .scalar .nil)) .nil))
      .nil)) .nil)
  obtain ⟨accepted, same, _⟩ := nested_keys_match_same .standard related
  obtain ⟨p, compiled⟩ : ∃ p, (compiler .standard).compile dotted = .ok p := ⟨_, rfl⟩
  obtain ⟨p', compiled'⟩ := accepted.mp ⟨p, compiled⟩
  exact ⟨p, p', compiled, compiled', same p p' compiled compiled'⟩

/-- A limit counts the keys of a path, and not their parts. -/
example :
    (∃ p, ((compiler .standard).withDepth 1).compile (.mapping [("a.b", .scalar .null)]) = .ok p) ∧
      ∃ err, ((compiler .standard).withDepth 1).compile
        (.mapping [("a", .mapping [("b", .scalar .null)])]) = .error err :=
  ⟨⟨_, rfl⟩, _, rfl⟩

end FilterQuery.Predicate
