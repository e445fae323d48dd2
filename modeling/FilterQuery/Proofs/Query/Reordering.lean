import FilterQuery.Proofs.Compile.Acceptance
import FilterQuery.Proofs.Document.Json.Denoted
import FilterQuery.Proofs.Query.Meaning

/-!
# Filters in another order

The order of the entries of a filter, and of the lists that its operators join or look up, decides
neither whether it compiles nor which items it matches. Both are kept by a single permutation, wherever
it happens: compilation because the grammar sees paths by their length only, and matching because
`Satisfies` speaks of all and of some parts.
-/

namespace FilterQuery.Predicate

open Compiler Generation
open Node (Step Reorders isValueList)

/-! ### What compiles -/

section Compile

variable {free : Bool} {n n' : Node}

theorem Spelled.replace {key : String} (h : Spelled (some key) n) (compound : ∀ v, n ≠ .scalar v)
    (n' : Node) : Spelled (some key) n' := by
  intro isLike
  have spelled := h isLike
  cases n with
  | scalar v => exact absurd rfl (compound v)
  | sequence ns => cases spelled
  | mapping es => cases spelled

theorem step_spelled (step : Step free n n')
    (spelled : n.Everywhere (Node.PartsHave Spelled)) : n'.Everywhere (Node.PartsHave Spelled) := by
  refine step.everywhere (fun _ _ _ none => by cases none) (fun {_ n n'} step spelled => ?_) spelled
  cases step with
  | entries perm => exact fun e member => spelled e (perm.mem_iff.mpr member)
  | items _ _ =>
    exact Node.forall_mem_replaced spelled fun list => list.replace (fun _ same => by cases same) _
  | inEntry inner =>
    refine Node.forall_mem_replaced spelled fun operand => operand.replace ?_ _
    rintro v rfl
    exact Node.not_step_scalar inner
  | inItem _ => exact fun _ _ none => by cases none

variable {ε : Type} (e : Engine ε) (depth : Int)

theorem step_accepts (step : Step free n n')
    (accepted : ∃ p, ((compiler e).withDepth depth).compile n = .ok p) :
    ∃ p, ((compiler e).withDepth depth).compile n' = .ok p := by
  rw [accepts_iff] at accepted ⊢
  exact ⟨(Language.replaces_of_step step).query accepted.1, step_spelled step accepted.2⟩

theorem reorders_accepts (reordered : Reorders free n n') :
    (∃ p, ((compiler e).withDepth depth).compile n = .ok p) ↔
      ∃ p, ((compiler e).withDepth depth).compile n' = .ok p := by
  induction reordered with
  | refl => exact Iff.rfl
  | tail _ step ih => exact ih.trans ⟨step_accepts e depth step, step_accepts e depth step.symm⟩

end Compile

/-! ### What matches -/

variable {L : Language} {item : Value}

/-- A list means the same to an operator as another list with the same filters or values. -/
theorem satisfiesEntry_sequence {P : Path} {key : String} {op : Operator} {ns ns' : List Node}
    (named : Operator.ofName? key = some op) (operand : L.IsOperand P op (.sequence ns))
    (filters : op.isCombinator = true → (∀ n ∈ ns, L.IsQuery P n) →
      ((∀ n ∈ ns, Satisfies item P n) ↔ ∀ n ∈ ns', Satisfies item P n) ∧
        ((∃ n ∈ ns, Satisfies item P n) ↔ ∃ n ∈ ns', Satisfies item P n))
    (values : op.takesValues = true → ∀ w, w ∈ ns.map Node.plain ↔ w ∈ ns'.map Node.plain) :
    SatisfiesEntry item P key (.sequence ns) ↔ SatisfiesEntry item P key (.sequence ns') := by
  rw [SatisfiesEntry, SatisfiesEntry, named]
  rcases Language.isOperand_sequence.mp operand with ⟨combinator, each⟩ | ⟨list, _⟩
  · obtain ⟨all, any⟩ := filters combinator each
    rw [← satisfiesAll_iff, ← satisfiesAll_iff] at all
    rw [← satisfiesAny_iff, ← satisfiesAny_iff] at any
    cases op with
    | and => exact all
    | or => exact any
    | nor => exact not_congr any
    | _ => cases combinator
  · have same := values list
    cases op with
    | oneOf | noneOf | allOf => simp only [Satisfied, wants, same]
    | _ => cases list

/-- The second node means the same as the first one, as a filter and as the operand of an operator. In
the list of an operator that takes values, nothing but entries may have changed. -/
structure SameMeaning (L : Language) (item : Value) (free : Bool) (n n' : Node) : Prop where
  query {P : Path} : free = true → L.IsQuery P n → (Satisfies item P n ↔ Satisfies item P n')
  operand {P : Path} {key : String} {op : Operator} : Operator.ofName? key = some op →
    (free = !isValueList key n) → L.IsOperand P op n →
      (SatisfiesEntry item P key n ↔ SatisfiesEntry item P key n')

theorem sameMeaning_mapping {free : Bool} {es es' : List (String × Node)}
    (query : ∀ {P : Path}, free = true → L.IsQuery P (.mapping es) →
      (Satisfies item P (.mapping es) ↔ Satisfies item P (.mapping es'))) :
    SameMeaning L item free (.mapping es) (.mapping es') where
  query := query
  operand named isFree operand := by
    obtain ⟨rfl, isQuery⟩ := Language.isOperand_mapping.mp operand
    have same := query isFree isQuery
    rw [Satisfies, Satisfies] at same
    rw [SatisfiesEntry, SatisfiesEntry, named]
    exact not_congr same

theorem SameMeaning.entry {P : Path} {key : String} {n n' : Node}
    (same : SameMeaning L item (!isValueList key n) n n') (replaces : L.Replaces n n')
    (compound : ∀ v, n ≠ .scalar v) (entry : L.IsEntry P key n) :
    SatisfiesEntry item P key n ↔ SatisfiesEntry item P key n' := by
  cases entry with
  | equals _ _ => exact absurd rfl (compound _)
  | operator named _ _ _ operand => exact same.operand named rfl operand
  | nested field query =>
    have query' := replaces.query query
    cases n with
    | mapping es =>
      cases n' with
      | mapping es' =>
        have inside := same.query rfl query
        rw [Satisfies, Satisfies] at inside
        rw [SatisfiesEntry, SatisfiesEntry, Operator.ofName?_of_field field]
        exact inside
      | _ => cases query'
    | _ => cases query

theorem sameMeaning_entry {free : Bool} {before after : List (String × Node)} {key : String}
    {n n' : Node} (entry : ∀ {P : Path}, free = true → L.IsEntry P key n →
      (SatisfiesEntry item P key n ↔ SatisfiesEntry item P key n')) :
    SameMeaning L item free (.mapping (before ++ (key, n) :: after))
      (.mapping (before ++ (key, n') :: after)) := by
  refine sameMeaning_mapping fun isFree query => ?_
  rw [Language.isQuery_mapping] at query
  simp only [List.forall_mem_append, List.forall_mem_cons] at query
  simp only [satisfies_mapping, List.forall_mem_append, List.forall_mem_cons,
    entry isFree query.2.1]

theorem step_sameMeaning {free : Bool} {n n' : Node} (step : Step free n n')
    (distinct : n.DistinctKeys) : SameMeaning L item free n n' := by
  induction step with
  | entries perm =>
    refine sameMeaning_mapping fun _ _ => ?_
    simp only [satisfies_mapping, perm.mem_iff]
  | @items before after key ns ns' _ perm =>
    refine sameMeaning_entry fun _ entry => ?_
    cases entry with
    | nested _ query => exact absurd query Language.not_isQuery_sequence
    | operator named _ _ _ operand =>
      refine satisfiesEntry_sequence named operand (fun _ _ => ?_) fun _ w => ?_
      · simp only [perm.mem_iff, and_self]
      · exact (perm.map Node.plain).mem_iff
  | @inEntry free before after key n n' inner ih =>
    have part := (Node.everywhere_mapping.mp distinct).2 (key, n) (by simp)
    refine sameMeaning_entry fun isFree entry => ?_
    subst isFree
    refine (ih part).entry (Language.replaces_of_step inner) ?_ entry
    rintro v rfl
    exact Node.not_step_scalar inner
  | @inItem free before after n n' inner ih =>
    have part := (Node.everywhere_sequence.mp distinct).2 n (by simp)
    refine ⟨fun _ query => absurd query Language.not_isQuery_sequence,
      fun {P key op} named isFree operand => ?_⟩
    simp only [isValueList, named, Option.any_some] at isFree
    refine satisfiesEntry_sequence named operand (fun combinator each => ?_) fun list w => ?_
    -- filters are compared by what they mean, and values as plain values
    · have noValues := Operator.not_takesValues_of_isCombinator combinator
      rw [noValues] at isFree
      simp only [List.forall_mem_append, List.forall_mem_cons] at each
      have same := (ih part).query isFree each.2.1
      constructor
      · simp only [List.forall_mem_append, List.forall_mem_cons, same]
      · simp only [List.mem_append, List.mem_cons, or_and_right, exists_or, exists_eq_left, same]
    · rw [list] at isFree
      simp [inner.plain_eq isFree part]

theorem reorders_satisfies {q q' : Node} (reordered : Reorders true q q') (distinct : q.DistinctKeys)
    (query : L.IsQuery [] q) (item : Value) :
    L.IsQuery [] q' ∧ q'.DistinctKeys ∧ (Satisfies item [] q ↔ Satisfies item [] q') := by
  induction reordered with
  | refl => exact ⟨query, distinct, Iff.rfl⟩
  | tail _ step ih =>
    obtain ⟨query', distinct', same⟩ := ih
    exact ⟨(Language.replaces_of_step step).query query', step.distinctKeys distinct',
      same.trans ((step_sameMeaning step distinct').query rfl query')⟩

/-- Two documents are accepted alike, and if they are, match the same plain items. -/
def SameMatches (depth : Int) (q q' : Node) : Prop :=
  ((∃ p, ((compiler .standard).withDepth depth).compile q = .ok p) ↔
    ∃ p, ((compiler .standard).withDepth depth).compile q' = .ok p) ∧
  ∀ p p', ((compiler .standard).withDepth depth).compile q = .ok p →
    ((compiler .standard).withDepth depth).compile q' = .ok p' →
      ∀ item, item.isPlain → ∃ b, p item = .ok b ∧ p' item = .ok b

theorem sameMatches_of_reorders {q q' : Node} (distinct : q.DistinctKeys)
    (reordered : Reorders true q q') (depth : Int) : SameMatches depth q q' := by
  refine ⟨reorders_accepts .standard depth reordered, fun p p' compiled compiled' item plain => ?_⟩
  obtain ⟨query, _⟩ := (accepts_iff .standard depth q).mp ⟨p, compiled⟩
  obtain ⟨_, _, same⟩ := reorders_satisfies reordered distinct query item
  obtain ⟨a, _, _, generated, resolved⟩ := compile_eq_ok_iff.mp compiled
  obtain ⟨rfl, _⟩ := yields_pure.mp resolved
  obtain ⟨a', _, _, generated', resolved'⟩ := compile_eq_ok_iff.mp compiled'
  obtain ⟨rfl, _⟩ := yields_pure.mp resolved'
  obtain ⟨b, answer, meaning⟩ := generate_answers generated plain
  obtain ⟨b', answer', meaning'⟩ := generate_answers generated' plain
  have agree : b' = b := by rw [Bool.eq_iff_iff, meaning, meaning', same]
  exact ⟨b, answer, agree ▸ answer'⟩

/-- Whether a document compiles and which plain items it matches does not depend on the order of its
entries, at any depth, nor on that of the lists under `$and`, `$or`, `$nor`, `$in`, `$nin` and `$all`
outside of values. So a document read from JSON text and the document read from its plain value, which
has its entries in key order, match the same items. -/
theorem reordered_matches_same (depth : Int) :
    (∀ q q' : Node, q.DistinctKeys → Reorders true q q' → SameMatches depth q q') ∧
      ∀ (bytes : List UInt8) (n : Node), Node.ofJson bytes = .ok n →
        SameMatches depth n (.ofValue n.plain) := by
  refine ⟨fun q q' distinct reordered => sameMatches_of_reorders distinct reordered depth,
    fun bytes n read => ?_⟩
  obtain ⟨distinct, scalars⟩ := Json.ofJson_wellFormed read
  refine sameMatches_of_reorders distinct ?_ depth
  exact Relation.ReflTransGen.mono (fun _ _ step => step.of_inside rfl true) _ _
    (Node.reorders_ofValue_plain n distinct scalars)

theorem reordered_matches_same_text :
    let a := ("a", Node.mapping [("$in", .sequence [.scalar (.text "x"), .scalar .null])])
    let a' := ("a", Node.mapping [("$in", .sequence [.scalar .null, .scalar (.text "x")])])
    let b := ("b", Node.scalar (.bool true))
    let bytes := Utf8.encode "\x7b\"b\": true, \"a\": null\x7d"
    let n := Node.mapping [b, ("a", .scalar .null)]
    SameMatches 0 (.mapping [a, b]) (.mapping [b, a']) ∧ Node.ofJson bytes = .ok n ∧
      SameMatches 0 n (.ofValue n.plain) := by
  intro a a' b bytes n
  have distinct : (Node.mapping [a, b]).DistinctKeys := by
    have values : a.2.DistinctKeys :=
      .mapping (show ["$in"].Nodup by decide) (List.forall_mem_singleton.mpr
        (.sequence trivial (List.forall_mem_cons.mpr ⟨.scalar trivial,
          List.forall_mem_singleton.mpr (.scalar trivial)⟩)))
    exact .mapping (show ["a", "b"].Nodup by decide)
      (List.forall_mem_cons.mpr ⟨values, List.forall_mem_singleton.mpr (.scalar trivial)⟩)
  have swapped : Step true (.mapping [a, b]) (.mapping [b, a]) := .entries (.swap _ _ _)
  have listed : Step true a.2 a'.2 :=
    show Step true (.mapping ([] ++ ("$in", _) :: [])) (.mapping ([] ++ ("$in", _) :: [])) from
      .items (by decide) (.swap _ _ _)
  have placed : Step true (.mapping [b, a]) (.mapping [b, a']) :=
    show Step true (.mapping ([b] ++ a :: [])) (.mapping ([b] ++ a' :: [])) from .inEntry listed
  -- the text is read member by member
  have first : Json.string (Json.skip (Utf8.encode "\"b\": true, \"a\": null\x7d")) =
      .ok ("b", Utf8.encode ": true, \"a\": null\x7d") := by decide +kernel
  have second : Json.string (Json.skip (Utf8.encode " \"a\": null\x7d")) =
      .ok ("a", Utf8.encode ": null\x7d") := by decide +kernel
  have rest : Json.members 43 [b] (Utf8.encode " \"a\": null\x7d") =
      .ok ([b, ("a", .scalar .null)], []) := Json.members_named second
  have members : Json.members 44 [] (Json.skip (Utf8.encode "\"b\": true, \"a\": null\x7d")) =
      .ok ([b, ("a", .scalar .null)], []) := (Json.members_named first).trans rest
  have value : Json.value 45 (Json.skip bytes) = .ok (n, []) := by
    refine (Json.value_object fun tail closed => ?_).trans (bind_eq_ok.mpr ⟨_, members, rfl⟩)
    exact absurd (List.cons.inj closed).1 (by decide)
  have read : Node.ofJson bytes = .ok n := bind_eq_ok.mpr ⟨(n, []), value, rfl⟩
  exact ⟨(reordered_matches_same 0).1 _ _ distinct (.tail (.single swapped) placed), read,
    (reordered_matches_same 0).2 bytes n read⟩

end FilterQuery.Predicate
