import FilterQuery.Proofs.Document.Everywhere
import FilterQuery.Proofs.Value.Entries
import Mathlib.Logic.Relation

/-!
# Documents in another order

A `Step` permutes the entries of one mapping of a document, or the items of one list whose operator
does not care for their order: a combinator, or an operator that takes values. Inside of a value the
order of lists counts, so there only entries are permuted. What the order does not matter to is proved
for one step; `Reorders` is any number of steps.
-/

namespace FilterQuery.Node

/-- Whether the items of a list under the key may stand in any order. -/
def isUnordered (key : String) : Bool :=
  (Operator.ofName? key).any fun op => op.isCombinator || op.takesValues

/-- Whether a node under the key is a list of values. -/
def isValueList (key : String) : Node → Bool
  | .sequence _ => (Operator.ofName? key).any Operator.takesValues
  | _ => false

/-- One permutation somewhere in a document. Lists are permuted only where that is `free`. -/
inductive Step : Bool → Node → Node → Prop
  | entries {free : Bool} {es es' : List (String × Node)} (perm : es.Perm es') :
    Step free (.mapping es) (.mapping es')
  | items {before after : List (String × Node)} {key : String} {ns ns' : List Node}
    (unordered : isUnordered key = true) (perm : ns.Perm ns') :
    Step true (.mapping (before ++ (key, .sequence ns) :: after))
      (.mapping (before ++ (key, .sequence ns') :: after))
  | inEntry {free : Bool} {before after : List (String × Node)} {key : String} {n n' : Node}
    (step : Step (free && !isValueList key n) n n') :
    Step free (.mapping (before ++ (key, n) :: after)) (.mapping (before ++ (key, n') :: after))
  | inItem {free : Bool} {before after : List Node} {n n' : Node} (step : Step free n n') :
    Step free (.sequence (before ++ n :: after)) (.sequence (before ++ n' :: after))

/-- The documents differ in the order of entries, at any depth, and of the items of the lists that are
`free`. -/
abbrev Reorders (free : Bool) : Node → Node → Prop := Relation.ReflTransGen (Step free)

variable {free : Bool} {n n' : Node}

theorem not_step_scalar {v : Value} : ¬Step free (.scalar v) n' := fun step => by cases step

theorem Step.isValueList_eq (h : Step free n n') (key : String) :
    isValueList key n = isValueList key n' := by
  cases h <;> rfl

theorem Step.symm (h : Step free n n') : Step free n' n := by
  induction h with
  | entries perm => exact .entries perm.symm
  | items unordered perm => exact .items unordered perm.symm
  | inEntry step ih =>
    rw [step.isValueList_eq] at ih
    exact .inEntry ih
  | inItem _ ih => exact .inItem ih

theorem Step.of_inside {inside : Bool} (h : Step inside n n') (none : inside = false) (free : Bool) :
    Step free n n' := by
  induction h generalizing free with
  | entries perm => exact .entries perm
  | items => cases none
  | inEntry _ ih =>
    subst none
    exact .inEntry (ih rfl _)
  | inItem _ ih => exact .inItem (ih none free)

theorem forall_mem_replaced {α : Type} {P : α → Prop} {before after : List α} {x x' : α}
    (all : ∀ y ∈ before ++ x :: after, P y) (kept : P x → P x') : ∀ y ∈ before ++ x' :: after, P y := by
  simp only [List.forall_mem_append, List.forall_mem_cons] at all ⊢
  exact ⟨all.1, kept all.2.1, all.2.2⟩

theorem Step.everywhere {P : Node → Prop} (sequences : ∀ ns, P (.sequence ns))
    (kept : ∀ {free n n'}, Step free n n' → P n → P n') (h : Step free n n') (all : Everywhere P n) :
    Everywhere P n' := by
  induction h with
  | entries perm =>
    obtain ⟨here, each⟩ := everywhere_mapping.mp all
    have step : Step false _ _ := .entries perm
    exact .mapping (kept step here) fun e member => each e (perm.mem_iff.mpr member)
  | @items before after key ns ns' unordered perm =>
    obtain ⟨here, each⟩ := everywhere_mapping.mp all
    refine .mapping (kept (.items unordered perm) here) (forall_mem_replaced each fun list => ?_)
    obtain ⟨_, parts⟩ := everywhere_sequence.mp list
    exact .sequence (sequences ns') fun n member => parts n (perm.mem_iff.mpr member)
  | inEntry step ih =>
    obtain ⟨here, each⟩ := everywhere_mapping.mp all
    exact .mapping (kept (.inEntry step) here) (forall_mem_replaced each ih)
  | inItem _ ih =>
    obtain ⟨_, each⟩ := everywhere_sequence.mp all
    exact .sequence (sequences _) (forall_mem_replaced each ih)

theorem Step.distinctKeys (h : Step free n n') (distinct : n.DistinctKeys) : n'.DistinctKeys := by
  refine h.everywhere (fun ns => trivial) (fun {_ n n'} step distinct => ?_) distinct
  cases step with
  | entries perm => exact (perm.map Prod.fst).nodup distinct
  | items _ _ => simpa using distinct
  | inEntry _ => simpa using distinct
  | inItem _ => trivial

/-! ### Plain values -/

theorem plain_mapping (es : List (String × Node)) :
    (mapping es).plain = .anyObject (es.map fun e => (e.1, e.2.plain)) := by
  rw [plain, plainEntries_eq_map]

theorem plain_sequence (ns : List Node) : (sequence ns).plain = .anyList (ns.map plain) := by
  rw [plain, plainItems_eq_map]

theorem Step.plain_eq {inside : Bool} (h : Step inside n n') (none : inside = false)
    (distinct : n.DistinctKeys) : n.plain = n'.plain := by
  induction h with
  | entries perm =>
    have keys := (everywhere_mapping.mp distinct).1
    rw [plain_mapping, plain_mapping, Value.anyObject, Value.anyObject]
    refine congrArg _ (Value.sortEntries_eq_of_perm (perm.map _) ?_)
    rwa [List.map_map]
  | items => cases none
  | @inEntry _ before after key n n' _ ih =>
    subst none
    have part := (everywhere_mapping.mp distinct).2 (key, n) (by simp)
    rw [plain_mapping, plain_mapping]
    simp [ih rfl part]
  | @inItem _ before after n n' _ ih =>
    have part := (everywhere_sequence.mp distinct).2 n (by simp)
    rw [plain_sequence, plain_sequence]
    simp [ih none part]

/-! ### Documents read back from their plain values -/

theorem reorders_items {f : Node → Node} {ns : List Node} (before : List Node)
    (each : ∀ n ∈ ns, Reorders false n (f n)) :
    Reorders false (.sequence (before ++ ns)) (.sequence (before ++ ns.map f)) := by
  induction ns generalizing before with
  | nil => exact .refl
  | cons n ns ih =>
    have first : Reorders false (.sequence (before ++ n :: ns)) (.sequence (before ++ f n :: ns)) :=
      Relation.ReflTransGen.lift (fun m => sequence (before ++ m :: ns))
        (fun _ _ step => Step.inItem step) _ _ (each n List.mem_cons_self)
    have rest := ih (before ++ [f n]) fun n member => each n (List.mem_cons_of_mem _ member)
    simp only [List.append_assoc, List.singleton_append] at rest
    exact first.trans rest

theorem reorders_entries {f : Node → Node} {es : List (String × Node)}
    (before : List (String × Node)) (each : ∀ e ∈ es, Reorders false e.2 (f e.2)) :
    Reorders false (.mapping (before ++ es)) (.mapping (before ++ es.map fun e => (e.1, f e.2))) := by
  induction es generalizing before with
  | nil => exact .refl
  | cons e es ih =>
    obtain ⟨key, n⟩ := e
    have first : Reorders false (.mapping (before ++ (key, n) :: es))
        (.mapping (before ++ (key, f n) :: es)) :=
      Relation.ReflTransGen.lift (fun m => mapping (before ++ (key, m) :: es))
        (fun _ _ step => Step.inEntry step) _ _ (each (key, n) List.mem_cons_self)
    have rest := ih (before ++ [(key, f n)]) fun e member => each e (List.mem_cons_of_mem _ member)
    simp only [List.append_assoc, List.singleton_append] at rest
    exact first.trans rest

theorem ofValue_plain_sequence (ns : List Node) :
    ofValue (sequence ns).plain = .sequence (ns.map fun n => ofValue n.plain) := by
  rw [plain_sequence, Value.anyList, ofValue, ofValues_eq_map, List.map_map]
  rfl

theorem ofValue_plain_mapping (es : List (String × Node)) :
    ofValue (mapping es).plain =
      .mapping ((Value.sortEntries (es.map fun e => (e.1, e.2.plain))).map
        fun e => (e.1, ofValue e.2)) := by
  rw [plain_mapping, Value.anyObject, ofValue, ofEntries_eq_map]

theorem ofValue_plain_perm {es : List (String × Node)} (keys : (es.map Prod.fst).Nodup) :
    ((Value.sortEntries (es.map fun e => (e.1, e.2.plain))).map fun e => (e.1, ofValue e.2)).Perm
      (es.map fun e => (e.1, ofValue e.2.plain)) := by
  let plains := es.map fun e => (e.1, e.2.plain)
  have sorted : (Value.sortEntries plains).Perm plains := Value.sortEntries_perm (by rwa [List.map_map])
  have perm := sorted.map fun e : String × Value => (e.1, ofValue e.2)
  rwa [List.map_map] at perm

theorem reorders_ofValue_plain (n : Node) (distinct : n.DistinctKeys) (scalars : n.PlainScalars) :
    Reorders false n (ofValue n.plain) := by
  induction n using Node.induct with
  | scalar v =>
    rw [plain, show ofValue v = .scalar v from scalars.here]
  | sequence ns ih =>
    rw [ofValue_plain_sequence]
    exact reorders_items [] fun n member => ih n member
      ((everywhere_sequence.mp distinct).2 n member) ((everywhere_sequence.mp scalars).2 n member)
  | mapping es ih =>
    obtain ⟨keys, parts⟩ := everywhere_mapping.mp distinct
    rw [ofValue_plain_mapping]
    refine .tail (reorders_entries (f := fun n => ofValue n.plain) [] fun e member => ?_)
      (.entries (ofValue_plain_perm keys).symm)
    exact ih e member (parts e member) ((everywhere_mapping.mp scalars).2 e member)

end FilterQuery.Node
