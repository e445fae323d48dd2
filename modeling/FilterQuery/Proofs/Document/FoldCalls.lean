import FilterQuery.Proofs.Document.Enumeration
import FilterQuery.Proofs.Results
import Mathlib.Data.List.Basic

/-!
# The calls of a fold

`recorded` is a reducer that also writes down its calls. Whatever the reducer does with its state, the
calls of a fold go along the enumeration of the document up to the first call that fails, and each is told
where its node stands and what came of the parts of the node (`reduce_calls`). The proof is an induction
over the document: `foldsParts_cons` and `foldsParts_failed` are the step over the parts of a node,
`folds_node` and `folds_failed` the step from the parts to the node.
-/

namespace FilterQuery

variable {σ ρ ε α β : Type}

/-- A call of a reducer, with what it returned. -/
structure FoldCall (ρ ε : Type) where
  visit : Visit ρ
  outcome : Reduction ρ ε

namespace FoldCall

def Succeeds (c : FoldCall ρ ε) : Prop := c.outcome.error = none

/-- Calls with the addresses of their nodes. -/
abbrev Labelled (ρ ε : Type) := List (Address × FoldCall ρ ε)

/-- The result of the call for the node at an address, if the call keeps the node. -/
def resultAt (calls : Labelled ρ ε) (a : Address) : Option ρ :=
  (calls.lookup a).bind fun c => c.outcome.result?

/-- The call is for the node at an address of a document: it is told the path, the node and its parent,
and the results of the direct parts in document order. The document stands at a path in a parent. -/
structure Visits (n : Node) (path : Path) (parent : Option Node) (calls : Labelled ρ ε) (a : Address)
    (c : FoldCall ρ ε) : Prop where
  node : n.part? a = some c.visit.node
  path : c.visit.path = path ++ n.pathTo a
  parent : c.visit.parent = if a = [] then parent else n.part? a.dropLast
  children : c.visit.children =
    (List.range c.visit.node.parts.length).filterMap fun i => resultAt calls (a ++ [i])

/-! ### Labelled calls -/

section Labels

variable {calls calls' : Labelled ρ ε} {a : Address} {i j : Nat}

theorem resultAt_append_left (absent : calls'.lookup a = none) :
    resultAt (calls ++ calls') a = resultAt calls a := by
  rw [resultAt, List.lookup_append, absent, Option.or_none, resultAt]

theorem resultAt_append_right (absent : calls.lookup a = none) :
    resultAt (calls ++ calls') a = resultAt calls' a := by
  rw [resultAt, List.lookup_append, absent, Option.none_or, resultAt]

theorem lookup_below (calls : Labelled ρ ε) (i : Nat) (a : Address) :
    (calls.map (Prod.map (i :: ·) id)).lookup (i :: a) = calls.lookup a := by
  induction calls with
  | nil => rfl
  | cons c calls ih =>
    obtain ⟨b, c⟩ := c
    have same : (i :: a == i :: b) = (a == b) := by simp
    rw [List.map_cons, Prod.map_apply, List.lookup_cons, List.lookup_cons, same, ih]
    rfl

theorem lookup_beside (calls : Labelled ρ ε) (other : i ≠ j) (a : Address) :
    (calls.map (Prod.map (i :: ·) id)).lookup (j :: a) = none := by
  refine List.lookup_eq_none_iff.mpr fun c member => ?_
  obtain ⟨b, _, rfl⟩ := List.mem_map.mp member
  simpa using fun same : j = i => absurd same.symm other

theorem lookup_addressesFrom {ps : List (Segment × Node)} (before : i < j)
    (calls : List (FoldCall ρ ε)) (a : Address) :
    ((Node.addressesFrom j ps).zip calls).lookup (i :: a) = none := by
  refine List.lookup_eq_none_iff.mpr fun ⟨b, c⟩ member => ?_
  obtain ⟨k, _, b, _, _, rfl⟩ := Node.mem_addressesFrom.mp (List.of_mem_zip member).1
  have other : ¬i = j + k := by omega
  simp [other]

theorem zip_append_of_le {as bs : List α} {cs : List β} (short : cs.length ≤ as.length) :
    (as ++ bs).zip cs = as.zip cs := by
  induction as generalizing cs with
  | nil =>
    rw [List.eq_nil_of_length_eq_zero (Nat.le_zero.mp short), List.zip_nil_right, List.zip_nil_right]
  | cons a as ih =>
    cases cs with
    | nil => rfl
    | cons c cs =>
      rw [List.cons_append, List.zip_cons_cons, List.zip_cons_cons, ih (Nat.le_of_succ_le_succ short)]

end Labels

section Visits

variable {n m : Node} {path : Path} {parent parent' : Option Node} {calls calls' : Labelled ρ ε}
  {a : Address} {c : FoldCall ρ ε} {seg : Segment} {i : Nat}

theorem Visits.congr (h : c.Visits n path parent calls a)
    (results : ∀ k, resultAt calls' (a ++ [k]) = resultAt calls (a ++ [k])) :
    c.Visits n path parent calls' a where
  node := h.node
  path := h.path
  parent := h.parent
  children := by simp only [results, h.children]

theorem Visits.below (there : n.parts[i]? = some (seg, m))
    (h : c.Visits m (path ++ [seg]) (some n) calls a)
    (results : ∀ k, resultAt calls' (i :: (a ++ [k])) = resultAt calls (a ++ [k])) :
    c.Visits n path parent calls' (i :: a) where
  node := by rw [Node.part?_cons there, h.node]
  path := by rw [Node.pathTo_cons there, h.path, List.append_assoc, List.singleton_append]
  parent := by
    rw [h.parent, if_neg (List.cons_ne_nil i a)]
    cases a with
    | nil => rfl
    | cons k a =>
      rw [if_neg (List.cons_ne_nil k a), List.dropLast_cons_cons, Node.part?_cons there]
  children := by simp only [List.cons_append, results, h.children]

end Visits

end FoldCall

open FoldCall

namespace Node

/-- The outcome of a fold and its calls: they go along the enumeration, and all but the last one succeed.
The outcome is that of the call for the node itself; if the calls end before it, `zero` is returned with
the error of the last one. -/
structure Folds (zero : ρ) (n : Node) (path : Path) (parent : Option Node)
    (calls : List (FoldCall ρ ε)) (outcome : Reduction ρ ε) : Prop where
  length_le : calls.length ≤ n.addresses.length
  visits : ∀ a c, (a, c) ∈ n.addresses.zip calls →
    c.Visits n path parent (n.addresses.zip calls) a
  ends : ∃ before c, calls = before ++ [c] ∧ (∀ b ∈ before, b.Succeeds) ∧
    outcome = if calls.length = n.addresses.length then c.outcome
      else ⟨zero, false, c.outcome.error⟩
  whole : outcome.error = none → calls.length = n.addresses.length

/-- The outcome of a fold over parts of a node, the first of which has the number `i`. -/
structure FoldsParts (n : Node) (path : Path) (i : Nat) (ps : List (Segment × Node))
    (calls : List (FoldCall ρ ε)) (outcome : Except ε (List ρ)) : Prop where
  length_le : calls.length ≤ (addressesFrom i ps).length
  visits : ∀ a c, (a, c) ∈ (addressesFrom i ps).zip calls → ∀ parent,
    c.Visits n path parent ((addressesFrom i ps).zip calls) a
  whole : ∀ rs, outcome = .ok rs → calls.length = (addressesFrom i ps).length ∧
    (∀ c ∈ calls, c.Succeeds) ∧
    rs = (List.range' i ps.length).filterMap fun k => resultAt ((addressesFrom i ps).zip calls) [k]
  failed : ∀ e, outcome = .error e →
    ∃ before c, calls = before ++ [c] ∧ (∀ b ∈ before, b.Succeeds) ∧ c.outcome.error = some e

section Parts

variable {zero : ρ} {n m : Node} {path : Path} {seg : Segment} {i : Nat}
  {ps : List (Segment × Node)} {calls calls' : List (FoldCall ρ ε)} {r : Reduction ρ ε}

theorem foldsParts_nil : FoldsParts n path i [] ([] : List (FoldCall ρ ε)) (.ok []) := by
  refine ⟨Nat.le_refl _, fun a c none => (by cases none), fun rs same => ?_, fun e same => (by cases same)⟩
  cases same
  refine ⟨rfl, fun c none => ?_, rfl⟩
  cases none

theorem Folds.last_error {parent : Option Node} (h : Folds zero n path parent calls r) :
    ∃ before c, calls = before ++ [c] ∧ (∀ b ∈ before, b.Succeeds) ∧ c.outcome.error = r.error := by
  obtain ⟨before, c, rfl, succeed, rfl⟩ := h.ends
  refine ⟨before, c, rfl, succeed, ?_⟩
  split <;> rfl

theorem Folds.succeed {parent : Option Node} (h : Folds zero n path parent calls r)
    (fine : r.error = none) : ∀ c ∈ calls, c.Succeeds := by
  obtain ⟨before, c, rfl, succeed, error⟩ := h.last_error
  exact List.forall_mem_append.mpr ⟨succeed, List.forall_mem_singleton.mpr (error.trans fine)⟩

theorem Folds.resultAt_root {parent : Option Node} (h : Folds zero n path parent calls r)
    (fine : r.error = none) : resultAt (n.addresses.zip calls) [] = r.result? := by
  have len := h.whole fine
  obtain ⟨before, c, rfl, _, outcome⟩ := h.ends
  rw [if_pos len] at outcome
  rw [addresses_eq, List.length_append, List.length_append] at len
  have notBefore : ((addressesFrom 0 n.parts).zip before).lookup [] = none := by
    refine List.lookup_eq_none_iff.mpr fun ⟨b, c⟩ member => ?_
    obtain ⟨k, _, b, _, _, rfl⟩ := mem_addressesFrom.mp (List.of_mem_zip member).1
    rfl
  rw [addresses_eq, List.zip_append (Nat.add_right_cancel len.symm), resultAt_append_right notBefore]
  simp [resultAt, outcome]

theorem foldsParts_failed (there : n.parts[i]? = some (seg, m)) {e : ε}
    (first : Folds zero m (path ++ [seg]) (some n) calls r) (failed : r.error = some e) :
    FoldsParts n path i ((seg, m) :: ps) calls (.error e) := by
  have labelled : (addressesFrom i ((seg, m) :: ps)).zip calls =
      (m.addresses.zip calls).map (Prod.map (i :: ·) id) := by
    rw [addressesFrom, zip_append_of_le (by rw [List.length_map]; exact first.length_le),
      List.zip_map_left]
  refine ⟨?_, fun a c member parent => ?_, fun rs same => (by cases same), fun e' same => ?_⟩
  · rw [addressesFrom, List.length_append, List.length_map]
    exact Nat.le_add_right_of_le first.length_le
  · rw [labelled] at member ⊢
    obtain ⟨⟨b, c⟩, there', same⟩ := List.mem_map.mp member
    cases same
    refine (first.visits b c there').below there fun k => ?_
    rw [resultAt, lookup_below, resultAt]
  · cases same
    rw [← failed]
    exact first.last_error

section Cons

variable (len : calls.length = m.addresses.length)
include len

theorem zip_addressesFrom_cons : (addressesFrom i ((seg, m) :: ps)).zip (calls ++ calls') =
    (m.addresses.zip calls).map (Prod.map (i :: ·) id) ++ (addressesFrom (i + 1) ps).zip calls' := by
  rw [addressesFrom, List.zip_append (by rw [List.length_map, len]), List.zip_map_left]

theorem resultAt_first (a : Address) :
    resultAt ((addressesFrom i ((seg, m) :: ps)).zip (calls ++ calls')) (i :: a) =
      resultAt (m.addresses.zip calls) a := by
  rw [zip_addressesFrom_cons len,
    resultAt_append_left (lookup_addressesFrom (Nat.lt_succ_self i) calls' a), resultAt, lookup_below,
    resultAt]

theorem resultAt_later {j : Nat} (later : i < j) (a : Address) :
    resultAt ((addressesFrom i ((seg, m) :: ps)).zip (calls ++ calls')) (j :: a) =
      resultAt ((addressesFrom (i + 1) ps).zip calls') (j :: a) := by
  rw [zip_addressesFrom_cons len, resultAt_append_right (lookup_beside _ (Nat.ne_of_lt later) a)]

end Cons

theorem foldsParts_cons (there : n.parts[i]? = some (seg, m)) {outcome : Except ε (List ρ)}
    (first : Folds zero m (path ++ [seg]) (some n) calls r) (fine : r.error = none)
    (rest : FoldsParts n path (i + 1) ps calls' outcome) :
    FoldsParts n path i ((seg, m) :: ps) (calls ++ calls')
      (outcome.map (r.result?.toList ++ ·)) := by
  have len := first.whole fine
  refine ⟨?_, fun a c member parent => ?_, fun rs same => ?_, fun e same => ?_⟩
  · rw [addressesFrom, List.length_append, List.length_append, List.length_map, len]
    exact Nat.add_le_add_left rest.length_le _
  · rw [zip_addressesFrom_cons len] at member
    rcases List.mem_append.mp member with member | member
    · obtain ⟨⟨b, c⟩, there', same⟩ := List.mem_map.mp member
      cases same
      exact (first.visits b c there').below there fun k => resultAt_first len _
    · obtain ⟨j, _, b, _, _, rfl⟩ := mem_addressesFrom.mp (List.of_mem_zip member).1
      exact (rest.visits _ c member parent).congr fun k => resultAt_later len (by omega) _
  · obtain ⟨rs, rfl, rfl⟩ := map_eq_ok.mp same
    obtain ⟨len', succeed, rfl⟩ := rest.whole rs rfl
    refine ⟨?_, List.forall_mem_append.mpr ⟨first.succeed fine, succeed⟩, ?_⟩
    · rw [addressesFrom, List.length_append, List.length_append, List.length_map, len, len']
    · have later : (List.range' (i + 1) ps.length).filterMap
            (fun k => resultAt ((addressesFrom i ((seg, m) :: ps)).zip (calls ++ calls')) [k]) =
          (List.range' (i + 1) ps.length).filterMap
            fun k => resultAt ((addressesFrom (i + 1) ps).zip calls') [k] :=
        List.filterMap_congr fun k member => resultAt_later len (List.mem_range'_1.mp member).1 []
      rw [List.length_cons, List.range'_succ, List.filterMap_cons, resultAt_first len,
        first.resultAt_root fine, later]
      cases r.result? <;> rfl
  · cases outcome with
    | ok rs => cases same
    | error e' =>
      cases same
      obtain ⟨before, c, rfl, succeed, last⟩ := rest.failed e rfl
      exact ⟨calls ++ before, c, (List.append_assoc ..).symm,
        List.forall_mem_append.mpr ⟨first.succeed fine, succeed⟩, last⟩

end Parts

theorem folds_node {n : Node} {path : Path} {parent : Option Node} {calls : List (FoldCall ρ ε)}
    {rs : List ρ} (parts : FoldsParts n path 0 n.parts calls (.ok rs)) (zero : ρ)
    (outcome : Reduction ρ ε) :
    Folds zero n path parent (calls ++ [⟨⟨path, n, parent, rs⟩, outcome⟩]) outcome := by
  obtain ⟨len, succeed, results⟩ := parts.whole rs rfl
  have labelled (c : FoldCall ρ ε) : n.addresses.zip (calls ++ [c]) =
      (addressesFrom 0 n.parts).zip calls ++ [([], c)] := by
    rw [addresses_eq, List.zip_append len.symm]
    rfl
  have whole (c : FoldCall ρ ε) : (calls ++ [c]).length = n.addresses.length := by
    rw [addresses_eq, List.length_append, List.length_append, len]
    rfl
  have later (c : FoldCall ρ ε) (i : Nat) (a : Address) :
      resultAt (n.addresses.zip (calls ++ [c])) (i :: a) =
        resultAt ((addressesFrom 0 n.parts).zip calls) (i :: a) := by
    rw [labelled, resultAt_append_left rfl]
  refine ⟨Nat.le_of_eq (whole _), fun a c member => ?_,
    ⟨calls, _, rfl, succeed, (if_pos (whole _)).symm⟩, fun _ => whole _⟩
  rw [labelled] at member
  rcases List.mem_append.mp member with member | last
  · obtain ⟨j, _, b, _, _, rfl⟩ := mem_addressesFrom.mp (List.of_mem_zip member).1
    exact (parts.visits _ c member parent).congr fun k => later _ _ _
  · cases List.mem_singleton.mp last
    refine ⟨rfl, (List.append_nil path).symm, rfl, ?_⟩
    simp only [List.nil_append, later, List.range_eq_range', results]

theorem folds_failed {n : Node} {path : Path} {parent : Option Node} {calls : List (FoldCall ρ ε)}
    {e : ε} (parts : FoldsParts n path 0 n.parts calls (.error e)) (zero : ρ) :
    Folds zero n path parent calls ⟨zero, false, some e⟩ := by
  have labelled : n.addresses.zip calls = (addressesFrom 0 n.parts).zip calls := by
    rw [addresses_eq, zip_append_of_le parts.length_le]
  -- the call for the node itself is missing
  have shorter : calls.length < n.addresses.length := by
    rw [addresses_eq, List.length_append]
    exact Nat.lt_succ_of_le parts.length_le
  refine ⟨Nat.le_of_lt shorter, fun a c member => ?_, ?_, fun fine => (by cases fine)⟩
  · rw [labelled] at member ⊢
    exact parts.visits a c member parent
  · obtain ⟨before, c, same, succeed, failed⟩ := parts.failed e rfl
    exact ⟨before, c, same, succeed, by rw [if_neg (Nat.ne_of_lt shorter), failed]⟩

/-! ### Folds on record -/

/-- The reducer, with a record of its calls in the state. -/
def recorded (reducer : Visit ρ → StateM σ (Reduction ρ ε)) :
    Visit ρ → StateM (σ × List (FoldCall ρ ε)) (Reduction ρ ε) := fun v (s, calls) =>
  match (reducer v).run s with
  | (outcome, t) => (outcome, t, calls ++ [⟨v, outcome⟩])

/-- The first computation does what the second one does, and adds calls to the record that stand in a
relation to the outcome. -/
def Logs (x' : StateM (σ × List (FoldCall ρ ε)) α) (x : StateM σ α)
    (Q : List (FoldCall ρ ε) → α → Prop) : Prop :=
  ∀ s log, ∃ outcome t calls, x'.run (s, log) = (outcome, t, log ++ calls) ∧
    x.run s = (outcome, t) ∧ Q calls outcome

section Logs

variable {x' : StateM (σ × List (FoldCall ρ ε)) α} {x : StateM σ α}
  {f' : α → StateM (σ × List (FoldCall ρ ε)) β} {f : α → StateM σ β}
  {Q : List (FoldCall ρ ε) → α → Prop} {R : List (FoldCall ρ ε) → β → Prop}

theorem logs_pure {a : α} (holds : Q [] a) : Logs (pure a) (pure a : StateM σ α) Q := by
  intro s log
  refine ⟨a, s, [], ?_, rfl, holds⟩
  rw [List.append_nil]
  rfl

theorem Logs.bind (first : Logs x' x Q)
    (next : ∀ calls a, Q calls a → Logs (f' a) (f a) fun more r => R (calls ++ more) r) :
    Logs (x' >>= f') (x >>= f) R := by
  intro s log
  obtain ⟨a, t, calls, ran', ran, holds⟩ := first s log
  obtain ⟨outcome, u, more, ran₂', ran₂, holds⟩ := next calls a holds t (log ++ calls)
  refine ⟨outcome, u, calls ++ more, ?_, ?_, holds⟩
  · rw [StateT.run_bind, ran', ← List.append_assoc]
    exact ran₂'
  · rw [StateT.run_bind, ran]
    exact ran₂

theorem logs_recorded (reducer : Visit ρ → StateM σ (Reduction ρ ε)) (v : Visit ρ) :
    Logs (recorded reducer v) (reducer v) fun calls outcome => calls = [⟨v, outcome⟩] :=
  fun s _ => ⟨((reducer v).run s).1, ((reducer v).run s).2, _, rfl, rfl, rfl⟩

end Logs

section Parts

variable {m : Type → Type} [Monad m] (reducer : Visit ρ → m (Reduction ρ ε)) (zero : ρ)

/-- Folds the parts of a node. -/
def reduceEach (path : Path) (parent : Node) : List (Segment × Node) → m (Except ε (List ρ))
  | [] => return .ok []
  | (seg, n) :: ps => do
    let r ← reduceAt reducer zero (path ++ [seg]) (some parent) n
    match r.error with
    | some e => return .error e
    | none =>
      let results ← reduceEach path parent ps
      return results.map (r.result?.toList ++ ·)

theorem reduceItems_eq (path : Path) (parent : Node) (i : Nat) (ns : List Node) :
    reduceItems reducer zero path parent i ns =
      reduceEach reducer zero path parent (itemParts i ns) := by
  induction ns generalizing i with
  | nil => rw [reduceItems, itemParts, reduceEach]
  | cons n ns ih =>
    rw [reduceItems, ih]
    rfl

theorem reduceEntries_eq (path : Path) (parent : Node) (es : List (String × Node)) :
    reduceEntries reducer zero path parent es =
      reduceEach reducer zero path parent (es.map fun e => (Segment.key e.1, e.2)) := by
  induction es with
  | nil => rw [reduceEntries, List.map_nil, reduceEach]
  | cons e es ih =>
    rw [reduceEntries, ih]
    rfl

theorem reduceAt_eq [LawfulMonad m] (path : Path) (parent : Option Node) (n : Node) :
    reduceAt reducer zero path parent n =
      reduceEach reducer zero path n n.parts >>= fun
        | .error e => pure ⟨zero, false, some e⟩
        | .ok results => reducer ⟨path, n, parent, results⟩ := by
  cases n with
  | scalar v => rw [reduceAt, parts, reduceEach, pure_bind]
  | sequence ns =>
    rw [reduceAt, reduceItems_eq]
    rfl
  | mapping es =>
    rw [reduceAt, reduceEntries_eq]
    rfl

end Parts

variable {reducer : Visit ρ → StateM σ (Reduction ρ ε)} {zero : ρ}

theorem logs_reduceEach {n : Node} {path : Path} {i : Nat} {ps : List (Segment × Node)}
    (suffix : ∀ j, n.parts[i + j]? = ps[j]?)
    (each : ∀ p ∈ ps, Logs (reduceAt (recorded reducer) zero (path ++ [p.1]) (some n) p.2)
      (reduceAt reducer zero (path ++ [p.1]) (some n) p.2) (Folds zero p.2 (path ++ [p.1]) (some n))) :
    Logs (reduceEach (recorded reducer) zero path n ps) (reduceEach reducer zero path n ps)
      (FoldsParts n path i ps) := by
  induction ps generalizing i with
  | nil => exact logs_pure foldsParts_nil
  | cons p ps ih =>
    obtain ⟨seg, m⟩ := p
    obtain ⟨here, behind⟩ := List.forall_mem_cons.mp each
    have suffix' (j : Nat) : n.parts[i + 1 + j]? = ps[j]? := by
      rw [Nat.add_assoc, Nat.add_comm 1, suffix (j + 1), List.getElem?_cons_succ]
    rw [reduceEach, reduceEach]
    refine here.bind fun calls r first => ?_
    cases fine : r.error with
    | some e =>
      refine logs_pure ?_
      rw [List.append_nil]
      exact foldsParts_failed (suffix 0) first fine
    | none =>
      refine (ih suffix' behind).bind fun more outcome rest => logs_pure ?_
      rw [List.append_nil]
      exact foldsParts_cons (suffix 0) first fine rest

theorem logs_reduceAt (n : Node) (path : Path) (parent : Option Node) :
    Logs (reduceAt (recorded reducer) zero path parent n) (reduceAt reducer zero path parent n)
      (Folds zero n path parent) := by
  induction n using induct_parts generalizing path parent with
  | step n ih =>
    rw [reduceAt_eq, reduceAt_eq]
    have parts : Logs (reduceEach (recorded reducer) zero path n n.parts)
        (reduceEach reducer zero path n n.parts) (FoldsParts n path 0 n.parts) :=
      logs_reduceEach (fun j => by rw [Nat.zero_add]) fun p member =>
        ih p member (path ++ [p.1]) (some n)
    refine parts.bind fun calls outcome whole => ?_
    cases outcome with
    | error e =>
      refine logs_pure ?_
      rw [List.append_nil]
      exact folds_failed whole zero
    | ok rs =>
      intro s log
      obtain ⟨outcome, t, calls', ran', ran, rfl⟩ :=
        logs_recorded reducer ⟨path, n, parent, rs⟩ s log
      exact ⟨outcome, t, _, ran', ran, folds_node whole zero outcome⟩

/-- A fold calls its reducer for the nodes of the document along their enumeration, which holds the
address of each node once, children before their parent and in document order. It ends with the first call
that fails, and only then before the last node. A call is told the path of its node, the node, its parent
and the results of its direct parts that were kept, in document order. What the call for the root returns
is returned as it is; the error of an earlier call is returned with `zero`, as of a dropped node. -/
theorem reduce_calls (reducer : Visit ρ → StateM σ (Reduction ρ ε)) (zero : ρ) (n : Node) (s : σ) :
    (∀ a, a ∈ n.addresses ↔ (n.part? a).isSome = true) ∧ n.addresses.Nodup ∧
    n.addresses.Pairwise Address.Precedes ∧
    ∃ outcome t calls, (n.reduce (recorded reducer) zero).run (s, []) = (outcome, t, calls) ∧
      (n.reduce reducer zero).run s = (outcome, t) ∧ Folds zero n [] none calls outcome :=
  ⟨mem_addresses n, addresses_nodup n, addresses_ordered n, logs_reduceAt n [] none s []⟩

/-- An error does not mean that the node is dropped: the reducer may say otherwise at the root. -/
theorem reduce_error_kept :
    ¬∀ (reducer : Visit Nat → StateM Unit (Reduction Nat String)) (n : Node),
      ((n.reduce reducer 0).run ()).1.error.isSome → ((n.reduce reducer 0).run ()).1.kept = false := by
  intro dropped
  have kept := dropped (fun _ => pure ⟨1, true, some "boom"⟩) (.scalar .null) rfl
  cases kept

end Node

end FilterQuery
