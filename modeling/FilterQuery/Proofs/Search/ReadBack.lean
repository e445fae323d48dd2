import FilterQuery.Proofs.Search.Parser

/-!
# Clauses and their text

The text of a clause is read as a conjunction of its factors (`Clause.parse_text`): a conjunction in a
conjunction has no parentheses, and so its members are members of the outer one. That changes neither
the value of the clause nor its atoms.
-/

namespace FilterQuery.Search

namespace Clause

mutual

/-- The members of the conjunction that a clause is in a text. -/
def factors : Clause → List (Expr (Atom String))
  | .everything => []
  | .all cs => factorsEach cs
  | .any cs => [.any (conjunctions cs)]
  | .notAll cs => [.not (.any [.all (factorsEach cs)])]
  | .notAny cs => [.not (.any (conjunctions cs))]
  | .field name operand => [.atom ⟨name, operand.test⟩]
  | .notField name operand => [.not (.atom ⟨name, operand.test⟩)]

def factorsEach : List Clause → List (Expr (Atom String))
  | [] => []
  | c :: cs => c.factors ++ factorsEach cs

def conjunctions : List Clause → List (Expr (Atom String))
  | [] => []
  | c :: cs => .all c.factors :: conjunctions cs

end

theorem evalEach_append (V : Atom String → Bool) (es fs : List (Expr (Atom String))) :
    Expr.evalEach V (es ++ fs) = Expr.evalEach V es ++ Expr.evalEach V fs := by
  simp [Expr.evalEach_eq]

variable (V : Atom String → Bool)

mutual

theorem eval_factors : ∀ c : Clause, (Expr.evalEach V c.factors).all id = c.expr.eval V
  | .everything => rfl
  | .all cs => eval_factorsEach cs
  | .any cs => by
    simp [factors, expr, Expr.evalEach, Expr.eval, eval_conjunctions cs]
  | .notAll cs => by
    simp [factors, expr, Expr.evalEach, Expr.eval, eval_factorsEach cs]
  | .notAny cs => by
    simp [factors, expr, Expr.evalEach, Expr.eval, eval_conjunctions cs]
  | .field name operand | .notField name operand => by
    simp [factors, expr, Expr.evalEach]

theorem eval_factorsEach : ∀ cs : List Clause,
    (Expr.evalEach V (factorsEach cs)).all id = (Expr.evalEach V (exprs cs)).all id
  | [] => rfl
  | c :: cs => by
    rw [factorsEach, evalEach_append, List.all_append, eval_factors c, eval_factorsEach cs, exprs,
      Expr.evalEach, List.all_cons]
    rfl

theorem eval_conjunctions : ∀ cs : List Clause,
    Expr.evalEach V (conjunctions cs) = Expr.evalEach V (exprs cs)
  | [] => rfl
  | c :: cs => by
    rw [conjunctions, exprs, Expr.evalEach, Expr.evalEach, Expr.eval, eval_factors c,
      eval_conjunctions cs]

end

mutual

theorem atoms_factors : ∀ c : Clause, Expr.atomsEach c.factors = c.expr.atoms
  | .everything => rfl
  | .all cs => atoms_factorsEach cs
  | .any cs => by simp [factors, expr, Expr.atomsEach, Expr.atoms, atoms_conjunctions cs]
  | .notAll cs => by simp [factors, expr, Expr.atomsEach, Expr.atoms, atoms_factorsEach cs]
  | .notAny cs => by simp [factors, expr, Expr.atomsEach, Expr.atoms, atoms_conjunctions cs]
  | .field name operand | .notField name operand => by
    simp [factors, expr, Expr.atomsEach]

theorem atoms_factorsEach : ∀ cs : List Clause,
    Expr.atomsEach (factorsEach cs) = Expr.atomsEach (exprs cs)
  | [] => rfl
  | c :: cs => by
    have parts := atoms_factors c
    rw [Expr.atomsEach_eq] at parts
    rw [factorsEach, Expr.atomsEach_eq, List.flatMap_append, parts, ← Expr.atomsEach_eq,
      atoms_factorsEach cs, exprs, Expr.atomsEach]

theorem atoms_conjunctions : ∀ cs : List Clause,
    Expr.atomsEach (conjunctions cs) = Expr.atomsEach (exprs cs)
  | [] => rfl
  | c :: cs => by
    rw [conjunctions, exprs, Expr.atomsEach, Expr.atomsEach, Expr.atoms, atoms_factors c,
      atoms_conjunctions cs]

end

theorem eval_reading (c : Clause) : (Expr.any [.all c.factors]).eval V = c.expr.eval V := by
  simp [Expr.eval, Expr.evalEach, eval_factors]

theorem atoms_reading (c : Clause) : (Expr.any [.all c.factors]).atoms = c.expr.atoms := by
  simp [Expr.atoms, Expr.atomsEach, atoms_factors]

end Clause

/-! ### From tokens to expressions -/

namespace Parser

open FilterQuery.Parser

theorem phrase_tokens (names : List String) (rest : List Token) :
    phrase (wordsTokens names ++ .char '"' :: rest) = some (.phrase names, rest) := by
  cases names with
  | nil => rfl
  | cons name names =>
    have each : List.Forall₂ (fun ts x => ∀ rest, True → reference (ts ++ rest) = some (x, rest))
        ((name :: names).map fun n => [Token.reference n]) (name :: names) := by
      rw [List.forall₂_map_left_iff, List.forall₂_same]
      exact fun n _ rest _ => rfl
    have done : (Token.char '"' :: rest).head? ≠ some (.char ' ') := by simp
    have read := sepBy_all (fun _ => trivial) (by simp) each trivial done
    obtain ⟨others, begins⟩ := wordsTokens_cons name names
    rw [← wordsTokens, begins] at read
    rw [begins]
    simp only [List.cons_append] at read ⊢
    simp only [phrase, read, Option.bind_eq_bind, Option.bind_some]
    simp [expect]

theorem test_tokens {operand : Operand} (noPattern : operand.test.isPattern = false) (rest : List Token) :
    test (operand.tokens ++ rest) = some (operand.test, rest) := by
  cases operand with
  | number n => exact if_pos rfl
  | above n inclusive | below n inclusive => cases inclusive <;> rfl
  | tag n => rfl
  | phrase ns =>
    rw [Operand.tokens, List.cons_append, List.append_assoc]
    exact phrase_tokens ns rest
  | pattern parts => cases noPattern

theorem atom_tokens (name : String) {operand : Operand} (noPattern : operand.test.isPattern = false)
    (rest : List Token) :
    atom (nameTokens name ++ .char ':' :: (operand.tokens ++ rest)) =
      some (⟨name, operand.test⟩, rest) := by
  have colon : (nameTokens name ++ .char ':' :: (operand.tokens ++ rest)).dropWhile
      (· ≠ .char ':') = .char ':' :: (operand.tokens ++ rest) := by
    rw [List.dropWhile_append_of_pos (nameTokens_ne_colon name),
      List.dropWhile_cons_of_neg (by decide)]
  rw [atom, colon]
  simp [test_tokens noPattern, fieldName_tokens]

/-- The tokens are read as the expression, whatever follows, if the depth is at least their number. -/
def Reads (ts : List Token) (e : Expr (Atom String)) : Prop :=
  ∀ depth, ts.length ≤ depth → ∀ rest, unary depth (ts ++ rest) = some (e, rest)

/-- The tokens are a conjunction of expressions without parentheses around it. -/
def Conjoins (ts : List Token) (es : List (Expr (Atom String))) : Prop :=
  ∃ tss, ts = List.intercalate [.char ' '] tss ∧ tss ≠ [] ∧ List.Forall₂ Reads tss es

theorem Reads.conjoins {ts : List Token} {e : Expr (Atom String)} (reads : Reads ts e) :
    Conjoins ts [e] :=
  ⟨[ts], List.intercalate_singleton.symm, by simp, .cons reads .nil⟩

theorem conjoins_all {tss : List (List Token)} {ess : List (List (Expr (Atom String)))}
    (some : tss ≠ []) (each : List.Forall₂ Conjoins tss ess) :
    Conjoins (List.intercalate [.char ' '] tss) ess.flatten := by
  induction each with
  | nil => exact absurd rfl some
  | @cons ts es tss ess first others ih =>
    cases others with
    | nil => simpa using first
    | cons second others =>
      obtain ⟨parts, rfl, here, reads⟩ := first
      obtain ⟨more, same, there, reads'⟩ := ih (by simp)
      refine ⟨parts ++ more, ?_, by simp [here], List.rel_append reads reads'⟩
      rw [intercalate_append _ here there, ← same, List.intercalate_cons_cons, List.append_assoc,
        List.singleton_append]

theorem Conjoins.read {ts : List Token} {es : List (Expr (Atom String))} (conjoins : Conjoins ts es)
    {depth : Nat} (enough : ts.length ≤ depth) {rest : List Token}
    (done : rest.head? ≠ some (.char ' ')) :
    conjunction (unary depth) (ts ++ rest) = some (.all es, rest) := by
  obtain ⟨tss, rfl, nonempty, reads⟩ := conjoins
  have short : ∀ ts ∈ tss, ts.length ≤ depth := fun ts member =>
    Nat.le_trans (mem_length_le_intercalate _ member) enough
  have each : List.Forall₂ (fun ts e => ∀ rest, True → unary depth (ts ++ rest) = some (e, rest))
      tss es :=
    ((List.forall₂_and_left _ _).mpr ⟨short, reads⟩).imp fun _ _ h rest _ => h.2 depth h.1 rest
  simp only [conjunction, sepBy_all (fun _ => trivial) nonempty each trivial done, Option.map_some]

theorem disjunction_tokens {tss : List (List Token)} {ess : List (List (Expr (Atom String)))}
    (nonempty : tss ≠ []) (each : List.Forall₂ Conjoins tss ess) {depth : Nat}
    (enough : (List.intercalate [.char '|'] tss).length ≤ depth) {rest : List Token}
    (noBlank : rest.head? ≠ some (.char ' ')) (noBar : rest.head? ≠ some (.char '|')) :
    disjunction (unary depth) (List.intercalate [.char '|'] tss ++ rest) =
      some (.any (ess.map .all), rest) := by
  have short : ∀ ts ∈ tss, ts.length ≤ depth := fun ts member =>
    Nat.le_trans (mem_length_le_intercalate _ member) enough
  have conjunctions : List.Forall₂ (fun ts e => ∀ rest : List Token,
      rest.head? ≠ some (.char ' ') → conjunction (unary depth) (ts ++ rest) = some (e, rest))
        tss (ess.map .all) := by
    rw [List.forall₂_map_right_iff]
    exact ((List.forall₂_and_left _ _).mpr ⟨short, each⟩).imp fun _ _ h _ done =>
      Conjoins.read h.2 h.1 done
  simp only [disjunction, sepBy_all (fun _ => by simp) nonempty conjunctions noBlank noBar,
    Option.map_some]

theorem reads_group {tss : List (List Token)} {ess : List (List (Expr (Atom String)))}
    (nonempty : tss ≠ []) (each : List.Forall₂ Conjoins tss ess) :
    Reads (.char '(' :: (List.intercalate [.char '|'] tss ++ [.char ')'])) (.any (ess.map .all)) := by
  intro depth enough rest
  cases depth with
  | zero => simp at enough
  | succ depth =>
    simp only [List.length_cons, List.length_append] at enough
    -- the parentheses pay for the level that the members lose
    have inside : disjunction (unary depth) (List.intercalate [.char '|'] tss ++ .char ')' :: rest) =
        some (.any (ess.map .all), .char ')' :: rest) :=
      disjunction_tokens nonempty each (by omega) (by simp) (by simp)
    simp [unary, inside, expect]

theorem reads_not {ts : List Token} {e : Expr (Atom String)} (inside : Reads ts e) :
    Reads (.char '-' :: ts) (.not e) := by
  intro depth enough rest
  cases depth with
  | zero => simp at enough
  | succ depth =>
    have read := inside depth (by simpa using enough) rest
    simp [unary, read]

theorem reads_field (name : String) {operand : Operand} (noPattern : operand.test.isPattern = false) :
    Reads (fieldTokens name operand) (.atom ⟨name, operand.test⟩) := by
  intro depth enough rest
  cases depth with
  | zero => simp [fieldTokens] at enough
  | succ depth =>
    have read := atom_tokens name noPattern rest
    simp [fieldTokens, unary, read]

end Parser

/-- There are no patterns among the atoms. -/
def Plain {ν : Type} (as : List (Atom ν)) : Prop := ∀ a ∈ as, a.test.isPattern = false

open FilterQuery.Search.Parser

namespace Clause

theorem factorsEach_eq (cs : List Clause) : factorsEach cs = (cs.map factors).flatten := by
  induction cs with
  | nil => rfl
  | cons c cs ih => rw [factorsEach, ih, List.map_cons, List.flatten_cons]

theorem conjunctions_eq (cs : List Clause) : conjunctions cs = (cs.map factors).map .all := by
  induction cs with
  | nil => rfl
  | cons c cs ih => rw [conjunctions, ih, List.map_cons, List.map_cons]

theorem tokensEach_ne_nil {cs : List Clause} (nonempty : cs ≠ []) : tokensEach cs ≠ [] := by
  cases cs with
  | nil => exact absurd rfl nonempty
  | cons c cs => exact List.cons_ne_nil _ _

mutual

theorem conjoins_tokens : ∀ c : Clause, c.WellFormed → Plain c.expr.atoms → Conjoins c.tokens c.factors
  | .everything, wf, _ => wf.elim
  | .all cs, wf, plain => by
    rw [tokens, factors, factorsEach_eq]
    exact conjoins_all (tokensEach_ne_nil wf.1) (conjoins_tokensEach cs wf.2 plain)
  | .any cs, wf, plain => by
    rw [tokens, factors, conjunctions_eq]
    exact (reads_group (tokensEach_ne_nil wf.1) (conjoins_tokensEach cs wf.2 plain)).conjoins
  | .notAll cs, wf, plain => by
    have inside := conjoins_all (tokensEach_ne_nil wf.1) (conjoins_tokensEach cs wf.2 plain)
    have group := reads_group (by simp) (.cons inside .nil)
    rw [List.intercalate_singleton, ← factorsEach_eq] at group
    exact (reads_not group).conjoins
  | .notAny cs, wf, plain => by
    rw [tokens, factors, conjunctions_eq]
    have group := reads_group (tokensEach_ne_nil wf.1) (conjoins_tokensEach cs wf.2 plain)
    exact (reads_not group).conjoins
  | .field name operand, _, plain => (reads_field name (plain _ List.mem_cons_self)).conjoins
  | .notField name operand, _, plain =>
    (reads_not (reads_field name (plain _ List.mem_cons_self))).conjoins

theorem conjoins_tokensEach : ∀ cs : List Clause, EachWellFormed cs →
    Plain (Expr.atomsEach (exprs cs)) → List.Forall₂ Conjoins (tokensEach cs) (cs.map factors)
  | [], _, _ => .nil
  | c :: cs, wf, plain => by
    rw [exprs, Expr.atomsEach, Plain, List.forall_mem_append] at plain
    exact .cons (conjoins_tokens c wf.1 plain.1) (conjoins_tokensEach cs wf.2 plain.2)

end

/-- The text of a clause is read back as the conjunction of its factors. -/
theorem parse_text {c : Clause} (wf : c.isEverything = false → c.WellFormed)
    (words : Worded c.expr.atoms) (plain : Plain c.expr.atoms) :
    parse c.text = some (.any [.all c.factors]) := by
  rw [parse, lex_text words]
  cases everything : c.isEverything with
  | true =>
    rw [eq_everything everything]
    rfl
  | false =>
    have conjoins := conjoins_tokens c (wf everything) plain
    have read : disjunction (unary c.tokens.length) c.tokens =
        some (.any [.all c.factors], []) := by
      have short : (List.intercalate [.char '|'] [c.tokens]).length ≤ c.tokens.length := by simp
      have none : ∀ t, ([] : List Token).head? ≠ some t := by simp
      have whole := disjunction_tokens (by simp) (.cons conjoins .nil) short (none _) (none _)
      simpa using whole
    cases tokens : c.tokens with
    | nil =>
      rw [tokens] at read
      cases read
    | cons t ts =>
      rw [tokens] at read
      simp only [read]

end Clause

end FilterQuery.Search
