import FilterQuery.Proofs.Compile.Induction
import FilterQuery.Proofs.Search.Naming

/-!
# What search filters compile to

A clause says what the expression of its filter says: it has the same value whatever the values of
the atoms are, and it has the atoms that are kept (`compile_filterExpr`). Between the two stands the
expression over the parameters that were bound for the operands.
-/

namespace FilterQuery.Search

open Generation Compiler

/-! ### The expression of a clause -/

def Operand.test : Operand → Test String
  | .number n => .number n
  | .above n inclusive => .above n inclusive
  | .below n inclusive => .below n inclusive
  | .tag n => .tag n
  | .phrase ns => .phrase ns
  | .pattern parts => .pattern parts

namespace Clause

mutual

def expr : Clause → Expr (Atom String)
  | .everything => .all []
  | .all cs => .all (exprs cs)
  | .any cs => .any (exprs cs)
  | .notAll cs => .not (.all (exprs cs))
  | .notAny cs => .not (.any (exprs cs))
  | .field name operand => .atom ⟨name, operand.test⟩
  | .notField name operand => .not (.atom ⟨name, operand.test⟩)

def exprs : List Clause → List (Expr (Atom String))
  | [] => []
  | c :: cs => c.expr :: exprs cs

end

theorem exprs_eq (cs : List Clause) : exprs cs = cs.map expr := by
  induction cs with
  | nil => rfl
  | cons c cs ih => rw [exprs, ih, List.map_cons]

mutual

/-- A clause that has a text: it has no empty groups, and none of its parts holds for everything. -/
def WellFormed : Clause → Prop
  | .everything => False
  | .all cs | .any cs | .notAll cs | .notAny cs => cs ≠ [] ∧ EachWellFormed cs
  | .field _ _ | .notField _ _ => True

def EachWellFormed : List Clause → Prop
  | [] => True
  | c :: cs => c.WellFormed ∧ EachWellFormed cs

end

theorem eachWellFormed_iff {cs : List Clause} : EachWellFormed cs ↔ ∀ c ∈ cs, c.WellFormed := by
  induction cs with
  | nil => simp [EachWellFormed]
  | cons c cs ih => simp [EachWellFormed, ih]

theorem eq_everything {c : Clause} (holds : c.isEverything) : c = .everything := by
  cases c with
  | everything => rfl
  | _ => cases holds

theorem proper_cons (c : Clause) (cs : List Clause) :
    proper (c :: cs) = if c.isEverything then proper cs else c :: proper cs := by
  unfold proper
  cases everything : c.isEverything <;> simp [everything]

theorem mem_proper {c : Clause} {cs : List Clause} (member : c ∈ proper cs) :
    c ∈ cs ∧ c.isEverything = false := by
  simpa [proper] using member

theorem proper_eq_nil_iff {cs : List Clause} : proper cs = [] ↔ cs.all isEverything := by
  simp [proper]

theorem evalEach_proper (V : Atom String → Bool) (cs : List Clause) :
    (Expr.evalEach V (exprs (proper cs))).all id = (Expr.evalEach V (exprs cs)).all id := by
  induction cs with
  | nil => rfl
  | cons c cs ih =>
    rw [proper_cons, exprs, Expr.evalEach, List.all_cons]
    split
    · rename_i holds
      rw [ih, eq_everything holds]
      rfl
    · rw [exprs, Expr.evalEach, List.all_cons, ih]

theorem atomsEach_proper (cs : List Clause) :
    Expr.atomsEach (exprs (proper cs)) = Expr.atomsEach (exprs cs) := by
  induction cs with
  | nil => rfl
  | cons c cs ih =>
    rw [proper_cons, exprs, Expr.atomsEach]
    split
    · rename_i holds
      rw [ih, eq_everything holds]
      rfl
    · rw [exprs, Expr.atomsEach, ih]

/-- The three forms that a conjunction can have, by the number of its members that say something. -/
theorem conj_cases (cs : List Clause) :
    (proper cs = [] ∧ conj cs = .everything) ∨ (∃ c, proper cs = [c] ∧ conj cs = c) ∨
      (proper cs ≠ [] ∧ conj cs = .all (proper cs)) := by
  unfold conj
  split
  · exact .inl ⟨by assumption, rfl⟩
  · exact .inr (.inl ⟨_, by assumption, rfl⟩)
  · exact .inr (.inr ⟨by assumption, rfl⟩)

theorem conj_eval (V : Atom String → Bool) (cs : List Clause) :
    (conj cs).expr.eval V = (Expr.evalEach V (exprs cs)).all id := by
  rw [← evalEach_proper]
  rcases conj_cases cs with ⟨none, same⟩ | ⟨c, one, same⟩ | ⟨_, same⟩
  · rw [none, same]
    rfl
  · rw [one, same]
    simp [exprs, Expr.evalEach]
  · rw [same]
    rfl

theorem conj_atoms (cs : List Clause) : (conj cs).expr.atoms = Expr.atomsEach (exprs cs) := by
  rw [← atomsEach_proper]
  rcases conj_cases cs with ⟨none, same⟩ | ⟨c, one, same⟩ | ⟨_, same⟩
  · rw [none, same]
    rfl
  · rw [one, same]
    simp [exprs, Expr.atomsEach]
  · rw [same]
    rfl

theorem conj_isEverything (cs : List Clause) : (conj cs).isEverything = cs.all isEverything := by
  rcases conj_cases cs with ⟨none, same⟩ | ⟨c, one, same⟩ | ⟨some, same⟩
  · rw [same, proper_eq_nil_iff.mp none]
    rfl
  · have member : c ∈ proper cs := one ▸ List.mem_singleton_self c
    have more : cs.all isEverything = false := Bool.eq_false_iff.mpr fun all => by
      rw [proper_eq_nil_iff.mpr all] at one
      cases one
    rw [same, (mem_proper member).2, more]
  · have more : cs.all isEverything = false :=
      Bool.eq_false_iff.mpr fun all => some (proper_eq_nil_iff.mpr all)
    rw [same, more]
    rfl

theorem conj_wellFormed {cs : List Clause} (each : ∀ c ∈ proper cs, c.WellFormed)
    (more : (conj cs).isEverything = false) : (conj cs).WellFormed := by
  rcases conj_cases cs with ⟨_, same⟩ | ⟨c, one, same⟩ | ⟨some, same⟩
  · rw [same] at more
    cases more
  · rw [same]
    exact each c (one ▸ List.mem_singleton_self c)
  · rw [same, WellFormed, eachWellFormed_iff]
    exact ⟨some, each⟩

end Clause

/-! ### What a clause says -/

/-- The clause has the value of the expression and its kept atoms, and no text if the expression
holds for the sake of its form. -/
structure Says (c : Clause) (t : Expr (Atom Param)) : Prop where
  eval_eq (V : Atom String → Bool) : c.expr.eval V = t.eval (V ∘ Atom.map Param.name)
  atoms_eq : c.expr.atoms = t.kept.map (Atom.map Param.name)
  form_eq : c.isEverything = t.vacuous
  wellFormed : c.isEverything = false → c.WellFormed

/-- As `Says`, for the members of a group. -/
structure SaysEach (cs : List Clause) (ts : List (Expr (Atom Param))) : Prop where
  evals_eq (V : Atom String → Bool) :
    Expr.evalEach V (Clause.exprs cs) = Expr.evalEach (V ∘ Atom.map Param.name) ts
  atoms_eq : Expr.atomsEach (Clause.exprs cs) = (Expr.keptEach ts).map (Atom.map Param.name)
  forms_eq : cs.map Clause.isEverything = Expr.vacuousEach ts
  wellFormed : ∀ c ∈ cs, c.isEverything = false → c.WellFormed

theorem SaysEach.nil : SaysEach [] [] := ⟨fun _ => rfl, rfl, rfl, by simp⟩

theorem SaysEach.cons {c : Clause} {cs : List Clause} {t : Expr (Atom Param)}
    {ts : List (Expr (Atom Param))} (first : Says c t) (rest : SaysEach cs ts) :
    SaysEach (c :: cs) (t :: ts) where
  evals_eq V := by rw [Clause.exprs, Expr.evalEach, first.eval_eq, rest.evals_eq, Expr.evalEach]
  atoms_eq := by
    rw [Clause.exprs, Expr.atomsEach, first.atoms_eq, rest.atoms_eq, Expr.keptEach, List.map_append]
  forms_eq := by rw [List.map_cons, first.form_eq, rest.forms_eq, Expr.vacuousEach]
  wellFormed := List.forall_mem_cons.mpr ⟨first.wellFormed, rest.wellFormed⟩

theorem says_field (name : String) {operand : Operand} {test : Test Param}
    (same : test.map Param.name = operand.test) : Says (.field name operand) (.atom ⟨name, test⟩) where
  eval_eq V := by
    rw [Clause.expr, Expr.eval, Expr.eval, ← same]
    rfl
  atoms_eq := by
    rw [Clause.expr, ← same]
    rfl
  form_eq := rfl
  wellFormed _ := trivial

theorem says_notField (name : String) {operand : Operand} {test : Test Param}
    (same : test.map Param.name = operand.test) :
    Says (.notField name operand) (.not (.atom ⟨name, test⟩)) where
  eval_eq V := by
    rw [Clause.expr, Expr.eval, Expr.eval, Expr.eval, Expr.eval, ← same]
    rfl
  atoms_eq := by
    rw [Clause.expr, ← same]
    rfl
  form_eq := rfl
  wellFormed _ := trivial

section Groups

variable {cs : List Clause} {ts : List (Expr (Atom Param))}

theorem SaysEach.isEverything_all (each : SaysEach cs ts) :
    cs.all Clause.isEverything = (Expr.all ts).vacuous := by
  rw [Expr.vacuous, ← each.forms_eq, List.all_map]
  rfl

theorem SaysEach.isEverything_any (each : SaysEach cs ts) :
    cs.any Clause.isEverything = (Expr.any ts).vacuous := by
  rw [Expr.vacuous, ← each.forms_eq, List.any_map]
  rfl

theorem SaysEach.proper_wellFormed (each : SaysEach cs ts) :
    ∀ c ∈ Clause.proper cs, c.WellFormed := by
  intro c member
  obtain ⟨member, more⟩ := Clause.mem_proper member
  exact each.wellFormed c member more

theorem SaysEach.conj (each : SaysEach cs ts) : Says (.conj cs) (.all ts) where
  eval_eq V := by rw [Clause.conj_eval, each.evals_eq, Expr.eval]
  atoms_eq := by rw [Clause.conj_atoms, each.atoms_eq, Expr.kept]
  form_eq := by rw [Clause.conj_isEverything, each.isEverything_all]
  wellFormed more := Clause.conj_wellFormed each.proper_wellFormed more

theorem SaysEach.dropped (each : SaysEach cs ts) (some : cs.any Clause.isEverything) :
    Says .everything (.any ts) := by
  have form : (Expr.any ts).vacuous := each.isEverything_any ▸ some
  refine ⟨fun V => ?_, ?_, form.symm, fun more => by cases more⟩
  · obtain ⟨c, member, holds⟩ := List.any_eq_true.mp some
    have value : true ∈ Expr.evalEach V (Clause.exprs cs) := by
      rw [Expr.evalEach_eq, Clause.exprs_eq, List.map_map, List.mem_map]
      exact ⟨c, member, by rw [Clause.eq_everything holds]; rfl⟩
    rw [Expr.eval, ← each.evals_eq]
    exact (List.any_eq_true.mpr ⟨true, value, rfl⟩).symm
  · rw [Expr.kept_of_vacuous _ form]
    rfl

theorem SaysEach.any (each : SaysEach cs ts) (some : cs ≠ [])
    (none : cs.any Clause.isEverything = false) : Says (.any cs) (.any ts) where
  eval_eq V := by rw [Clause.expr, Expr.eval, each.evals_eq, Expr.eval]
  atoms_eq := by
    rw [Clause.expr, Expr.atoms, each.atoms_eq, Expr.kept, ← each.isEverything_any, none]
    rfl
  form_eq := (each.isEverything_any ▸ none).symm
  wellFormed _ := by
    rw [Clause.WellFormed, Clause.eachWellFormed_iff]
    refine ⟨some, fun c member => each.wellFormed c member ?_⟩
    simpa using List.any_eq_false.mp none c member

theorem SaysEach.notAny (each : SaysEach cs ts) (some : cs ≠ [])
    (none : cs.any Clause.isEverything = false) : Says (.notAny cs) (.not (.any ts)) where
  eval_eq V := congrArg (!·) ((each.any some none).eval_eq V)
  atoms_eq := (each.any some none).atoms_eq
  form_eq := by
    cases ts with
    | nil => exact absurd (List.map_eq_nil_iff.mp each.forms_eq) some
    | cons t ts => rfl
  wellFormed more := (each.any some none).wellFormed more

theorem SaysEach.notAll (each : SaysEach cs ts) (some : Clause.proper cs ≠ []) :
    Says (.notAll (Clause.proper cs)) (.not (.all ts)) where
  eval_eq V := by
    rw [Clause.expr, Expr.eval, Expr.eval, Expr.eval, Expr.eval, Clause.evalEach_proper,
      each.evals_eq]
  atoms_eq := by
    rw [Clause.expr, Expr.atoms, Expr.atoms, Clause.atomsEach_proper, each.atoms_eq, Expr.kept,
      Expr.kept]
  form_eq := rfl
  wellFormed _ := by
    rw [Clause.WellFormed, Clause.eachWellFormed_iff]
    exact ⟨some, each.proper_wellFormed⟩

theorem says_nothing : Says .everything (.not (.any [])) :=
  ⟨fun _ => rfl, rfl, rfl, fun more => by cases more⟩

end Groups

/-! ### Parameters -/

def params (t : Expr (Atom Param)) : Params := t.atoms.flatMap (·.test.values)

/-- From the parameters `s` on, the clause of the expression is made and its operands are bound. -/
structure Makes (e : Expr (Atom (List UInt8))) (s : Params) (c : Clause) (t : Expr (Atom Param))
    (u : Params) : Prop where
  value_eq : t.map (Atom.map Param.value) = e
  binds : Binds s (params t) u
  clause : Says c t

/-- As `Makes`, for the members of a group. -/
structure MakesEach (es : List (Expr (Atom (List UInt8)))) (s : Params) (cs : List Clause)
    (ts : List (Expr (Atom Param))) (u : Params) : Prop where
  values_eq : Expr.mapEach (Atom.map Param.value) ts = es
  binds : Binds s ((Expr.atomsEach ts).flatMap (·.test.values)) u
  clauses : SaysEach cs ts

theorem MakesEach.nil (s : Params) : MakesEach [] s [] [] s := ⟨rfl, .nothing s, .nil⟩

theorem MakesEach.cons {e : Expr (Atom (List UInt8))} {es : List (Expr (Atom (List UInt8)))}
    {s x u : Params} {c : Clause} {cs : List Clause} {t : Expr (Atom Param)}
    {ts : List (Expr (Atom Param))} (first : Makes e s c t x) (rest : MakesEach es x cs ts u) :
    MakesEach (e :: es) s (c :: cs) (t :: ts) u where
  values_eq := by rw [Expr.mapEach, first.value_eq, rest.values_eq]
  binds := by
    rw [Expr.atomsEach, List.flatMap_append]
    exact first.binds.append rest.binds
  clauses := .cons first.clause rest.clauses

theorem MakesEach.group {es : List (Expr (Atom (List UInt8)))} {s u : Params} {cs : List Clause}
    {ts : List (Expr (Atom Param))} (each : MakesEach es s cs ts u) {c : Clause}
    {e : Expr (Atom (List UInt8))} {t : Expr (Atom Param)}
    (value : t.map (Atom.map Param.value) = e) (atoms : t.atoms = Expr.atomsEach ts)
    (clause : Says c t) : Makes e s c t u where
  value_eq := value
  binds := by
    rw [params, atoms]
    exact each.binds
  clause := clause

section Groups

variable {es : List (Expr (Atom (List UInt8)))} {s u : Params} {cs : List Clause}
  {ts : List (Expr (Atom Param))}

theorem MakesEach.all (each : MakesEach es s cs ts u) :
    Makes (.all es) s (.conj cs) (.all ts) u :=
  each.group (congrArg _ each.values_eq) rfl each.clauses.conj

theorem MakesEach.any (each : MakesEach es s cs ts u) {c : Clause} (clause : Says c (.any ts)) :
    Makes (.any es) s c (.any ts) u :=
  each.group (congrArg _ each.values_eq) rfl clause

theorem MakesEach.notAny (each : MakesEach es s cs ts u) {c : Clause}
    (clause : Says c (.not (.any ts))) : Makes (.not (.any es)) s c (.not (.any ts)) u :=
  each.group (congrArg (fun es => Expr.not (.any es)) each.values_eq) rfl clause

theorem MakesEach.notAll (each : MakesEach es s cs ts u) (some : Clause.proper cs ≠ []) :
    Makes (.not (.all es)) s (.notAll (Clause.proper cs)) (.not (.all ts)) u :=
  each.group (congrArg (fun es => Expr.not (.all es)) each.values_eq) rfl (each.clauses.notAll some)

end Groups

/-! ### Tests -/

theorem makes_atom {field : String} {s u : Params} {operand : Operand} {t : Test Param}
    (named : t.map Param.name = operand.test) (binds : Binds s t.values u) :
    Makes (.atom ⟨field, t.map Param.value⟩) s (.field field operand) (.atom ⟨field, t⟩) u where
  value_eq := rfl
  binds := by simpa [params, Expr.atoms] using binds
  clause := says_field field named

theorem makes_notAtom {field : String} {s u : Params} {operand : Operand} {t : Test Param}
    (named : t.map Param.name = operand.test) (binds : Binds s t.values u) :
    Makes (.not (.atom ⟨field, t.map Param.value⟩)) s (.notField field operand)
      (.not (.atom ⟨field, t⟩)) u where
  value_eq := rfl
  binds := by simpa [params, Expr.atoms] using binds
  clause := says_notField field named

/-- What makes an operand of a value binds what the value is tested with. -/
def Tests (make : String → Indexed → Generation Params Operand)
    (test : Indexed → Test (List UInt8)) : Prop :=
  ∀ ⦃base : String⦄ ⦃v : Indexed⦄ ⦃s u : Params⦄ ⦃operand : Operand⦄, IsName base →
    Yields (make base v) s operand u → ∃ t : Test Param, t.map Param.name = operand.test ∧
      t.map Param.value = test v ∧ Binds s t.values u

theorem tests_bindOperand : Tests bindOperand Indexed.test := by
  intro base v s u operand word h
  cases v with
  | number x =>
    obtain ⟨p, rfl, value, binds⟩ := yields_bound word h
    exact ⟨.number p, rfl, congrArg Test.number value, binds⟩
  | tag b =>
    obtain ⟨p, rfl, value, binds⟩ := yields_bound word h
    exact ⟨.tag p, rfl, congrArg Test.tag value, binds⟩
  | text bs =>
    obtain ⟨names, _, bound, returned⟩ := yields_bind.mp h
    obtain ⟨rfl, rfl⟩ := yields_pure.mp returned
    obtain ⟨ps, rfl, value, binds⟩ := yields_bindWords word bound
    exact ⟨.phrase ps, rfl, congrArg Test.phrase value, binds⟩

theorem tests_tag : Tests (fun base v => return .tag (← bind base v.toText)) (.tag ·.toText) := by
  intro base v s u operand word h
  obtain ⟨p, rfl, value, binds⟩ := yields_bound word h
  exact ⟨.tag p, rfl, congrArg Test.tag value, binds⟩

theorem yields_indexed {n : Node} {path : Path} {s u : Params} {v : Indexed}
    (h : Yields (indexed n path) s v u) : n.scalar?.bind Indexed.ofValue? = some v ∧ u = s := by
  unfold indexed at h
  split at h
  · rename_i found
    obtain ⟨rfl, rfl⟩ := yields_pure.mp h
    exact ⟨found, rfl⟩
  · exact absurd h yields_throw

section Leaves

variable {op : Operation Clause} {s u : Params}

theorem makes_equal {make : String → Operand → Clause} {r : Option Clause}
    (h : Yields (equalClause make op) s r u) :
    ∃ operand, ∃ t : Test Param, r = some (make (fieldOf op) operand) ∧
      t.map Param.name = operand.test ∧ Binds s t.values u ∧
        valueExpr op.data Indexed.test op.operand = .atom ⟨fieldOf op, t.map Param.value⟩ := by
  obtain ⟨v, _, value, afterValue⟩ := yields_bind.mp h
  obtain ⟨found, rfl⟩ := yields_indexed value
  obtain ⟨operand, _, bound, returned⟩ := yields_bind.mp afterValue
  obtain ⟨rfl, rfl⟩ := yields_pure.mp returned
  obtain ⟨t, named, valued, binds⟩ := tests_bindOperand (isName_paramBase _) bound
  refine ⟨operand, t, rfl, named, binds, ?_⟩
  rw [valueExpr, found, valued]
  rfl

theorem makes_items {make : String → Indexed → Generation Params Operand}
    {test : Indexed → Test (List UInt8)} (tests : Tests make test) {i : Nat} {ns : List Node}
    {cs : List Clause} (h : Yields (bindItems make op i ns) s cs u) :
    (∀ n ∈ ns, ∃ v, n = .scalar v) ∧ cs.any Clause.isEverything = false ∧ cs.length = ns.length ∧
      ∃ ts, MakesEach (ns.map (valueExpr op.data test)) s cs ts u := by
  -- each item has one clause, so that a list with items has a group that is not empty
  induction ns generalizing i s cs with
  | nil =>
    obtain ⟨rfl, rfl⟩ := yields_pure.mp h
    exact ⟨by simp, rfl, rfl, [], .nil s⟩
  | cons n ns ih =>
    obtain ⟨v, _, value, afterValue⟩ := yields_bind.mp h
    obtain ⟨found, rfl⟩ := yields_indexed value
    obtain ⟨operand, _, bound, afterOperand⟩ := yields_bind.mp afterValue
    obtain ⟨t, named, valued, binds⟩ :=
      tests ((isName_paramBase _).append (isName_toString i)) bound
    obtain ⟨rest, _, others, returned⟩ := yields_bind.mp afterOperand
    obtain ⟨rfl, rfl⟩ := yields_pure.mp returned
    obtain ⟨scalars, none, count, ts, makes⟩ := ih others
    obtain ⟨w, scalar, _⟩ := Option.bind_eq_some_iff.mp found
    have isScalar : ∃ v, n = .scalar v := by
      cases n with
      | scalar v => exact ⟨v, rfl⟩
      | _ => cases scalar
    have first : valueExpr op.data test n = .atom ⟨fieldOf op, t.map Param.value⟩ := by
      rw [valueExpr, found, valued]
      rfl
    refine ⟨List.forall_mem_cons.mpr ⟨isScalar, scalars⟩, none, congrArg (· + 1) count,
      .atom ⟨fieldOf op, t⟩ :: ts, ?_⟩
    rw [List.map_cons, first]
    exact .cons (makes_atom named binds) makes

end Leaves

/-! ### Operations -/

section Operations

variable {operator : Operator} {path P : Path} {n : Node} {v : Value} {ns : List Node}
  {children : List Clause} {elements : List Node} {s u : Params} {r : Option Clause}

theorem makes_range {make : String → Operand} (test : List UInt8 → Test (List UInt8))
    (tests : ∀ p : Param, ∃ t : Test Param, t.map Param.name = (make p.name).test ∧
      t.map Param.value = test p.value ∧ t.values = [p])
    (h : Yields (rangeClause make ⟨operator, path, P, .scalar v, children, elements⟩) s r u) :
    ∃ t, Makes (.atom ⟨fieldAt P, test (boundText v)⟩) s (r.getD .everything) t u := by
  obtain ⟨p, rfl, value, binds⟩ := yields_bound (isName_paramBase _) h
  obtain ⟨t, named, valued, one⟩ := tests p
  have bound : boundText v = p.value := value.symm
  rw [bound, ← valued]
  exact ⟨_, makes_atom named (one ▸ binds)⟩

theorem makes_like
    (h : Yields (likeClause ⟨operator, path, P, .scalar v, children, elements⟩) s r u) :
    ∃ t, Makes (likeExpr P v) s (r.getD .everything) t u := by
  unfold likeClause at h
  split at h
  · rename_i bs text
    obtain ⟨names, _, bound, returned⟩ := yields_bind.mp h
    obtain ⟨rfl, rfl⟩ := yields_pure.mp returned
    obtain ⟨pss, named, value, binds⟩ := yields_bindParts (isName_paramBase _) bound
    have whole : likeExpr P v = .atom ⟨fieldAt P, (Test.pattern pss).map Param.value⟩ := by
      have text : v.textBytes? = some bs := text
      rw [likeExpr, text, Test.map, value]
    rw [whole]
    exact ⟨_, makes_atom (congrArg Test.pattern named) binds⟩
  · exact absurd h yields_throw

theorem makes_scalar (accepted : operator.accepts (.scalar v))
    (h : Yields (clauseOf ⟨operator, path, P, .scalar v, children, elements⟩) s r u)
    (supported : operator ≠ .present) :
    ∃ t, Makes (scalarExpr P operator v) s (r.getD .everything) t u := by
  cases operator with
  | and | or | nor | not | oneOf | noneOf | allOf => cases accepted
  | present => exact absurd rfl supported
  | eq =>
    obtain ⟨operand, t, rfl, named, binds, whole⟩ := makes_equal h
    rw [scalarExpr, whole]
    exact ⟨_, makes_atom named binds⟩
  | ne =>
    obtain ⟨operand, t, rfl, named, binds, whole⟩ := makes_equal h
    rw [scalarExpr, whole]
    exact ⟨_, makes_notAtom named binds⟩
  | gt => exact makes_range (.above · false) (fun p => ⟨.above p false, rfl, rfl, rfl⟩) h
  | gte => exact makes_range (.above · true) (fun p => ⟨.above p true, rfl, rfl, rfl⟩) h
  | lt => exact makes_range (.below · false) (fun p => ⟨.below p false, rfl, rfl, rfl⟩) h
  | lte => exact makes_range (.below · true) (fun p => ⟨.below p true, rfl, rfl, rfl⟩) h
  | like => exact makes_like h

theorem makes_list (list : operator.takesValues)
    (h : Yields (clauseOf ⟨operator, path, P, .sequence ns, children, elements⟩) s r u) :
    (∀ n ∈ ns, ∃ v, n = .scalar v) ∧
      ∃ t, Makes (listExpr P operator ns) s (r.getD .everything) t u := by
  cases operator with
  | oneOf =>
    cases ns with
    | nil => exact absurd h yields_throw
    | cons n ns =>
      obtain ⟨cs, _, bound, returned⟩ := yields_bind.mp h
      obtain ⟨rfl, rfl⟩ := yields_pure.mp returned
      obtain ⟨scalars, none, count, ts, makes⟩ := makes_items tests_bindOperand bound
      have some : cs ≠ [] := List.ne_nil_of_length_eq_add_one count
      exact ⟨scalars, _, makes.any (makes.clauses.any some none)⟩
  | noneOf =>
    cases ns with
    | nil =>
      obtain ⟨rfl, rfl⟩ := yields_pure.mp h
      exact ⟨by simp, _, (MakesEach.nil s).notAny says_nothing⟩
    | cons n ns =>
      obtain ⟨cs, _, bound, returned⟩ := yields_bind.mp h
      obtain ⟨rfl, rfl⟩ := yields_pure.mp returned
      obtain ⟨scalars, none, count, ts, makes⟩ := makes_items tests_bindOperand bound
      have some : cs ≠ [] := List.ne_nil_of_length_eq_add_one count
      exact ⟨scalars, _, makes.notAny (makes.clauses.notAny some none)⟩
  | allOf =>
    cases ns with
    | nil =>
      obtain ⟨rfl, rfl⟩ := yields_pure.mp h
      exact ⟨by simp, _, (MakesEach.nil s).all⟩
    | cons n ns =>
      obtain ⟨cs, _, bound, returned⟩ := yields_bind.mp h
      obtain ⟨rfl, rfl⟩ := yields_pure.mp returned
      obtain ⟨scalars, _, _, ts, makes⟩ := makes_items tests_tag bound
      exact ⟨scalars, _, makes.all⟩
  | _ => cases list

variable {es : List (Expr (Atom (List UInt8)))} {cs : List Clause} {ts : List (Expr (Atom Param))}
  {x : Params}

theorem makes_or (each : MakesEach es s cs ts x)
    (h : Yields (clauseOf ⟨.or, path, P, n, cs, elements⟩) x r u) :
    ∃ t, Makes (.any es) s (r.getD .everything) t u := by
  simp only [clauseOf] at h
  split at h
  · exact absurd h yields_throw
  · rename_i nonempty
    have some : cs ≠ [] := fun none => nonempty (by rw [none]; rfl)
    split at h
    · rename_i holds
      obtain ⟨rfl, rfl⟩ := yields_pure.mp h
      exact ⟨_, each.any (each.clauses.dropped holds)⟩
    · rename_i none
      obtain ⟨rfl, rfl⟩ := yields_pure.mp h
      exact ⟨_, each.any (each.clauses.any some (Bool.eq_false_iff.mpr none))⟩

theorem makes_nor (each : MakesEach es s cs ts x)
    (h : Yields (clauseOf ⟨.nor, path, P, n, cs, elements⟩) x r u) :
    ∃ t, Makes (.not (.any es)) s (r.getD .everything) t u := by
  simp only [clauseOf] at h
  split at h
  · rename_i empty
    obtain ⟨rfl, rfl⟩ := yields_pure.mp h
    obtain rfl := List.isEmpty_iff.mp empty
    have none : ts = [] := by
      have forms := each.clauses.forms_eq
      cases ts with
      | nil => rfl
      | cons t ts => cases forms
    subst none
    exact ⟨_, each.notAny says_nothing⟩
  · rename_i nonempty
    have some : cs ≠ [] := fun none => nonempty (by rw [none]; rfl)
    split at h
    · exact absurd h yields_throw
    · rename_i none
      obtain ⟨rfl, rfl⟩ := yields_pure.mp h
      exact ⟨_, each.notAny (each.clauses.notAny some (Bool.eq_false_iff.mpr none))⟩

theorem makes_not {ds : List Clause} (same : Clause.proper cs = Clause.proper ds)
    (each : MakesEach es s ds ts x)
    (h : Yields (clauseOf ⟨.not, path, P, n, cs, elements⟩) x r u) :
    ∃ t, Makes (.not (.all es)) s (r.getD .everything) t u := by
  simp only [clauseOf, same] at h
  split at h
  · exact absurd h yields_throw
  · rename_i some
    obtain ⟨rfl, rfl⟩ := yields_pure.mp h
    exact ⟨_, each.notAll some⟩

theorem makes_and {ds : List Clause} (same : Clause.proper cs = Clause.proper ds)
    (each : MakesEach es s ds ts x)
    (h : Yields (clauseOf ⟨.and, path, P, n, cs, elements⟩) x r u) :
    r.isSome ∧ ∃ t, Makes (.all es) s (r.getD .everything) t u := by
  obtain ⟨rfl, rfl⟩ := yields_pure.mp h
  have conj : Clause.conj cs = Clause.conj ds := by unfold Clause.conj; rw [same]
  refine ⟨rfl, .all ts, ?_⟩
  rw [Option.getD_some, conj]
  exact each.all

end Operations

/-! ### Compilations -/

/-- The artifact of an entry is the clause of its expression; an entry that is dropped holds for
everything. -/
def Made (P : Path) (e : String × Node) (s : Params) (r : Option Clause) (u : Params) : Prop :=
  ∃ t, Makes (entryExpr P e.1 e.2) s (r.getD .everything) t u

/-- Members that are dropped make no difference to the clauses that say something. -/
theorem chain_makes {ι : Type} {R : ι → Params → Option Clause → Params → Prop}
    {expr : ι → Expr (Atom (List UInt8))}
    (each : ∀ x s r u, R x s r u → ∃ t, Makes (expr x) s (r.getD .everything) t u) {xs : List ι}
    {s u : Params} {cs : List Clause} (chain : Chain R xs s cs u) :
    ∃ ds ts, Clause.proper cs = Clause.proper ds ∧ MakesEach (xs.map expr) s ds ts u ∧
      ((∀ x s r u, R x s r u → r.isSome) → ds = cs) := by
  induction chain with
  | nil s => exact ⟨[], [], rfl, .nil s, fun _ => rfl⟩
  | @cons x xs s _ u r cs first _ ih =>
    obtain ⟨ds, ts, same, makes, whole⟩ := ih
    obtain ⟨t, made⟩ := each _ _ _ _ first
    refine ⟨r.getD .everything :: ds, t :: ts, ?_, .cons made makes, fun some => ?_⟩
    · cases r with
      | none => exact same
      | some c => simp [Clause.proper_cons, same]
    -- without members that are dropped the two lists are the same
    · obtain ⟨c, rfl⟩ := Option.isSome_iff_exists.mp (some _ _ _ _ first)
      rw [whole some]
      rfl

variable {depth : Int} {P : Path}

theorem yields_generator {op : Operator} {g : Generator Params Clause}
    (found : (compiler.withDepth depth).dialect.generator? op = some g) :
    op ≠ .present ∧ g = clauseOf := by
  have generator : (compiler.withDepth depth).dialect.generator? op =
      if op = .present then none else some clauseOf := rfl
  rw [generator] at found
  split at found
  · cases found
  · exact ⟨by assumption, (Option.some.inj found).symm⟩

theorem andGenerator_eq : (compiler.withDepth depth).andGenerator = clauseOf :=
  (yields_generator (generator?_and _)).2

theorem entries_make {es : List (String × Node)} {s u : Params} {cs : List Clause}
    (chain : Chain (Made P) es s cs u) :
    ∃ ds ts, Clause.proper cs = Clause.proper ds ∧ MakesEach (entryExprs P es) s ds ts u := by
  obtain ⟨ds, ts, same, makes, _⟩ := chain_makes (fun _ _ _ _ made => made) chain
  rw [entryExprs_eq]
  exact ⟨ds, ts, same, makes⟩

theorem filter_makes {n : Node} {s u : Params} {r : Option Clause}
    (h : (compiler.withDepth depth).FilterOf Made P n s r u) :
    r.isSome ∧ ∃ t, Makes (filterExpr P n) s (r.getD .everything) t u := by
  obtain ⟨es, path, cs, x, rfl, chain, generated⟩ := h
  obtain ⟨ds, ts, same, makes⟩ := entries_make chain
  rw [andGenerator_eq] at generated
  exact makes_and same makes generated

theorem filters_make {ns : List Node} {s u : Params} {cs : List Clause}
    (chain : Chain ((compiler.withDepth depth).FilterOf Made P) ns s cs u) :
    ∃ ts, MakesEach (filterExprs P ns) s cs ts u := by
  have each : ∀ n s r u, (compiler.withDepth depth).FilterOf Made P n s r u →
      r.isSome ∧ ∃ t, Makes (filterExpr P n) s (r.getD .everything) t u :=
    fun _ _ _ _ h => filter_makes h
  obtain ⟨ds, ts, _, makes, whole⟩ := chain_makes (fun n s r u h => (each n s r u h).2) chain
  obtain rfl := whole fun n s r u h => (each n s r u h).1
  rw [filterExprs_eq]
  exact ⟨ts, makes⟩

theorem closed_made (depth : Int) : (compiler.withDepth depth).Closed Made where
  field {P _ key es _ _ _ cs r} isField entries generated := by
    obtain ⟨ds, ts, same, makes⟩ := entries_make entries
    rw [andGenerator_eq] at generated
    rw [Made, entryExpr, Operator.ofName?_of_field isField]
    exact (makes_and same makes generated).2
  equals {P _ key v _ _ r} isField _ generated := by
    obtain ⟨supported, same⟩ := yields_generator (generator?_eq (compiler.withDepth depth))
    rw [same] at generated
    rw [Made, entryExpr, Operator.ofName?_of_field isField]
    exact makes_scalar rfl generated supported
  combine {P _ key op g ns _ _ _ cs r} named found combinator _ filters generated := by
    obtain ⟨_, rfl⟩ := yields_generator found
    obtain ⟨ts, makes⟩ := filters_make filters
    rw [Made, entryExpr, named]
    cases op with
    | and => exact (makes_and rfl makes generated).2
    | or => exact makes_or makes generated
    | nor => exact makes_nor makes generated
    | _ => cases combinator
  negate {P _ key g es _ _ _ cs r} named found _ _ entries generated := by
    obtain ⟨_, rfl⟩ := yields_generator found
    obtain ⟨ds, ts, same, makes⟩ := entries_make entries
    rw [Made, entryExpr, named]
    exact makes_not same makes generated
  values {P _ key op g ns _ _ _ parts r} named found list _ _ items generated := by
    obtain ⟨_, rfl⟩ := yields_generator found
    obtain ⟨scalars, makes⟩ := makes_list list generated
    -- all items turn out to be scalars, so that the items themselves have bound nothing before
    obtain rfl := foldItems_scalars scalars items
    rw [Made, entryExpr, named]
    cases op with
    | oneOf | noneOf | allOf => exact makes
    | _ => cases list
  scalar {P _ key op g v _ _ r} named found accepted _ _ generated := by
    obtain ⟨supported, rfl⟩ := yields_generator found
    rw [Made, entryExpr, named]
    exact makes_scalar accepted generated supported

/-- A filter that compiles has a clause that says what its expression says, where the operands of the
expression are those of the parameters. -/
theorem compile_filterExpr {q : Node} {r : Query}
    (compiled : (compiler.withDepth depth).compile q = .ok r) :
    ∃ t, t.map (Atom.map Param.value) = filterExpr [] q ∧ r.params = params t ∧ Valid r.params ∧
      Says r.clause t := by
  obtain ⟨a, s, x, generated, resolved⟩ := compile_eq_ok_iff.mp compiled
  obtain ⟨d, filter, rfl⟩ := (closed_made depth).generate generated
  obtain ⟨_, t, value, ⟨bound, valid⟩, clause⟩ := filter_makes filter
  obtain rfl := (Except.ok.inj (congrArg Prod.fst resolved)).symm
  have nothing : Valid [] := ⟨List.nodup_nil, by simp⟩
  exact ⟨t, value, bound, valid nothing, clause⟩

end FilterQuery.Search
