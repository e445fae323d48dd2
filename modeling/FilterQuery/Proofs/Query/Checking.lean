import FilterQuery.Proofs.Cli.Jobs
import FilterQuery.Proofs.Compile.Acceptance
import FilterQuery.Proofs.Compile.Inclusion
import FilterQuery.Proofs.Document.Address

/-!
# Checking queries

The predicate dialect has every operator and no limit on data paths, and it refuses no operand but those
of `$like`. So a document without `$like` that some dialect compiles is compiled to a predicate as well,
and a query that the check command rejects is rejected whatever it is compiled to.
-/

namespace FilterQuery

/-- No entry in the document has the key. -/
def Node.LacksKey (key : String) : Node → Prop :=
  Node.Everywhere (Node.PartsHave fun key? _ => key? ≠ some key)

theorem Node.LacksKey.split {key : String} {q filter : Node} {m : Modifiers} (lacks : q.LacksKey key)
    (split : q.split = .ok (filter, m)) : filter.LacksKey key := by
  cases q with
  | mapping es =>
    obtain ⟨⟨kept, _⟩, separated, returned⟩ := bind_eq_ok.mp split
    cases returned
    have subset := Modifiers.splitEntries_subset separated
    obtain ⟨keys, each⟩ := Node.everywhere_mapping.mp lacks
    exact .mapping (fun e member => keys e (subset member)) fun e member => each e (subset member)
  | _ =>
    cases split
    exact lacks

namespace Predicate

variable {ε σ α β : Type}

theorem includes (L : Language) (e : Engine ε) : L.Includes (compiler e).language where
  supports _ := rfl
  within _ := .inl (Int.le_refl 0)

theorem spelled_of_lacksKey {q : Node} (lacks : q.LacksKey Operator.like.name) :
    Node.Everywhere (Node.PartsHave Spelled) q := by
  have sites := (Node.forall_postorderAt q []).mpr ⟨by simp [Node.lastKey?], lacks⟩
  exact ((Node.forall_postorderAt q []).mp fun s member same => absurd same (sites s member)).2

theorem accepts_of_compile (e : Engine ε) {c : Compiler σ α β} {q : Node} {r : β}
    (lacks : q.LacksKey Operator.like.name) (compiled : c.compile q = .ok r) :
    ∃ p, (compiler e).compile q = .ok p := by
  have query := (Compiler.isQuery_of_compile compiled).mono (includes c.language e)
  exact (accepts_iff e 0 q).mpr ⟨query, spelled_of_lacksKey lacks⟩

theorem refused_everywhere {γ : Type} (e : Engine ε) (c : Compiler σ α β) (make : Modifiers → β → γ)
    {q : Node} (lacks : q.LacksKey Operator.like.name)
    (refused : ∀ filter m, q.split = .ok (filter, m) → ∀ p, (compiler e).compile filter ≠ .ok p) :
    ∃ err, (q.split.mapError CompileError.violation >>= fun (filter, m) =>
      c.compile filter >>= fun b => .ok (make m b)) = .error err := by
  cases split : q.split with
  | error v => exact ⟨.violation v, rfl⟩
  | ok parts =>
    obtain ⟨filter, m⟩ := parts
    cases compiled : c.compile filter with
    | error err =>
      have stops : (c.compile filter >>= fun b => .ok (make m b)) = .error err :=
        bind_eq_error.mpr (.inl compiled)
      exact ⟨err, stops⟩
    | ok b =>
      obtain ⟨p, accepted⟩ := accepts_of_compile e (lacks.split split) compiled
      exact absurd accepted (refused filter m split p)

end Predicate

namespace Cli

variable {ε : Type}

theorem runCheck_refuses {w : Surroundings} {c : Call} {o : Output} {q : Node} {err : Error}
    (read : ((readQuery w c).run.run o).1 = .ok q)
    (rejected : ((runCheck w c).run.run o).1 = .error err) {filter : Node} {m : Modifiers}
    (split : q.split = .ok (filter, m)) (p : Predicate Incomparable) :
    (Predicate.compiler Engine.standard).compile filter ≠ .ok p := by
  intro accepted
  obtain ⟨o', run⟩ : ∃ o', (readQuery w c).run.run o = (.ok q, o') := ⟨_, Prod.ext read rfl⟩
  have valid : ((runCheck w c).run.run o).1 = .ok () := by
    rw [runCheck, Job.run_bind, run]
    simp only [split, Job.lift, pure_bind, accepted]
    rfl
  rw [valid] at rejected
  cases rejected

/-- Of the queries without `$like`, those that are compiled to an SQL condition or a search are compiled
to a predicate. So a query that the check command could read and rejects is made neither a statement
nor a search command. -/
theorem compiled_elsewhere_checks (e : Engine ε) (q : Node) (lacks : q.LacksKey Operator.like.name) :
    (∀ (style : Sql.Style) (depth : Int) (f : Sql.Fragment),
      ((Sql.compiler style).withDepth depth).compile q = .ok f →
        ∃ p, (Predicate.compiler e).compile q = .ok p) ∧
    (∀ (depth : Int) (r : Search.Query), (Search.compiler.withDepth depth).compile q = .ok r →
      ∃ p, (Predicate.compiler e).compile q = .ok p) ∧
    ∀ (w : Surroundings) (c : Call) (o : Output) (err : Error),
      ((readQuery w c).run.run o).1 = .ok q → ((runCheck w c).run.run o).1 = .error err →
        (∀ (style : Sql.Style) (depth : Int) (base : String) (overrides : Overrides), ∃ reason,
          Sql.select style ((Sql.compiler style).withDepth depth) base q overrides = .error reason) ∧
        ∀ (depth : Int) (index : String) (overrides : Overrides), ∃ reason,
          Search.command (Search.compiler.withDepth depth) index q overrides = .error reason := by
  refine ⟨fun style depth f compiled => Predicate.accepts_of_compile e lacks compiled,
    fun depth r compiled => Predicate.accepts_of_compile e lacks compiled,
    fun w c o err read rejected => ?_⟩
  have refused filter m (split : q.split = .ok (filter, m)) :=
    runCheck_refuses read rejected split
  constructor
  · intro style depth base overrides
    exact Predicate.refused_everywhere Engine.standard ((Sql.compiler style).withDepth depth)
      (fun m f => Sql.Statement.mk
        (String.ofList (Unicode.trimSpace base.toList) ++
          (Sql.Clauses.mk f.condition (m.override overrides)).text style) f.args)
      lacks refused
  · intro depth index overrides
    exact Predicate.refused_everywhere Engine.standard (Search.compiler.withDepth depth)
      (fun m query => Search.Command.mk index query (m.override overrides).sort.head?
        (Search.Window.ofModifiers (m.override overrides)))
      lacks refused

/-- A field with a scalar is a predicate as it is a condition, and a list is none of the three. -/
theorem compiled_elsewhere_checks_field :
    (∃ p, (Predicate.compiler Engine.standard).compile (.mapping [("a", .scalar .null)]) = .ok p) ∧
    ∃ w c err, ((runCheck w c).run.run {}).1 = .error err ∧
      (∃ reason, Sql.select .dollar (Sql.compiler .dollar) "" (.sequence []) {} = .error reason) ∧
      ∃ reason, Search.command Search.compiler "i" (.sequence []) {} = .error reason := by
  have field : (Node.mapping [("a", .scalar .null)]).LacksKey Operator.like.name :=
    .mapping (List.forall_mem_singleton.mpr (by decide))
      (List.forall_mem_singleton.mpr (.scalar trivial))
  have list : (Node.sequence []).LacksKey Operator.like.name :=
    .sequence (List.forall_mem_nil _) (List.forall_mem_nil _)
  have compiled : ((Sql.compiler .dollar).withDepth 2).compile (.mapping [("a", .scalar .null)]) =
    .ok _ := rfl
  refine ⟨(compiled_elsewhere_checks Engine.standard _ field).1 _ _ _ compiled, ?_⟩
  -- an opening and a closing bracket on the standard input
  let w : Surroundings := { args := [], stdin := [0x5B, 0x5D] }
  let c : Call := ⟨.check, {}, "-"⟩
  have read : ((readQuery w c).run.run {}).1 = .ok (.sequence []) := by rfl
  have rejected : ((runCheck w c).run.run {}).1 =
    .error (.compile (.violation (.ofNode .unexpectedValue (.sequence []) []))) := by rfl
  obtain ⟨statement, command⟩ :=
    (compiled_elsewhere_checks Engine.standard _ list).2.2 w c {} _ read rejected
  exact ⟨w, c, _, rejected, statement .dollar 2 "" {}, command 1 "i" {}⟩

end Cli

end FilterQuery
