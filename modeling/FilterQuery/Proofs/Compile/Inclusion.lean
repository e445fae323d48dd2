import FilterQuery.Proofs.Compile.Grammar
import FilterQuery.Proofs.Compile.Induction
import FilterQuery.Proofs.Compile.Traversal

/-!
# Languages that include others

Whatever its generators do, a compiler accepts only filters of its language (`isQuery_of_compile`), and a
language with more operators and longer data paths has all the filters of the other one
(`IsQuery.mono`). So filters that one dialect accepts are filters of each language with as much.
-/

namespace FilterQuery

open Generation

namespace Language

variable {K L : Language}

/-- The second language has the operators and the data paths of the first one. -/
structure Includes (K L : Language) : Prop where
  supports {op : Operator} : K.supports op → L.supports op
  within {data : Path} : K.Within data → L.Within data

mutual

theorem IsQuery.mono (included : K.Includes L) : ∀ {P : Path} {n : Node},
    K.IsQuery P n → L.IsQuery P n
  | _, _, .mapping entries => .mapping fun e member => (entries e member).mono included

theorem IsEntry.mono (included : K.Includes L) : ∀ {P : Path} {key : String} {n : Node},
    K.IsEntry P key n → L.IsEntry P key n
  | _, _, _, .equals field within => .equals field (included.within within)
  | _, _, _, .nested field query => .nested field (query.mono included)
  | _, _, _, .operator named supported onField within operand =>
    .operator named (included.supports supported) onField (included.within within)
      (operand.mono included)

theorem IsOperand.mono (included : K.Includes L) : ∀ {P : Path} {op : Operator} {n : Node},
    K.IsOperand P op n → L.IsOperand P op n
  | _, _, _, .queries combinator each =>
    .queries combinator fun n member => (each n member).mono included
  | _, _, _, .query query => .query (query.mono included)
  | _, _, _, .values list each => .values list fun i n found => (each i n found).mono included
  | _, _, _, .scalar scalar accepted => .scalar scalar accepted

theorem IsLiteral.mono (included : K.Includes L) : ∀ {P : Path} {n : Node},
    K.IsLiteral P n → L.IsLiteral P n
  | _, _, .scalar => .scalar
  | _, _, .list each => .list fun i n found => (each i n found).mono included
  | _, _, .query query => .query (query.mono included)

end

end Language

namespace Compiler

variable {σ α β γ : Type} {c : Compiler σ α β}

/-- If the step succeeds, then the nodes it deals with break no rule. -/
def Obeys (L : Language) (sites : List Site) (g : Generation σ γ) : Prop :=
  ∀ s a t, Yields g s a t → L.Clean sites

theorem obeys_sequential (L : Language) :
    Relation.Sequential (σ := σ) (τ := σ) fun sites g _ => Obeys L sites g where
  pure _ := fun _ _ _ _ _ member => by cases member
  bind {_ _ first rest g _ f _} here behind := by
    intro s b u yields
    obtain ⟨a, t, earlier, later⟩ := yields_bind.mp yields
    exact Language.clean_append.mpr ⟨here s a t earlier, behind a t b u later⟩

theorem clean_compileKey {key : String} {v : Visit (Part α)}
    (last : v.path.getLast? = some (.key key)) {s t : σ} {part : Option (Part α)}
    (yields : Yields (c.compileKey key v.path.data v) s part t) :
    c.language.violation? ⟨v.path, v.node⟩ = none := by
  unfold compileKey at yields
  simp only [Language.violation?, last]
  cases named : Operator.ofName? key with
  | some op =>
    rw [named] at yields
    dsimp only at yields ⊢
    cases found : c.dialect.generator? op with
    | none =>
      rw [found] at yields
      exact absurd yields yields_throw
    | some g =>
      rw [found] at yields
      obtain ⟨accepted, onField, within, _⟩ := yields_invokeChecked found yields
      have supported : c.language.supports op := by simp [language, found]
      exact Language.operandViolation?_eq_none_iff.mpr ⟨supported, accepted, onField, within⟩
  | none =>
    rw [named] at yields
    dsimp only at yields ⊢
    split at yields
    · exact absurd yields yields_throw
    · rename_i field
      rw [if_neg field]
      obtain ⟨path, node, parent, children⟩ := v
      cases node with
      | mapping es => rfl
      | sequence ns => exact absurd yields yields_throw
      | scalar value =>
        obtain ⟨_, _, within, _⟩ := yields_invokeChecked c.generator?_eq yields
        exact if_pos within

theorem obeys_step (c : Compiler σ α β) (v : Visit (Part α)) :
    Obeys c.language [⟨v.path, v.node⟩] (c.step v) := by
  intro s part t yields
  rw [Language.Clean, List.forall_mem_singleton]
  unfold step at yields
  cases last : v.path.getLast? with
  | none => simp [Language.violation?, last]
  | some seg =>
    rw [last] at yields
    cases seg with
    | index i => simp [Language.violation?, last]
    | key key => exact clean_compileKey last yields

theorem isQuery_of_compile {q : Node} {r : β} (compiled : c.compile q = .ok r) :
    c.language.IsQuery [] q := by
  obtain ⟨a, s, t, generated, _⟩ := compile_eq_ok_iff.mp compiled
  rw [generate_eq] at generated
  split at generated
  · rename_i mapping
    obtain ⟨part, _, folded, _⟩ := yields_bind.mp generated
    have walked := @Node.foldAt_related σ σ _ _ c.step c.step (obeys_sequential c.language)
      c.obeys_step q [] none
    exact (Language.isQuery_iff_clean mapping).mpr (walked _ _ _ folded)
  · exact absurd generated yields_throw

end Compiler

end FilterQuery
