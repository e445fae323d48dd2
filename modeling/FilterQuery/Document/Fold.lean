import FilterQuery.Document.Node
import FilterQuery.Document.Path

/-!
# Folds over documents

A fold computes a result for each node from the results of its children. Children come before
their parent, in document order; a node may contribute nothing to its parent, and an error ends the
whole fold.
-/

namespace FilterQuery

/-- What is known of a node when its result is computed: where it stands, the node itself, the node
around it, and the results of its children. -/
structure Visit (ρ : Type) where
  path : Path
  node : Node
  parent : Option Node
  children : List ρ

/-- What a reducer returns for a node: a result, whether the node contributes it to its parent, and
an error. The three are independent of one another. -/
structure Reduction (ρ ε : Type) where
  value : ρ
  kept : Bool
  error : Option ε
deriving DecidableEq, Repr

namespace Reduction

variable {ρ ε : Type}

/-- What the node contributes to its parent. -/
def result? (r : Reduction ρ ε) : Option ρ := if r.kept then some r.value else none

/-- What a reducer returns that has no result beside an error or for a dropped node: `zero` stands in
for it. -/
def ofOutcome (zero : ρ) : Except ε (Option ρ) → Reduction ρ ε
  | .ok (some r) => ⟨r, true, none⟩
  | .ok none => ⟨zero, false, none⟩
  | .error e => ⟨zero, false, some e⟩

end Reduction

namespace Node

variable {m : Type → Type} [Monad m] {ρ ε : Type}

mutual

/-- Walks the nodes below and at a path. An error from below is returned with `zero`; what the
reducer returns for the node itself is passed on as it is. -/
def reduceAt (reducer : Visit ρ → m (Reduction ρ ε)) (zero : ρ) (path : Path)
    (parent : Option Node) : Node → m (Reduction ρ ε)
  | .scalar v => reducer ⟨path, .scalar v, parent, []⟩
  | .sequence items => do
    match ← reduceItems reducer zero path (.sequence items) 0 items with
    | .error e => return ⟨zero, false, some e⟩
    | .ok results => reducer ⟨path, .sequence items, parent, results⟩
  | .mapping entries => do
    match ← reduceEntries reducer zero path (.mapping entries) entries with
    | .error e => return ⟨zero, false, some e⟩
    | .ok results => reducer ⟨path, .mapping entries, parent, results⟩

/-- Walks list items, the first of which has the index `i`. -/
def reduceItems (reducer : Visit ρ → m (Reduction ρ ε)) (zero : ρ) (path : Path) (parent : Node)
    (i : Nat) : List Node → m (Except ε (List ρ))
  | [] => return .ok []
  | n :: ns => do
    let r ← reduceAt reducer zero (path ++ [.index i]) (some parent) n
    match r.error with
    | some e => return .error e
    | none =>
      let results ← reduceItems reducer zero path parent (i + 1) ns
      return results.map (r.result?.toList ++ ·)

def reduceEntries (reducer : Visit ρ → m (Reduction ρ ε)) (zero : ρ) (path : Path) (parent : Node) :
    List (String × Node) → m (Except ε (List ρ))
  | [] => return .ok []
  | (key, n) :: es => do
    let r ← reduceAt reducer zero (path ++ [.key key]) (some parent) n
    match r.error with
    | some e => return .error e
    | none =>
      let results ← reduceEntries reducer zero path parent es
      return results.map (r.result?.toList ++ ·)

end

def reduce (reducer : Visit ρ → m (Reduction ρ ε)) (zero : ρ) (n : Node) : m (Reduction ρ ε) :=
  reduceAt reducer zero [] none n

end Node

end FilterQuery
