import FilterQuery.Compile.Dialect
import FilterQuery.Compile.Log
import FilterQuery.Compile.Operand

/-!
# Compiling filters

A filter is compiled from its leaves to its root. Each node is classified by the last segment of
its path, checked, and handed to the generator of its operator; the first error ends the
compilation.
-/

namespace FilterQuery

/-- The result of a node: an artifact, or a list item that is no filter. -/
inductive Part (α : Type) where
  | artifact (a : α)
  | literal (n : Node)

namespace Part

variable {α : Type}

def artifact? : Part α → Option α
  | .artifact a => some a
  | .literal _ => none

def literal? : Part α → Option Node
  | .artifact _ => none
  | .literal n => some n

end Part

namespace Compiler

variable {σ α β : Type}

/-- The error for a node that breaks a rule. -/
def violate (kind : ViolationKind) (n : Node) (path : Path) : Generation σ (Option (Part α)) :=
  throw (.violation (.ofNode kind n path))

def invoke (g : Generator σ α) (op : Operator) (data : Path) (v : Visit (Part α)) :
    Generation σ (Option (Part α)) := do
  let result ← g {
    operator := op
    path := v.path
    data := data
    operand := v.node
    children := v.children.filterMap Part.artifact?
    elements := v.children.filterMap Part.literal? }
  return result.map .artifact

/-- Calls the generator of the conjunction, which joins the entries of a mapping. -/
def invokeAnd (c : Compiler σ α β) (data : Path) (v : Visit (Part α)) :
    Generation σ (Option (Part α)) :=
  invoke ((c.dialect.generator? .and).get c.andSupported) .and data v

def check (c : Compiler σ α β) (op : Operator) (data : Path) (v : Visit (Part α)) :
    Option Violation :=
  match op.violation? v.path v.node data with
  | some violation => some violation
  | none =>
    if 0 < c.dialect.depth ∧ c.dialect.depth < data.length then
      some (.ofNode .maxDataDepth v.node v.path)
    else none

def invokeChecked (c : Compiler σ α β) (g : Generator σ α) (op : Operator) (data : Path)
    (v : Visit (Part α)) : Generation σ (Option (Part α)) :=
  match c.check op data v with
  | some violation => throw (.violation violation)
  | none => invoke g op data v

/-- The result of a field: a mapping holds filters on the field, and a scalar is compared. -/
def compileField (c : Compiler σ α β) (data : Path) (v : Visit (Part α)) :
    Generation σ (Option (Part α)) :=
  match v.node with
  | .mapping _ => c.invokeAnd data v
  | .sequence _ => violate .operatorNotSupported v.node v.path
  | .scalar _ => c.invokeChecked ((c.dialect.generator? .eq).get c.eqSupported) .eq data v

/-- Whether a key starts with a dollar sign, as operators do and fields do not. -/
def isCommand (key : String) : Bool := key.toList.head? == some '$'

def compileKey (c : Compiler σ α β) (key : String) (data : Path) (v : Visit (Part α)) :
    Generation σ (Option (Part α)) :=
  match Operator.ofName? key with
  | some op =>
    match c.dialect.generator? op with
    | some g => c.invokeChecked g op data v
    | none => violate .operatorNotSupported v.node v.path
  | none =>
    if isCommand key then violate .operatorNotSupported v.node v.path
    else c.compileField data v

/-- The result of a node, by the last segment of its path. -/
def step (c : Compiler σ α β) (v : Visit (Part α)) : Generation σ (Option (Part α)) :=
  match v.path.getLast? with
  | none => c.invokeAnd [] v
  | some (.index _) =>
    if v.node.isMapping then c.invokeAnd v.path.data v else pure (some (.literal v.node))
  | some (.key key) => c.compileKey key v.path.data v

/-- What stands for the result of a node that has none. -/
def noPart (c : Compiler σ α β) : Part α := .artifact c.dialect.blank

def reducer (c : Compiler σ α β) (v : Visit (Part α)) : StateM σ (Reduction (Part α) CompileError) :=
  Reduction.ofOutcome c.noPart <$> (c.step v).run

def generate (c : Compiler σ α β) (n : Node) : Generation σ α := do
  if n.isMapping then
    let root ← ExceptT.lift (n.reduce c.reducer c.noPart)
    match root.error with
    | some e => throw e
    -- the root's result is used also if the root was dropped
    | none => return root.value.artifact?.getD c.dialect.blank
  else throw (.violation (.ofNode .unexpectedValue n []))

structure Report (σ β : Type) where
  /-- What the caller gets. -/
  result : Except CompileError β
  /-- The error found, before the dialect replaced it. -/
  cause : Option CompileError
  log : List LogEntry
  state : σ

def startEntry (c : Compiler σ α β) (id : String) : LogEntry :=
  ⟨"compiling query", [("dialect", c.dialect.name), ("id", id)]⟩

def rejectEntry (c : Compiler σ α β) (id : String) (v : Violation) : LogEntry :=
  ⟨"query rejected",
    [("dialect", c.dialect.name), ("id", id), ("kind", v.kind.name), ("path", v.path.text)]⟩

/-- The error that the caller gets for the error of a node. -/
def replaced (c : Compiler σ α β) (e : CompileError) : CompileError :=
  match e.violation? with
  | some v => (c.dialect.reject v).getD e
  | none => e

/-- The error that the caller gets where a hook may replace violations. The hook is called for nothing
else, and may change the state. -/
def replaceWith (hook : Violation → StateM σ (Option CompileError)) (e : CompileError) :
    StateM σ CompileError := do
  match e.violation? with
  | some v =>
    let other ← hook v
    return other.getD e
  | none => return e

/-- Compiles a filter, where a hook may replace violations. The compilation is known by `id` in the
log. -/
def runWith (c : Compiler σ α β) (hook : Violation → StateM σ (Option CompileError)) (id : String)
    (n : Node) : Report σ β :=
  let (generated, s) := (c.generate n).run.run c.dialect.start
  match generated with
  | .error e =>
    let (other, s) := (replaceWith hook e).run s
    { result := .error other
      cause := some e
      log := c.startEntry id :: (e.violation?.map (c.rejectEntry id)).toList
      state := s }
  | .ok a =>
    let (resolved, s) := (c.resolve a).run.run s
    { result := resolved
      cause := match resolved with
        | .ok _ => none
        | .error e => some e
      log := [c.startEntry id]
      state := s }

/-- Compiles a filter, where the dialect may replace violations. -/
def run (c : Compiler σ α β) (id : String) (n : Node) : Report σ β :=
  c.runWith (fun v => pure (c.dialect.reject v)) id n

def compile (c : Compiler σ α β) (n : Node) : Except CompileError β := (c.run "" n).result

end Compiler

end FilterQuery
