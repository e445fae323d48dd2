import FilterQuery.Compile.Compiler

/-!
# Traces of compilations

A dialect whose artifacts spell out the operations they were built from. It shows in which order
the generators of a dialect are called and with what.
-/

namespace FilterQuery

/-- What a tracing dialect does besides spelling out operations. -/
structure TraceOptions where
  /-- Operators that the dialect does not support. -/
  unsupported : List Operator := []
  /-- Operators that are dropped. -/
  dropped : List Operator := []
  /-- Operators whose generator fails, and with which error. -/
  failing : List Operator := []
  failure : CompileError := .other "" none
  depth : Int := 0
  /-- Errors that replace violations. -/
  reject : Violation → Option CompileError := fun _ => none

/-- The operations of a compilation, the latest first. -/
abbrev Trace := List (Operation String)

namespace Trace

/-- The text of an operation: the operator, the field and the texts of the children. -/
def operationText (op : Operation String) : String :=
  op.operator.name ++ "(" ++ ".".intercalate (op.data.map Segment.text) ++ "|" ++
    ",".intercalate op.children ++ ")"

/-- Records an operation and spells it out. -/
def generator (o : TraceOptions) (op : Operator) : Generator Trace String := fun operation => do
  modify (operation :: ·)
  if o.failing.contains op then throw o.failure
  else if o.dropped.contains op then return none
  else return some (operationText operation)

/-- The result of a compilation: the number of operations and the text of the root. -/
def resolve (text : String) : Generation Trace String := do
  return toString (← get).length ++ ":" ++ text

/-- The tracing dialect that turns artifacts into results by a given function. -/
def dialect (β : Type) (resultName : String) (o : TraceOptions)
    (resolve? : Option (String → Generation Trace β)) : Dialect Trace String β where
  name := "trace"
  generator? op := if o.unsupported.contains op then none else some (generator o op)
  depth := o.depth
  start := []
  blank := ""
  artifactName := "string"
  resultName := resultName
  resolve? := resolve?
  reject := o.reject

end Trace

end FilterQuery
