import FilterQuery.Document.Fold
import FilterQuery.Document.Violation

/-!
# Dialects

A dialect is a target that filters are compiled to. It has a generator for each operator that it
supports, which builds an artifact from those of the operator's children, and turns the artifact of
the root into its result.
-/

namespace FilterQuery

inductive CompileError where
  | violation (v : Violation)
  /-- An error of the dialect's own, which may have been caused by a violation. -/
  | other (text : String) (cause : Option Violation)

namespace CompileError

def message : CompileError → String
  | .violation v => v.message
  | .other text _ => text

def violation? : CompileError → Option Violation
  | .violation v => some v
  | .other _ cause => cause

end CompileError

structure Operation (α : Type) where
  /-- The operator; a field with a scalar is compiled as `eq`, and a mapping without an operator
  as `and`. -/
  operator : Operator
  /-- Where the operand stands. -/
  path : Path
  /-- The field that the operator is applied to. -/
  data : Path
  operand : Node
  /-- The artifacts of the filters in the operand. -/
  children : List α
  /-- The items of the operand that are not filters. -/
  elements : List Node

/-- A step of a compilation with the state `σ`, which stays when the step fails. -/
abbrev Generation (σ α : Type) := ExceptT CompileError (StateM σ) α

/-- Builds the artifact of an operation, or drops it. -/
abbrev Generator (σ α : Type) := Operation α → Generation σ (Option α)

/-- A compilation target with state `σ`, artifacts `α` and results `β`. -/
structure Dialect (σ α β : Type) where
  name : String
  /-- The generators of the supported operators. -/
  generator? : Operator → Option (Generator σ α)
  /-- The greatest length of a data path; there is no limit if it is not positive. -/
  depth : Int := 0
  /-- The state at the start of a compilation. -/
  start : σ
  /-- The artifact of a filter whose root is dropped. -/
  blank : α
  /-- The types of artifacts and results in messages. -/
  artifactName : String := ""
  resultName : String := ""
  /-- Turns the artifact of the root into the result, if that is possible. -/
  resolve? : Option (α → Generation σ β)
  /-- An error that replaces a violation. -/
  reject : Violation → Option CompileError := fun _ => none

inductive DialectError where
  | missingOperator (op : Operator)
  | noResult (artifact result : String)
deriving DecidableEq, Repr

def DialectError.message : DialectError → String
  | .missingOperator op =>
    "operators \"$eq\" and \"$and\" are mandatory, missing \"" ++ op.name ++ "\""
  | .noResult artifact result =>
    "no resolve function to turn " ++ artifact ++ " into " ++ result

/-- A dialect that is complete: it has what every filter needs. -/
structure Compiler (σ α β : Type) where
  dialect : Dialect σ α β
  resolve : α → Generation σ β
  andSupported : (dialect.generator? .and).isSome
  eqSupported : (dialect.generator? .eq).isSome

namespace Compiler

variable {σ α β : Type}

def ofDialect (d : Dialect σ α β) : Except DialectError (Compiler σ α β) :=
  if heq : (d.generator? .eq).isSome then
    if hand : (d.generator? .and).isSome then
      match d.resolve? with
      | some resolve => .ok ⟨d, resolve, hand, heq⟩
      | none => .error (.noResult d.artifactName d.resultName)
    else .error (.missingOperator .and)
  else .error (.missingOperator .eq)

/-- The same compiler with another limit of the length of data paths. -/
def withDepth (depth : Int) (c : Compiler σ α β) : Compiler σ α β :=
  { c with dialect := { c.dialect with depth := depth } }

end Compiler

end FilterQuery
