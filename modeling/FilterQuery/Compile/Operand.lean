import FilterQuery.Document.Violation
import FilterQuery.Value.Number

/-!
# Operands

Which operands an operator accepts. The shape of the operand is checked before the field that the
operator is applied to.
-/

namespace FilterQuery

namespace Node

def isFilterList : Node → Bool
  | .sequence items => items.all isMapping
  | _ => false

/-- Whether a node is a scalar that stands for a finite number. -/
def isNumber (n : Node) : Bool := n.scalar?.any Value.isNumeric

/-- Whether a node is a text or a regular expression. -/
def isPattern : Node → Bool
  | .scalar (.text _) | .scalar (.rawText _) => true
  | .scalar v => v.isRegex
  | _ => false

def isBool : Node → Bool
  | .scalar (.bool _) => true
  | _ => false

end Node

namespace Operator

def needsField (op : Operator) : Bool := !op.isCombinator

/-- Whether an operand has the shape that the operator asks for. -/
def accepts (op : Operator) (n : Node) : Bool :=
  match op with
  | .and | .or | .nor => n.isFilterList
  | .not => n.isMapping
  | .oneOf | .noneOf | .allOf => n.kind == .sequence
  | .gt | .gte | .lt | .lte => n.isNumber
  | .ne | .eq => n.kind == .scalar
  | .like => n.isPattern
  | .present => n.isBool

/-- The violation of an operand `n` at `path`, where `data` is the path of the field. -/
def violation? (op : Operator) (path : Path) (n : Node) (data : Path) : Option Violation :=
  if !op.accepts n then some (.ofNode .unexpectedValue n path)
  else if op.needsField && data.isEmpty then some (.ofNode .propertyNotFound n path)
  else none

/-- As `violation?`; what is no operator accepts nothing. -/
def violationOf? (op? : Option Operator) (path : Path) (n : Node) (data : Path) :
    Option Violation :=
  match op? with
  | some op => op.violation? path n data
  | none => some (.ofNode .operatorNotSupported n path)

end Operator

end FilterQuery
