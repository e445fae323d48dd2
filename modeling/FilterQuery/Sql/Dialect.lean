import FilterQuery.Compile.Compiler
import FilterQuery.Sql.Condition

/-!
# The SQL dialect

Compiles filters to conditions with bound arguments. Fields are columns, of at most two parts.
-/

namespace FilterQuery.Sql

/-- A condition and its arguments, the first of which has number one. -/
structure Fragment where
  condition : Condition
  args : List Value

/-- The arguments bound so far. -/
abbrev Bindings := List Value

def bind (v : Value) : Generation Bindings Nat := do
  modify (· ++ [v])
  return (← get).length

def columnOf (data : Path) : Column := data.map Segment.text

/-- The value of an operand that can be bound: a scalar other than a regular expression. -/
def bindable (n : Node) (path : Path) : Except Violation Value :=
  match n with
  | .scalar v => if v.isRegex then .error (.ofNode .unexpectedValue n path) else .ok v
  | _ => .error (.ofNode .unexpectedValue n path)

/-- As `bindable`, in a compilation. -/
def operandValue (n : Node) (path : Path) : Generation Bindings Value :=
  match bindable n path with
  | .ok v => return v
  | .error violation => throw (.violation violation)

/-- Binds list items, the first of which has the index `i`. -/
def bindItems (path : Path) : Nat → List Node → Generation Bindings (List Nat)
  | _, [] => return []
  | i, n :: ns => do
    let v ← operandValue n (path ++ [.index i])
    let arg ← bind v
    let args ← bindItems path (i + 1) ns
    return arg :: args

def bindList (op : Operation Condition) : Generation Bindings (List Nat) :=
  match op.operand with
  | .sequence items => bindItems op.path 0 items
  | _ => return []

def regexCondition (style : Style) (op : Operation Condition) (re : Regex) :
    Generation Bindings Condition := do
  if style.isPostgres then
    let arg ← bind (.text re.source)
    return .matchesRegex (columnOf op.data) arg
  else throw (.violation (.ofNode .unexpectedValue op.operand op.path))

def eqCondition (style : Style) (op : Operation Condition) : Generation Bindings Condition := do
  match op.operand.plain with
  | .regex re => regexCondition style op re
  | _ =>
    match ← operandValue op.operand op.path with
    | .null => return .isNull (columnOf op.data)
    | v =>
      let arg ← bind v
      return .compare (columnOf op.data) .eq arg

def neCondition (op : Operation Condition) : Generation Bindings Condition := do
  match ← operandValue op.operand op.path with
  | .null => return .isNotNull (columnOf op.data)
  | v =>
    let arg ← bind v
    return .compare (columnOf op.data) .ne arg

/-- A bound of a range: a time, or the number that a value stands for. -/
def rangeBound (v : Value) : Value :=
  match v with
  | .time t => .time t
  | v =>
    match v.toNumber? with
    | some x => .double x
    | none => .double (.zero false)

def rangeCondition (sign : Sign) (op : Operation Condition) : Generation Bindings Condition := do
  let arg ← bind (rangeBound op.operand.plain)
  return .compare (columnOf op.data) sign arg

/-- The condition on a column and a list of values, which is constant for the empty list. -/
def listCondition (make : Column → List Nat → Condition) (onEmpty : Bool)
    (op : Operation Condition) : Generation Bindings Condition := do
  match ← bindList op with
  | [] => return .always onEmpty
  | args => return make (columnOf op.data) args

def likeCondition (style : Style) (op : Operation Condition) : Generation Bindings Condition := do
  match op.operand.plain with
  | .regex re => regexCondition style op re
  -- a missing expression has no text that could be bound
  | .nilOf .regex => throw (.violation (.ofNode .unexpectedValue op.operand op.path))
  | v =>
    let arg ← bind v
    return .like (columnOf op.data) arg

/-- The condition that a column has a value, or has none. -/
def presentCondition (op : Operation Condition) : Condition :=
  match op.operand with
  | .scalar (.bool true) => .isNotNull (columnOf op.data)
  | _ => .isNull (columnOf op.data)

def conditionOf (style : Style) (op : Operation Condition) : Generation Bindings Condition :=
  match op.operator with
  | .and => return .conj op.children
  | .or => return .disj op.children
  | .nor => return .nor op.children
  | .not => return .nand op.children
  | .eq => eqCondition style op
  | .ne => neCondition op
  | .gt => rangeCondition .gt op
  | .gte => rangeCondition .gte op
  | .lt => rangeCondition .lt op
  | .lte => rangeCondition .lte op
  | .oneOf => listCondition .isIn false op
  | .noneOf => listCondition .isNotIn true op
  | .allOf => listCondition .holds true op
  | .like => likeCondition style op
  | .present => return presentCondition op

/-- Whether a style supports an operator: arrays are known to PostgreSQL alone. -/
def supports (style : Style) (op : Operator) : Bool := op != .allOf || style.isPostgres

def dialect (style : Style) : Dialect Bindings Condition Fragment where
  name := "sql/" ++ style.name
  generator? op :=
    if supports style op then some fun o => do return some (← conditionOf style o) else none
  depth := 2
  start := []
  blank := .always true
  resolve? := some fun c => return ⟨c, ← get⟩

def compiler (style : Style) : Compiler Bindings Condition Fragment where
  dialect := dialect style
  resolve c := return ⟨c, ← get⟩
  andSupported := by cases style <;> rfl
  eqSupported := by cases style <;> rfl

namespace Fragment

def text (style : Style) (f : Fragment) : String := f.condition.text style

/-- Values under the names `p1`, `p2`, ... in key order, where the first has the number `n`. -/
def nameArgs : Nat → List Value → List (String × Value)
  | _, [] => []
  | n, v :: vs => ("p" ++ toString n, v) :: nameArgs (n + 1) vs

/-- The arguments by the names that named placeholders have. -/
def namedArgs (f : Fragment) : List (String × Value) := Value.sortEntries (nameArgs 1 f.args)

end Fragment

end FilterQuery.Sql
