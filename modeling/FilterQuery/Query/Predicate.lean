import FilterQuery.Compile.Compiler
import FilterQuery.Query.Engine

/-!
# Predicates

The dialect that compiles filters to tests of items. A condition on a field holds if it holds for
some value at the field's path, where lists are replaced by their items.
-/

namespace FilterQuery

/-- Whether an item satisfies a filter. -/
abbrev Predicate (ε : Type) := Value → Except (MatchError ε) Bool

namespace Predicate

variable {ε : Type}

def allOf (ps : List (Predicate ε)) : Predicate ε := fun item => ps.allM (· item)

def anyOf (ps : List (Predicate ε)) : Predicate ε := fun item => ps.anyM (· item)

def negate (p : Predicate ε) : Predicate ε := fun item => do return !(← p item)

/-- The path that a data path means in items: dotted keys are split. -/
def fieldPath (data : Path) : Path :=
  data.flatMap fun
    | .index i => [.index i]
    | .key k => if k.toList.contains '.' then Path.ofDotted k else [.key k]

def flatten (v : Value) : List Value :=
  if v.isList then v.items.toOption.getD [] else [v]

/-- The values at a path, lists replaced by their items. -/
def values (e : Engine ε) (path : Path) (item : Value) : Except (MatchError ε) (List Value) :=
  match e.fields item path with
  | .error err => .error (.reading err)
  | .ok (found, _) => .ok (found.flatMap fun v? => (v?.map flatten).getD [])

/-- Holds if a test holds for some value at a data path. -/
def anyValue (e : Engine ε) (data : Path) (test : Value → Except (MatchError ε) Bool) :
    Predicate ε := fun item => do
  let vs ← values e (fieldPath data) item
  vs.anyM test

/-- A text that holds a finite number as that number; other values as they are. -/
def numeric (v : Value) : Value :=
  match v with
  | .text s =>
    match (Value.text s).toNumber? with
    | some x => if x.isFinite then .double x else v
    | none => v
  | _ => v

/-- Whether a regular expression matches a value. Only texts are matched. -/
def matchesValue (re : Regex) : Value → Bool
  | .text s => re.matchesText s.toList
  | .rawText bs => re.matchesText (Utf8.decodeLossy bs)
  | _ => false

def compare (e : Engine ε) (v want : Value) : Except (MatchError ε) Ordering :=
  match e.compare v want with
  | .ok o => .ok o
  | .error err => .error (.comparing err)

/-- Whether a value equals an operand. A regular expression as operand is matched, and texts that
hold numbers are numbers. -/
def equal (e : Engine ε) (want v : Value) : Except (MatchError ε) Bool :=
  match want.regex? with
  | some re => .ok (matchesValue re v)
  | none => do
    let o ← compare e (numeric v) (numeric want)
    return o == .eq

/-- Whether a value stands in the given relation to an operand. -/
def inRange (e : Engine ε) (holds : Ordering → Bool) (want v : Value) :
    Except (MatchError ε) Bool :=
  -- unlike for equality, the operand has to be a number already
  let v := if want.asDouble?.isSome then numeric v else v
  if e.comparable v want then do
    let o ← compare e v want
    return holds o
  else .ok false

def operands : Node → List Value
  | .sequence items => Node.plainItems items
  | _ => []

def isEqual (e : Engine ε) (op : Operation (Predicate ε)) : Predicate ε :=
  anyValue e op.data (equal e op.operand.plain)

def isOneOf (e : Engine ε) (op : Operation (Predicate ε)) : Predicate ε :=
  let wants := operands op.operand
  anyValue e op.data fun v => wants.anyM fun want => equal e want v

/-- Holds if each operand equals a value at the field. -/
def hasAll (e : Engine ε) (op : Operation (Predicate ε)) : Predicate ε := fun item => do
  let vs ← values e (fieldPath op.data) item
  (operands op.operand).allM fun want => vs.anyM (equal e want)

def range (e : Engine ε) (holds : Ordering → Bool) (op : Operation (Predicate ε)) : Predicate ε :=
  anyValue e op.data (inRange e holds (numeric op.operand.plain))

/-- The regular expression that an operand is or spells. -/
def pattern? : Value → Option Regex
  | .text s => (Regex.ofText s).toOption
  | v => v.regex?

/-- Holds if the field has a value other than null, or has none, as the operand says. -/
def isPresent (e : Engine ε) (op : Operation (Predicate ε)) : Predicate ε := fun item =>
  match e.fields item (fieldPath op.data) with
  | .error err => .error (.reading err)
  | .ok (found, _) =>
    let isThere := found.any fun v? => v?.any fun v => !v.isNull
    let want := match op.operand with
      | .scalar (.bool b) => b
      | _ => false
    .ok (isThere == want)

/-- The predicate of an operation, or the violation of its operand. -/
def ofOperation (e : Engine ε) (op : Operation (Predicate ε)) : Except Violation (Predicate ε) :=
  match op.operator with
  | .and => .ok (allOf op.children)
  | .or => .ok (anyOf op.children)
  | .nor => .ok (negate (anyOf op.children))
  | .not => .ok (negate (allOf op.children))
  | .eq => .ok (isEqual e op)
  | .ne => .ok (negate (isEqual e op))
  | .gt => .ok (range e (· == .gt) op)
  | .gte => .ok (range e (· != .lt) op)
  | .lt => .ok (range e (· == .lt) op)
  | .lte => .ok (range e (· != .gt) op)
  | .oneOf => .ok (isOneOf e op)
  | .noneOf => .ok (negate (isOneOf e op))
  | .allOf => .ok (hasAll e op)
  | .like =>
    match pattern? op.operand.plain with
    | some re => .ok (anyValue e op.data fun v => .ok (matchesValue re v))
    | none => .error (.ofNode .unexpectedValue op.operand op.path)
  | .present => .ok (isPresent e op)

def dialect (e : Engine ε) : Dialect Unit (Predicate ε) (Predicate ε) where
  name := "predicate"
  generator? _ := some fun op =>
    match ofOperation e op with
    | .ok p => return some p
    | .error v => throw (.violation v)
  start := ()
  blank := fun _ => .ok false
  resolve? := some fun p => return p

def compiler (e : Engine ε) : Compiler Unit (Predicate ε) (Predicate ε) where
  dialect := dialect e
  resolve p := return p
  andSupported := rfl
  eqSupported := rfl

end Predicate

end FilterQuery
