import FilterQuery.Compile.Compiler
import FilterQuery.Numeric.DecimalText
import FilterQuery.Search.Clause

/-!
# The search dialect

Compiles filters to search clauses with bound parameters. A filter that nothing can match has no
text, so it is refused; a filter that everything matches is dropped.
-/

namespace FilterQuery.Search

/-- A parameter of a query. Its value is the bytes of a text, which need not be well formed. -/
structure Param where
  name : String
  value : List UInt8
deriving DecidableEq, Repr

/-- A clause and its parameters, in the order in which they were bound. -/
structure Query where
  clause : Clause
  params : List Param

def Query.text (q : Query) : String := q.clause.text

/-- The parameters bound so far. -/
abbrev Params := List Param

/-- The name that is tried after `n` others: the base itself, and then with a number. -/
def candidate (base : String) (n : Nat) : String :=
  if n = 0 then base else base ++ "_" ++ toString n

/-- The first candidate that is not in use. -/
def freshName (used : List String) (base : String) : String :=
  -- of one more candidates than there are names in use, one is free
  (((List.range (used.length + 1)).map (candidate base)).find? (!used.contains ·)).getD base

/-- Binds a value and returns the name of its parameter. -/
def bind (base : String) (value : List UInt8) : Generation Params String := do
  let name := freshName ((← get).map Param.name) base
  modify (· ++ [⟨name, value⟩])
  return name

/-- The bytes that separate words and the parts of patterns. -/
def blank : UInt8 := 0x20

def wildcard : UInt8 := 0x2A

def splitOn (sep : UInt8) (bs : List UInt8) : List (List UInt8) :=
  match bs with
  | [] => [[]]
  | b :: bs =>
    match splitOn sep bs with
    | piece :: rest => if b = sep then [] :: piece :: rest else (b :: piece) :: rest
    | [] => [[b]]

/-- Binds the words of a list that are not empty; the first has the number `n`. -/
def bindWords (base : String) : Nat → List (List UInt8) → Generation Params (List String)
  | _, [] => return []
  | n, word :: words => do
    if word.isEmpty then bindWords base (n + 1) words
    else
      let name ← bind (base ++ toString n) word
      let names ← bindWords base (n + 1) words
      return name :: names

def bindText (base : String) (text : List UInt8) : Generation Params (List String) :=
  bindWords base 0 (splitOn blank text)

/-! ## Operands -/

/-- A value as the index sees it. -/
inductive Indexed where
  | text (bs : List UInt8)
  | number (x : Binary)
  | tag (b : Bool)

def numberText (x : Binary) : String := x.positional .double

def Indexed.toText : Indexed → List UInt8
  | .text bs => bs
  | .number x => Utf8.encode (numberText x)
  | .tag b => Utf8.encode (if b then "true" else "false")

/-- How a scalar is indexed: booleans as tags, what stands for a finite number as number, and other
texts as text. -/
def Indexed.ofValue? (v : Value) : Option Indexed :=
  match v with
  | .bool b => some (.tag b)
  | v =>
    match v.toNumber?.filter Binary.isFinite with
    | some x => some (.number x)
    | none =>
      v.textBytes?.map .text

def indexed (n : Node) (path : Path) : Generation Params Indexed :=
  match n.scalar?.bind Indexed.ofValue? with
  | some v => return v
  | none => throw (.violation (.ofNode .unexpectedValue n path))

def bindOperand (base : String) : Indexed → Generation Params Operand
  | .number x => do return .number (← bind base (Indexed.number x).toText)
  | .tag b => do return .tag (← bind base (Indexed.tag b).toText)
  | .text bs => do return .phrase (← bindText base bs)

/-- The field that an operation is applied to: the first part of the data path. -/
def fieldOf (op : Operation Clause) : String := (op.data.head?.map Segment.text).getD ""

def itemsOf (op : Operation Clause) : List Node :=
  match op.operand with
  | .sequence items => items
  | _ => []

/-- Binds each item of a list by `make`, which gets the start of its parameter names; the first
item has the index `i`. -/
def bindItems (make : String → Indexed → Generation Params Operand) (op : Operation Clause) :
    Nat → List Node → Generation Params (List Clause)
  | _, [] => return []
  | i, n :: ns => do
    let v ← indexed n (op.path ++ [.index i])
    let operand ← make (paramBase (fieldOf op) ++ toString i) v
    let rest ← bindItems make op (i + 1) ns
    return .field (fieldOf op) operand :: rest

/-- Binds the parts of a pattern between wildcards; the first has the number `n`. -/
def bindParts (base : String) : Nat → List (List UInt8) → Generation Params (List (List String))
  | _, [] => return []
  | n, part :: parts => do
    let names ← if part.isEmpty then pure [] else bindText (base ++ toString n) part
    let rest ← bindParts base (n + 1) parts
    return names :: rest

/-! ## Operations -/

def refuse {α : Type} (op : Operation Clause) : Generation Params α :=
  throw (.violation (.ofNode .unexpectedValue op.operand op.path))

def equalClause (make : String → Operand → Clause) (op : Operation Clause) :
    Generation Params (Option Clause) := do
  let v ← indexed op.operand op.path
  let operand ← bindOperand (paramBase (fieldOf op)) v
  return some (make (fieldOf op) operand)

def rangeClause (make : String → Operand) (op : Operation Clause) :
    Generation Params (Option Clause) := do
  let x := op.operand.plain.toNumber?.getD (.zero false)
  let name ← bind (paramBase (fieldOf op)) (Indexed.number x).toText
  return some (.field (fieldOf op) (make name))

def likeClause (op : Operation Clause) : Generation Params (Option Clause) := do
  match op.operand.plain.textBytes? with
  | some bs =>
    let parts ← bindParts (paramBase (fieldOf op)) 0 (splitOn wildcard bs)
    return some (.field (fieldOf op) (.pattern parts))
  | none => refuse op

/-- The clause of an operation; `none` drops it. -/
def clauseOf (op : Operation Clause) : Generation Params (Option Clause) := do
  match op.operator with
  | .and => return some (.conj op.children)
  | .or =>
    if op.children.isEmpty then refuse op
    else if op.children.any Clause.isEverything then return none
    else return some (.any op.children)
  | .nor =>
    if op.children.isEmpty then return none
    else if op.children.any Clause.isEverything then refuse op
    else return some (.notAny op.children)
  | .not =>
    match Clause.proper op.children with
    | [] => refuse op
    | cs => return some (.notAll cs)
  | .eq => equalClause .field op
  | .ne => equalClause .notField op
  | .gt => rangeClause (.above · false) op
  | .gte => rangeClause (.above · true) op
  | .lt => rangeClause (.below · false) op
  | .lte => rangeClause (.below · true) op
  | .oneOf =>
    match itemsOf op with
    | [] => refuse op
    | items => return some (.any (← bindItems bindOperand op 0 items))
  | .noneOf =>
    match itemsOf op with
    | [] => return none
    | items => return some (.notAny (← bindItems bindOperand op 0 items))
  | .allOf =>
    match itemsOf op with
    | [] => return none
    | items =>
      let make (base : String) (v : Indexed) : Generation Params Operand := do
        return .tag (← bind base v.toText)
      return some (.conj (← bindItems make op 0 items))
  | .like => likeClause op
  | .present => return none

def dialect : Dialect Params Clause Query where
  name := "redisearch"
  -- an index does not tell whether a field is there
  generator? op := if op = .present then none else some clauseOf
  -- only the first part of a field can be searched
  depth := 1
  start := []
  blank := .everything
  resolve? := some fun c => return ⟨c, ← get⟩

def compiler : Compiler Params Clause Query where
  dialect := dialect
  resolve c := return ⟨c, ← get⟩
  andSupported := rfl
  eqSupported := rfl

end FilterQuery.Search
