import FilterQuery.Document.Node
import FilterQuery.Document.ReadError
import FilterQuery.Numeric.Word
import FilterQuery.Value.Number

/-!
# Scalars written as objects

Text formats have no literals for times and regular expressions. An object whose only key is
`$$date`, or whose keys are `$$regex` and perhaps `$$flags`, stands for one.
-/

namespace FilterQuery

namespace Embedded

def dateKey : String := "$$date"

def regexKey : String := "$$regex"

def flagsKey : String := "$$flags"

/-- The time that a scalar denotes: a number of milliseconds since 1970, or a text in the form of
RFC 3339. -/
def date? : Node → Option Instant
  | .scalar v =>
    match v.asDouble? with
    | some x =>
      -- Numbers beyond 64 bits are read as the least integer.
      let n := (x.truncate?.filter fitsSigned).getD (-(signedLimit : Int))
      some (.ofUnixMillis n)
    | none =>
      match v with
      | .text s => Instant.ofText? s
      | _ => none
  | _ => none

def isFlag (c : Char) : Bool := c == 'i' || c == 'm' || c == 's' || c == 'U'

def compileRegex (source flags : String) : Except ReadError Regex :=
  match flags.toList.find? (!isFlag ·) with
  | some c => .error (.badRegex source flags (.unknownFlag c))
  | none =>
    let pattern := if flags.isEmpty then source else "(?" ++ flags ++ ")" ++ source
    match Regex.ofText pattern with
    | .ok re => .ok re
    | .error e => .error (.badRegex source flags (.pattern e))

def text? : Node → Option String
  | .scalar (.text s) => some s
  | _ => none

/-- The scalar for a source and flags. -/
def regexNode (es : List (String × Node)) (source : Node) (flags : Option Node) :
    Except ReadError Node :=
  match text? source with
  -- where the source is no text, the mapping stays
  | none => .ok (.mapping es)
  | some s => do
    let re ← compileRegex s ((flags.bind text?).getD "")
    return .scalar (.regex re)

end Embedded

/-- The scalar that a mapping stands for, or the mapping itself. -/
def Node.ofMapping (es : List (String × Node)) : Except ReadError Node :=
  match es with
  | [(k, v)] =>
    if k = Embedded.dateKey then
      match Embedded.date? v with
      | some t => .ok (.scalar (.time t))
      | none => .ok (.mapping es)
    else if k = Embedded.regexKey then Embedded.regexNode es v none
    else .ok (.mapping es)
  | [_, _] =>
    match es.lookup Embedded.regexKey, es.lookup Embedded.flagsKey with
    | some source, some flags => Embedded.regexNode es source (some flags)
    | _, _ => .ok (.mapping es)
  | _ => .ok (.mapping es)

/-- Sets the value of a key: in its place if it is there already, and else at the end. -/
def setEntry {α : Type} (key : String) (v : α) : List (String × α) → List (String × α)
  | [] => [(key, v)]
  | (k, w) :: rest => if k = key then (k, v) :: rest else (k, w) :: setEntry key v rest

end FilterQuery
