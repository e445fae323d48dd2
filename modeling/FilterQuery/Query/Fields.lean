import FilterQuery.Document.Path
import FilterQuery.Numeric.Integer
import FilterQuery.Value.Shape

/-!
# Fields of items

Reads the values at a path of an item. A key applied to a list is applied to each of its items,
unless it is an index; that is reported as an expansion. Items of a list that are lists themselves
are not expanded again.
-/

namespace FilterQuery

namespace Segment

/-- The integer that a text denotes in decimal, if it fits into 64 bits with sign. -/
def integer? (cs : List Char) : Option Int := (Integer.ofSigned cs).toOption

def position? : Segment → Option Int
  | .index i => some i
  | .key k => integer? k.toList

end Segment

/-- Where a path has led so far. -/
inductive Reached where
  | nowhere
  /-- A value; `fresh` says that it may be expanded if it is a list. -/
  | value (v : Value) (fresh : Bool)

namespace Reached

def value? : Reached → Option Value
  | .nowhere => none
  | .value v _ => some v

def ofOption : Option Value → Reached
  | some v => .value v true
  | none => .nowhere

end Reached

namespace Value

def itemAt? (v : Value) (i : Int) : Option Value :=
  match i with
  | .ofNat n => (v.items.toOption.getD [])[n]?
  | .negSucc _ => none

def entryAt? (v : Value) (key : String) : Option Value :=
  (v.entries.toOption.getD []).lookup key

/-- Goes one segment further from a value that is not expanded. -/
def stepDirect (seg : Segment) (v : Value) : Reached :=
  if v.isNull then .nowhere
  else if v.isList then .ofOption (seg.position?.bind v.itemAt?)
  else if v.isObject then .ofOption (v.entryAt? seg.text)
  else .nowhere

/-- Whether a segment expands a value: the value is a list and the segment no position in it. -/
def expandsUnder (seg : Segment) (v : Value) : Bool := v.isList && seg.position?.isNone

end Value

/-- Goes one segment further, and tells whether that was an expansion. -/
def Reached.step (seg : Segment) : Reached → List Reached × Bool
  | .nowhere => ([.nowhere], false)
  | .value v fresh =>
    if fresh && v.expandsUnder seg then
      ((v.items.toOption.getD []).map (Value.stepDirect seg), true)
    else ([v.stepDirect seg], false)

/-- Goes along a path from several places. -/
def Reached.walk : List Reached → Path → List Reached × Bool
  | rs, [] => (rs, false)
  | rs, seg :: path =>
    let steps := rs.map (Reached.step seg)
    let (ends, expanded) := walk (steps.flatMap (·.1)) path
    (ends, steps.any (·.2) || expanded)

/-- The values at a path of an item, `none` where there is none, and whether a list was expanded. -/
def Value.fields (v : Value) (path : Path) : List (Option Value) × Bool :=
  -- without a path or an item there is one value that is not there
  if v.isNull || path.isEmpty then ([none], false)
  else
    let (ends, expanded) := Reached.walk [.value v true] path
    (ends.map Reached.value?, expanded)

end FilterQuery
