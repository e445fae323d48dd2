import FilterQuery.Document.Operator

/-!
# Paths

A path locates a node of a document. The part of it that addresses the filtered data is its data
path: operators, and the indexes of the lists of combinators, do not belong to it.
-/

namespace FilterQuery

inductive Segment where
  | key (k : String)
  | index (i : Int)
deriving DecidableEq, Repr

namespace Segment

def text : Segment → String
  | .key k => k
  | .index i => toString i

/-- The operator that a key names. -/
def operator? : Segment → Option Operator
  | .key k => Operator.ofName? k
  | .index _ => none

end Segment

/-- The way from the root of a document to a node. -/
abbrev Path := List Segment

namespace Path

/-- A dollar sign, and each segment after a dot. -/
def text (p : Path) : String := p.foldl (fun s seg => s ++ "." ++ seg.text) "$"

/-- Whether a segment addresses data, given the segment before it: a key unless it names an
operator, and an index unless it follows a combinator. -/
def addressesData (before : Option Segment) : Segment → Bool
  | .key k => (Operator.ofName? k).isNone
  | .index _ => !((before.bind Segment.operator?).any Operator.isCombinator)

/-- The segments that address data, where `before` stands in front of the path. -/
def dataSegments (before : Option Segment) : Path → Path
  | [] => []
  | seg :: rest =>
    if addressesData before seg then seg :: dataSegments (some seg) rest
    else dataSegments (some seg) rest

def data (p : Path) : Path := dataSegments none p

/-- For each segment, whether it addresses data. -/
def dataFlags (before : Option Segment) : Path → List Bool
  | [] => []
  | seg :: rest => addressesData before seg :: dataFlags (some seg) rest

def splitDots (cs : List Char) : List (List Char) :=
  match cs with
  | [] => [[]]
  | c :: cs =>
    match splitDots cs with
    | piece :: rest => if c = '.' then [] :: piece :: rest else (c :: piece) :: rest
    | [] => [[c]]

/-- The path that a dotted field name denotes; the empty name is the root. -/
def ofDotted (field : String) : Path :=
  if field.isEmpty then []
  else (splitDots field.toList).map fun piece => .key (String.ofList piece)

end Path

end FilterQuery
