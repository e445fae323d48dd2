import FilterQuery.Query.Fields
import FilterQuery.Value.Order

/-!
# Engines

What filters and orders need to know of items: how to read fields and how to compare values. Either
may fail.
-/

namespace FilterQuery

/-- How fields are read and values compared; `ε` is what can go wrong. -/
structure Engine (ε : Type) where
  fields : Value → Path → Except ε (List (Option Value) × Bool)
  compare : Value → Value → Except ε Ordering
  /-- Whether range conditions have a meaning for two values. -/
  comparable : Value → Value → Bool

def Engine.standard : Engine Incomparable where
  fields v path := .ok (v.fields path)
  compare := Value.compare
  comparable := Value.comparable

inductive MatchError (ε : Type) where
  | reading (e : ε)
  | comparing (e : ε)
deriving DecidableEq, Repr

namespace MatchError

variable {ε : Type}

def cause : MatchError ε → ε
  | .reading e | .comparing e => e

/-- The wording, where `text` words the errors of the engine. -/
def message (text : ε → String) : MatchError ε → String
  | .reading e => "getting field: " ++ text e
  | .comparing e => "comparing: " ++ text e

end MatchError

end FilterQuery
