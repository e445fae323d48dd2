import FilterQuery.Decode.Decoder
import FilterQuery.Query.Querier

/-!
# Typed results

A query whose results are decoded into a target, usually a list of records.
-/

namespace FilterQuery

inductive FindError (ε : Type) where
  | query (e : QueryError ε)
  | decode (e : DecodeError)

/-- The wording of a find error, given the wording of the engine's errors. -/
def FindError.message {ε : Type} (text : ε → String) : FindError ε → String
  | .query e => e.message text
  | .decode e => e.message

def Querier.find {ε : Type} (q : Querier ε) (items : List Value) (n : Node) (o : Overrides)
    (target : Target) : Except (FindError ε) Value := do
  let found ← (q.query items n o).mapError .query
  ((Value.anyList found).decode target).mapError .decode

end FilterQuery
