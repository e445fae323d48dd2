import FilterQuery.Document.Path

/-!
# Data paths, one segment at a time

The compiler recomputes the data path of a node from the node's absolute path. These lemmas say
what each further segment adds to the data path before it.
-/

namespace FilterQuery.Path

theorem dataSegments_append (before : Option Segment) (p : Path) (seg : Segment) :
    dataSegments before (p ++ [seg]) =
      dataSegments before p ++ if addressesData (p.getLast?.or before) seg then [seg] else [] := by
  induction p generalizing before with
  | nil =>
    rw [List.nil_append, dataSegments, dataSegments, dataSegments]
    rfl
  | cons first rest ih =>
    have last : ((first :: rest).getLast?).or before = rest.getLast?.or (some first) := by
      cases rest with
      | nil => rfl
      | cons next more => simp [List.getLast?_eq_some_getLast]
    rw [last, List.cons_append, dataSegments, dataSegments]
    split <;> simp [ih]

theorem data_append (p : Path) (seg : Segment) :
    data (p ++ [seg]) = data p ++ if addressesData p.getLast? seg then [seg] else [] := by
  simpa [data] using dataSegments_append none p seg

theorem data_append_field (p : Path) {key : String} (h : Operator.ofName? key = none) :
    data (p ++ [Segment.key key]) = data p ++ [Segment.key key] := by
  simp [data_append, addressesData, h]

theorem data_append_operator (p : Path) {key : String} {op : Operator}
    (h : Operator.ofName? key = some op) : data (p ++ [Segment.key key]) = data p := by
  simp [data_append, addressesData, h]

/-- Whether the items of a list at a path are filters on the same field as the list. -/
def endsInCombinator (p : Path) : Bool := (p.getLast?.bind Segment.operator?).any (·.isCombinator)

theorem data_append_index (p : Path) (i : Int) :
    data (p ++ [Segment.index i]) =
      if endsInCombinator p then data p else data p ++ [Segment.index i] := by
  rw [data_append]
  cases h : endsInCombinator p <;> simp_all [addressesData, endsInCombinator]

@[simp] theorem endsInCombinator_index (p : Path) (i : Int) :
    endsInCombinator (p ++ [Segment.index i]) = false := by
  simp [endsInCombinator, Segment.operator?]

@[simp] theorem endsInCombinator_key (p : Path) (key : String) :
    endsInCombinator (p ++ [Segment.key key]) = (Operator.ofName? key).any (·.isCombinator) := by
  simp [endsInCombinator, Segment.operator?]

end FilterQuery.Path
