import FilterQuery.Query.SearchTree

/-!
# Laws of search trees

What is known of search trees: they keep the values that are inserted into them, list them in the
ascending order of their keys where the comparison of the keys is a strict order, and take in all
values whose keys can be told apart.
-/

namespace FilterQuery

variable {κ ν ε : Type}

/-- The comparison orders the keys of a kind, no two different ones of which are equal. It need not
compare all of them. -/
structure StrictOn (compare : κ → κ → Except ε Ordering) (kind : κ → Prop) : Prop where
  below {a b : κ} : kind a → kind b → compare a b = .ok .gt → compare b a = .ok .lt
  trans {a b c : κ} : kind a → kind b → kind c → compare a b = .ok .lt → compare b c = .ok .lt →
    compare a c = .ok .lt
  same {a b : κ} : kind a → kind b → compare a b = .ok .eq → a = b

/-- Each key is below all keys behind it. -/
def Ascending (compare : κ → κ → Except ε Ordering) (es : List (κ × ν)) : Prop :=
  es.Pairwise fun a b => compare a.1 b.1 = .ok .lt

theorem Ascending.insert {compare : κ → κ → Except ε Ordering} {before after : List (κ × ν)}
    {k : κ} {v : ν} (ascending : Ascending compare (before ++ after))
    (smaller : ∀ e ∈ before, compare e.1 k = .ok .lt)
    (greater : ∀ e ∈ after, compare k e.1 = .ok .lt) :
    Ascending compare (before ++ (k, v) :: after) := by
  obtain ⟨first, second, across⟩ := List.pairwise_append.mp ascending
  refine List.pairwise_append.mpr ⟨first, List.pairwise_cons.mpr ⟨greater, second⟩, ?_⟩
  intro a member e member'
  rcases List.mem_cons.mp member' with rfl | member'
  · exact smaller a member
  · exact across a member e member'

namespace SearchTree

variable (T : SearchTree κ ν ε)

def insertAll (order : TreeOrder κ ν ε) (t : T.Tree) : List (κ × ν) → Except ε T.Tree
  | [] => .ok t
  | (k, v) :: rest => do
    let t ← T.insert order k v t
    insertAll order t rest

/-- The laws of search trees, for entries that are inserted one after the other into the empty tree. -/
structure Lawful : Prop where
  /-- All values are listed, each as often as it was inserted. -/
  keeps {order : TreeOrder κ ν ε} {es : List (κ × ν)} {t : T.Tree}
    (filled : T.insertAll order T.empty es = .ok t) : (T.toList t).Perm (es.map Prod.snd)
  /-- Under a strict order of different keys the values are listed in the ascending order of their
  keys. -/
  ascends {order : TreeOrder κ ν ε} {kind : κ → Prop} {es : List (κ × ν)} {t : T.Tree}
    (strict : StrictOn order.keys kind) (kinds : ∀ e ∈ es, kind e.1)
    (different : (es.map Prod.fst).Nodup) (filled : T.insertAll order T.empty es = .ok t) :
    ∃ all : List (κ × ν), all.Perm es ∧ Ascending order.keys all ∧ T.toList t = all.map Prod.snd
  /-- Different keys can be inserted where all keys can be compared and different ones are not equal. -/
  inserts {order : TreeOrder κ ν ε} {kind : κ → Prop} {es : List (κ × ν)}
    (kinds : ∀ e ∈ es, kind e.1) (different : (es.map Prod.fst).Nodup)
    (comparable : ∀ a b : κ, kind a → kind b → ∃ o, order.keys a b = .ok o)
    (same : ∀ a b : κ, kind a → kind b → order.keys a b = .ok .eq → a = b) :
    ∃ t, T.insertAll order T.empty es = .ok t

end SearchTree

end FilterQuery
