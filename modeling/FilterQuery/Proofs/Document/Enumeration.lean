import FilterQuery.Proofs.Document.Postorder

/-!
# The enumeration of a document

An address leads to a node of a document by the numbers of the parts on the way. Other than a path it is
unique, also where a key is given twice. `Node.addresses` lists the addresses of all nodes
(`mem_addresses`), each once (`addresses_nodup`), children before their parent and in document order
(`addresses_ordered`).
-/

namespace FilterQuery

/-- The numbers of the parts on the way to a node, from the root down. -/
abbrev Address := List Nat

/-- The address stands before another one in post-order: it leads further below, or into an earlier
part. -/
def Address.Precedes : Address → Address → Prop
  | _ :: _, [] => True
  | i :: a, j :: b => i < j ∨ i = j ∧ Precedes a b
  | [], _ => False

theorem Address.not_precedes_self (a : Address) : ¬Precedes a a := by
  induction a with
  | nil => exact id
  | cons i a ih =>
    rintro (before | ⟨_, below⟩)
    · exact Nat.lt_irrefl i before
    · exact ih below

namespace Node

/-! ### Parts -/

/-- Items of a list, the first of which has the index `i`, as parts. -/
def itemParts (i : Nat) : List Node → List (Segment × Node)
  | [] => []
  | n :: ns => (.index i, n) :: itemParts (i + 1) ns

/-- The parts of a node in document order, and by which segment each is reached. -/
def parts : Node → List (Segment × Node)
  | .scalar _ => []
  | .sequence ns => itemParts 0 ns
  | .mapping es => es.map fun e => (.key e.1, e.2)

theorem mem_of_mem_itemParts {i : Nat} {ns : List Node} {p : Segment × Node}
    (member : p ∈ itemParts i ns) : p.2 ∈ ns := by
  induction ns generalizing i with
  | nil => cases member
  | cons n ns ih =>
    rcases List.mem_cons.mp member with rfl | member
    · exact List.mem_cons_self
    · exact List.mem_cons_of_mem _ (ih member)

theorem induct_parts {motive : Node → Prop}
    (step : ∀ n, (∀ p ∈ n.parts, motive p.2) → motive n) (n : Node) : motive n := by
  induction n using Node.induct with
  | scalar v => exact step _ fun _ none => by cases none
  | sequence ns ih => exact step _ fun p member => ih p.2 (mem_of_mem_itemParts member)
  | mapping es ih =>
    refine step _ fun p member => ?_
    obtain ⟨e, there, rfl⟩ := List.mem_map.mp member
    exact ih e there

/-- The node at an address. -/
def part? : Node → Address → Option Node
  | n, [] => some n
  | n, i :: a => n.parts[i]?.bind fun p => part? p.2 a

/-- The path that leads where an address does. -/
def pathTo : Node → Address → Path
  | _, [] => []
  | n, i :: a =>
    match n.parts[i]? with
    | some (seg, m) => seg :: pathTo m a
    | none => []

variable {n m : Node} {seg : Segment} {i : Nat}

theorem part?_cons (there : n.parts[i]? = some (seg, m)) (a : Address) :
    n.part? (i :: a) = m.part? a := by
  rw [part?, there]
  rfl

theorem pathTo_cons (there : n.parts[i]? = some (seg, m)) (a : Address) :
    n.pathTo (i :: a) = seg :: m.pathTo a := by
  rw [pathTo, there]

/-! ### Addresses -/

mutual

/-- The addresses of a node and of all nodes in it, children before their parent. -/
def addresses : Node → List Address
  | .scalar _ => [[]]
  | .sequence ns => itemAddresses 0 ns ++ [[]]
  | .mapping es => entryAddresses 0 es ++ [[]]

def itemAddresses (i : Nat) : List Node → List Address
  | [] => []
  | n :: ns => n.addresses.map (i :: ·) ++ itemAddresses (i + 1) ns

def entryAddresses (i : Nat) : List (String × Node) → List Address
  | [] => []
  | (_, n) :: es => n.addresses.map (i :: ·) ++ entryAddresses (i + 1) es

end

/-- The addresses in parts, the first of which has the number `i`. -/
def addressesFrom (i : Nat) : List (Segment × Node) → List Address
  | [] => []
  | p :: ps => p.2.addresses.map (i :: ·) ++ addressesFrom (i + 1) ps

theorem itemAddresses_eq (i j : Nat) (ns : List Node) :
    itemAddresses i ns = addressesFrom i (itemParts j ns) := by
  induction ns generalizing i j with
  | nil => rfl
  | cons n ns ih => rw [itemAddresses, itemParts, addressesFrom, ih]

theorem entryAddresses_eq (i : Nat) (es : List (String × Node)) :
    entryAddresses i es = addressesFrom i (es.map fun e => (.key e.1, e.2)) := by
  induction es generalizing i with
  | nil => rfl
  | cons e es ih =>
    obtain ⟨k, n⟩ := e
    rw [entryAddresses, List.map_cons, addressesFrom, ih]

theorem addresses_eq (n : Node) : n.addresses = addressesFrom 0 n.parts ++ [[]] := by
  cases n with
  | scalar v => rfl
  | sequence ns => rw [addresses, parts, itemAddresses_eq 0 0]
  | mapping es => rw [addresses, parts, entryAddresses_eq]

theorem mem_addressesFrom {i : Nat} {ps : List (Segment × Node)} {a : Address} :
    a ∈ addressesFrom i ps ↔ ∃ j p b, ps[j]? = some p ∧ b ∈ p.2.addresses ∧ a = (i + j) :: b := by
  induction ps generalizing i with
  | nil => simp [addressesFrom]
  | cons p ps ih =>
    rw [addressesFrom, List.mem_append, List.mem_map, ih]
    constructor
    · rintro (⟨b, member, rfl⟩ | ⟨j, q, b, there, member, rfl⟩)
      · exact ⟨0, p, b, rfl, member, rfl⟩
      · exact ⟨j + 1, q, b, there, member, by rw [Nat.add_assoc, Nat.add_comm 1]⟩
    · rintro ⟨j, q, b, there, member, rfl⟩
      cases j with
      | zero =>
        obtain rfl := Option.some.inj there
        exact .inl ⟨b, member, rfl⟩
      | succ j => exact .inr ⟨j, q, b, there, member, by rw [Nat.add_assoc, Nat.add_comm 1]⟩

theorem mem_addresses (n : Node) (a : Address) : a ∈ n.addresses ↔ (n.part? a).isSome = true := by
  induction n using induct_parts generalizing a with
  | step n ih =>
    rw [addresses_eq, List.mem_append, mem_addressesFrom, List.mem_singleton]
    cases a with
    | nil => simp [part?]
    | cons i a =>
      rw [part?, Option.isSome_bind, Option.any_eq_true]
      constructor
      · rintro (⟨j, p, b, there, member, same⟩ | root)
        · obtain ⟨rfl, rfl⟩ := List.cons.inj same
          rw [Nat.zero_add]
          exact ⟨p, there, (ih p (List.mem_of_getElem? there) a).mp member⟩
        · cases root
      · rintro ⟨p, there, found⟩
        exact .inl ⟨i, p, a, there, (ih p (List.mem_of_getElem? there) a).mpr found,
          by rw [Nat.zero_add]⟩

theorem addressesFrom_ordered {i : Nat} {ps : List (Segment × Node)}
    (each : ∀ p ∈ ps, p.2.addresses.Pairwise Address.Precedes) :
    (addressesFrom i ps).Pairwise Address.Precedes := by
  induction ps generalizing i with
  | nil => exact .nil
  | cons p ps ih =>
    obtain ⟨first, rest⟩ := List.forall_mem_cons.mp each
    refine List.pairwise_append.mpr ⟨List.pairwise_map.mpr (first.imp fun before => .inr ⟨rfl, before⟩),
      ih rest, fun a member b member' => ?_⟩
    obtain ⟨a, _, rfl⟩ := List.mem_map.mp member
    obtain ⟨j, _, b, _, _, rfl⟩ := mem_addressesFrom.mp member'
    exact .inl (by omega)

/-- Children come before their parent, and earlier parts before later ones. -/
theorem addresses_ordered (n : Node) : n.addresses.Pairwise Address.Precedes := by
  induction n using induct_parts with
  | step n ih =>
    rw [addresses_eq]
    refine List.pairwise_append.mpr ⟨addressesFrom_ordered ih, List.pairwise_singleton _ _,
      fun a member b root => ?_⟩
    obtain ⟨j, _, a, _, _, rfl⟩ := mem_addressesFrom.mp member
    rw [List.mem_singleton.mp root]
    trivial

theorem addresses_nodup (n : Node) : n.addresses.Nodup :=
  (addresses_ordered n).imp fun before => by
    rintro rfl
    exact Address.not_precedes_self _ before

end Node

end FilterQuery
