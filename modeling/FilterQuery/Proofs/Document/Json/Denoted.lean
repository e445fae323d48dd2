import FilterQuery.Proofs.Document.Everywhere
import FilterQuery.Proofs.Document.Json.Reader
import FilterQuery.Proofs.Numeric.Finite
import FilterQuery.Proofs.Text.Utf8
import FilterQuery.Proofs.Value.Entries

/-!
# What JSON documents denote

The nodes that JSON documents denote have scalars of a few kinds only, and each mapping has each of its
keys once.
-/

namespace FilterQuery.Json

/-- The scalars that JSON documents denote. -/
inductive Atom : Value → Prop
  | null : Atom .null
  | bool (b : Bool) : Atom (.bool b)
  | double {x : Binary} (finite : x.isFiniteIn .double) : Atom (.double x)
  | text (s : String) : Atom (.text s)
  | time (t : Instant) : Atom (.time t)
  | regex (re : Regex) : Atom (.regex re)

theorem Merges.distinct {ms es : List (String × Node)} (merged : Merges ms es) :
    (es.map Prod.fst).Nodup :=
  merged.keys ▸ nodup_eraseDups _

theorem Merges.subset {ms es : List (String × Node)} (merged : Merges ms es) : es ⊆ ms := by
  rintro ⟨key, n⟩ member
  have found := (Value.lookup_eq_some_iff merged.distinct).mpr member
  rw [merged.last] at found
  obtain ⟨before, after, split, _⟩ := List.lookup_eq_some_iff.mp found
  rw [← List.mem_reverse, split]
  exact List.mem_append_right before List.mem_cons_self

/-- A property that all nodes have which JSON documents can denote: atoms, sequences, and mappings
with each key once that stand for no scalar. -/
structure Covers (P : Node → Prop) : Prop where
  scalar {v : Value} : Atom v → P (.scalar v)
  sequence (ns : List Node) : P (.sequence ns)
  mapping {es : List (String × Node)} :
    (es.map Prod.fst).Nodup → Denotes es (.mapping es) → P (.mapping es)

theorem numberByte_mem {b : UInt8} (isByte : isNumberByte b = true) :
    Char.ofNat b.toNat ∈ Literal.numeralChars :=
  Utf8.forall_byte (P := fun b => isNumberByte b = true → Char.ofNat b.toNat ∈ Literal.numeralChars)
    (by decide +kernel) b isByte

/-- A number is written with characters of numerals, which spell no infinity. -/
theorem IsNumber.finite {s : List UInt8} {x : Binary} (number : IsNumber s x) :
    x.isFiniteIn .double := by
  refine Literal.read_isFiniteIn (fun c member => ?_) x number.read
  obtain ⟨b, inside, rfl⟩ := List.mem_map.mp member
  exact numberByte_mem (number.bytes b inside)

variable {P : Node → Prop}

mutual

theorem IsValue.everywhere (covers : Covers P) : ∀ {s : List UInt8} {n : Node}, IsValue s n →
    n.Everywhere P
  | _, _, .literal known => by
    simp only [literals, List.mem_cons, Prod.mk.injEq, List.not_mem_nil, or_false] at known
    rcases known with ⟨_, rfl⟩ | ⟨_, rfl⟩ | ⟨_, rfl⟩
    · exact .scalar (covers.scalar .null)
    · exact .scalar (covers.scalar (.bool true))
    · exact .scalar (covers.scalar (.bool false))
  | _, _, .number number => .scalar (covers.scalar (.double number.finite))
  | _, _, .string _ => .scalar (covers.scalar (.text _))
  | _, _, .emptyArray _ => .sequence (covers.sequence []) fun _ none => by cases none
  | _, _, .array _ items => .sequence (covers.sequence _) (IsItems.everywhere covers items)
  | _, _, .emptyObject _ => by
    have denoted : Denotes [] (.mapping []) := .mapping (fun _ same => by cases same)
      fun _ _ pattern => by cases pattern
    exact .mapping (covers.mapping List.nodup_nil denoted) fun _ none => by cases none
  | _, _, .object members merged denoted => by
    have each := IsMembers.everywhere covers members
    cases denoted with
    | date _ => exact .scalar (covers.scalar (.time _))
    | regex _ _ _ => exact .scalar (covers.scalar (.regex _))
    | mapping noDate noPattern =>
      exact .mapping (covers.mapping merged.distinct (.mapping noDate noPattern)) fun e member =>
        each e (merged.subset member)

theorem IsItems.everywhere (covers : Covers P) : ∀ {s : List UInt8} {ns : List Node}, IsItems s ns →
    ∀ n ∈ ns, n.Everywhere P
  | _, _, .last item _ => List.forall_mem_singleton.mpr (IsValue.everywhere covers item)
  | _, _, .more item _ _ items =>
    List.forall_mem_cons.mpr ⟨IsValue.everywhere covers item, IsItems.everywhere covers items⟩

theorem IsMembers.everywhere (covers : Covers P) : ∀ {s : List UInt8} {ms : List (String × Node)},
    IsMembers s ms → ∀ m ∈ ms, m.2.Everywhere P
  | _, _, .last member => List.forall_mem_singleton.mpr (IsMember.everywhere covers member)
  | _, _, .more member members =>
    List.forall_mem_cons.mpr ⟨IsMember.everywhere covers member, IsMembers.everywhere covers members⟩

theorem IsMember.everywhere (covers : Covers P) : ∀ {s : List UInt8} {m : String × Node}, IsMember s m →
    m.2.Everywhere P
  | _, _, .pair _ _ _ _ value _ => IsValue.everywhere covers value

end

theorem ofJson_everywhere (covers : Covers P) {bytes : List UInt8} {n : Node}
    (read : Node.ofJson bytes = .ok n) : n.Everywhere P := by
  obtain ⟨⟨m, rest⟩, value, ended⟩ := bind_eq_ok.mp read
  obtain ⟨s, _, isValue⟩ := (sound _).value value
  have all := isValue.everywhere covers
  dsimp only at ended
  split at ended
  · cases ended
    exact all
  · cases ended

theorem ofJson_wellFormed {bytes : List UInt8} {n : Node} (read : Node.ofJson bytes = .ok n) :
    n.DistinctKeys ∧ n.PlainScalars := by
  constructor
  · exact ofJson_everywhere ⟨fun _ => trivial, fun _ => trivial, fun distinct _ => distinct⟩ read
  · refine ofJson_everywhere ⟨fun atom => ?_, fun _ => trivial, fun _ _ => trivial⟩ read
    cases atom <;> rfl

end FilterQuery.Json
