import FilterQuery.Decode.Source

/-!
# Record fields as parts of a map

Which entry of a map a record field takes. The tag of a field may name another key, have the fields
of a record filled in place, or ask for all entries that are left over.
-/

namespace FilterQuery

/-- Whether two characters are the same but for their case. -/
def sameFold (a b : Char) : Bool := a == b || (Unicode.foldOrbit a.toNat).contains b.toNat

/-- Whether two texts are the same but for the case of their characters. -/
def equalFold : List Char → List Char → Bool
  | [], [] => true
  | a :: as, b :: bs => sameFold a b && equalFold as bs
  | _, _ => false

/-- The entry for a name: the one with this key, or else one whose key differs in case only. -/
def entryFor? {α : Type} (name : String) (es : List (String × α)) : Option (String × α) :=
  es.find? (·.1 == name) <|> es.find? fun e => equalFold e.1.toList name.toList

/-- How a field takes part in the filling of its record. -/
inductive FieldRole where
  /-- It has an entry of its own. -/
  | entry
  /-- It is a record whose fields are filled as if they stood in the outer record. -/
  | squash
  /-- It takes the entries that no field asks for. -/
  | remain
deriving DecidableEq, Repr

namespace Field

/-- The role that the tag of a field gives to it: the first word behind the name that is one. -/
def role {τ : Type} (f : Field τ) : FieldRole :=
  let words := (Value.splitCommas (f.tag.getD "").toList).tail.map String.ofList
  match words.find? fun w => w == "squash" || w == "remain" with
  | some "squash" => .squash
  | some _ => .remain
  | none => .entry

def key {τ : Type} (f : Field τ) : String :=
  match (Value.splitTag f.tag).1 with
  | "" => f.name
  | name => name

end Field

namespace Ty

mutual

/-- The keys of the entries that the fields of a record take. -/
def takenKeys {α : Type} (es : List (String × α)) : List (Field Ty) → List String
  | [] => []
  | ⟨name, tag, type⟩ :: fs =>
    let f : Field Ty := ⟨name, tag, type⟩
    let here := match f.isExported, f.role with
      | true, .entry => ((entryFor? f.key es).map (·.1)).toList
      | true, .squash => type.squashedKeys es
      -- hidden fields take none
      | _, _ => []
    here ++ takenKeys es fs

/-- The keys of the entries that a record filled in place takes. -/
def squashedKeys {α : Type} (es : List (String × α)) : Ty → List String
  | .record fields => takenKeys es fields
  | _ => []

end

mutual

/-- The places of the fields that ask for the entries left over; `index` is the place of the first
field. A place is the list of the positions on the way to the field. -/
def remainPlaces (index : Nat) : List (Field Ty) → List (List Nat)
  | [] => []
  | ⟨name, tag, type⟩ :: fs =>
    let f : Field Ty := ⟨name, tag, type⟩
    let here := match f.role with
      | .remain => [[index]]
      | .squash => type.squashedPlaces.map (index :: ·)
      | .entry => []
    here ++ remainPlaces (index + 1) fs

/-- The places of such fields in a record filled in place. -/
def squashedPlaces : Ty → List (List Nat)
  | .record fields => remainPlaces 0 fields
  | _ => []

end

/-- The place of the field that gets the entries left over: the last one of the deepest. -/
def remainPlace? (fields : List (Field Ty)) : Option (List Nat) :=
  (remainPlaces 0 fields).foldl (fun best? place =>
    match best? with
    | some best => if best.length ≤ place.length then some place else some best
    | none => some place) none

end Ty

end FilterQuery
