import FilterQuery.Decode.Fields
import FilterQuery.Decode.Scalar

/-!
# Decoding

Writes a dynamic value into a place of a static type: scalars by conversion, lists and maps part by
part, and records from maps by the names of their fields. The function recurses on the type, and
all parts of a value are tried before a failure is reported.
-/

namespace FilterQuery

namespace Value

def itemPlace (place : String) (i : Nat) : String := place ++ "[" ++ toString i ++ "]"

def entryPlace (place key : String) : String := place ++ "[" ++ key ++ "]"

def fieldPlace (place key : String) : String := if place = "" then key else place ++ "." ++ key

/-- The key shown for each entry that is left over after the fields of a record were filled. -/
def remainKey : String := "<interface \x7b\x7d Value>"

def sourceItems (place : String) (v : Value) : Except Failure (List Value) :=
  match v.behind.directItems? with
  | some items => .ok items
  | none => .error (.single (.notList place v.typeBehind.kindName))

/-- The entries of a map whose values have the type `elem`, from a map or a record. -/
def sourceEntries (place : String) (elem : Ty) (v : Value) :
    Except Failure (List (String × Value)) :=
  match v.behind with
  | .object _ es => .ok es
  | .nilOf (.map _) | .intMap => .ok []
  | w =>
    if v.typeBehind.kindName = "struct" then (w.recordMap elem).mapError .single
    else .error (.single (.notMap place v.typeBehind.kindName))

def sourceFields (place : String) (v : Value) : Except Failure (List (String × Value)) :=
  match v.behind with
  | .intMap => .error (.single (.keyKind place "int"))
  | _ => v.sourceEntries place .any

/-- Whether the values of a map are taken as they are, because it comes from a record. -/
def isRecordLike (v : Value) : Bool := v.typeBehind.kindName == "struct"

mutual

/-- The value of a type that a value is decoded into. -/
def decodeAs (place : String) (v : Value) (t : Ty) : Except Failure Value :=
  -- an absent value leaves the place as it was
  if v.isAbsent then .ok (zero t)
  else match t with
    | .any =>
      match v with
      | .ref .any w => .ok w
      | w => .ok w
    | .bool => decodeBool place v
    | .text => decodeText place .text v
    | .numeral => decodeText place .numeral v
    | .int i => if i.signed then decodeSigned place i v else decodeUnsigned place i v
    | .float64 => decodeFloat place .float64 .double v
    | .float32 => decodeFloat place .float32 (fun x => .single (x.convert .single)) v
    | .ref elem =>
      if v.isAbsentBehind then .ok (.nilOf (.ref elem))
      else (decodeAs place v elem).map (.ref elem)
    | .list elem =>
      match v.behind with
      | .nilOf (.list _) => .ok (.nilOf (.list elem))
      | _ => do
        let items ← v.sourceItems place
        let decoded ← Failure.collect
          (items.zipIdx.map fun (w, i) => decodeAs (itemPlace place i) w elem)
        return listOf elem decoded
    | .map elem => do
      let es ← v.sourceEntries place elem
      -- what comes from a record has the type already
      if v.isRecordLike then return .object elem es
      let decoded ← Failure.collect (es.map fun (k, w) =>
        (decodeAs (entryPlace place k) w elem).map (k, ·))
      return .object elem decoded
    | .record fields =>
      if v.typeBehind.name = (Ty.record fields).name then .ok v.behind
      else do
        let es ← v.sourceFields place
        let taken := Ty.takenKeys es fields
        let rest := es.filter fun e => !taken.contains e.1
        let filled ← Failure.collect
          (fillFields place es rest true (Ty.remainPlace? fields) 0 fields)
        return .record filled
    | .time =>
      match v.behind with
      | .time i => .ok (.time i)
      | _ => (v.sourceFields place).map fun _ => zero .time
    | .regex =>
      match v with
      | .regex re => .ok (.regex re)
      | _ =>
        if v.isAbsentBehind then .ok (.nilOf .regex)
        else (v.sourceFields place).map fun _ => .regex .empty
    | t => if v.typeBehind.name = t.name then .ok v.behind else unconvertible place t v

/-- The fields of a record, filled from entries: `rest` are those that no field asks for, and
`remain` is the place of the field that gets them. Fields that are not `writable` stay as they
are. -/
def fillFields (place : String) (es rest : List (String × Value)) (writable : Bool)
    (remain : Option (List Nat)) (index : Nat) :
    List (Field Ty) → List (Except Failure (Field Ty × Value))
  | [] => []
  | ⟨name, tag, type⟩ :: fs =>
    let f : Field Ty := ⟨name, tag, type⟩
    let within := match remain with
      | some (i :: p) => if i = index then some p else none
      | _ => none
    let filled := match f.role with
      | .entry =>
        match entryFor? f.key es with
        | some (_, w) =>
          if writable && f.isExported then decodeAs (fieldPlace place f.key) w type
          else .ok (zero type)
        | none => .ok (zero type)
      | .squash => fillInPlace name place es rest (writable && f.isExported) within type
      | .remain =>
        if within = some [] ∧ !rest.isEmpty then decodeRest place rest type
        else .ok (zero type)
    filled.map (f, ·) :: fillFields place es rest writable remain (index + 1) fs

/-- A record whose fields are filled as if they stood in the outer record. -/
def fillInPlace (field place : String) (es rest : List (String × Value)) (writable : Bool)
    (remain : Option (List Nat)) : Ty → Except Failure Value
  | .record fields =>
    (Failure.collect (fillFields place es rest writable remain 0 fields)).map .record
  | t =>
    if t.kindName = "struct" then .ok (zero t)
    else .error (.single (.squashTarget field t.kindName))

/-- A map of the entries that are left over. -/
def decodeRest (place : String) (rest : List (String × Value)) : Ty → Except Failure Value
  | .map elem =>
    (Failure.collect (rest.map fun (k, w) =>
      (decodeAs (entryPlace place remainKey) w elem).map (k, ·))).map (.object elem)
  | t => .ok (zero t)

end

end Value

/-! ## Targets -/

inductive Target where
  /-- Nothing. -/
  | absent
  /-- A place of the type. -/
  | place (t : Ty)
  /-- A value of the type, which cannot be written to. -/
  | value (t : Ty)

inductive DecodeError where
  | noTarget
  | notReference
  | notAddressable
  /-- The value, of the type `source`, does not fit the type `target`. -/
  | failed (source target : String) (cause : Failure)
deriving DecidableEq, Repr

def DecodeError.message : DecodeError → String
  | .noTarget => "target interface is nil"
  | .notReference => "target should be a pointer"
  | .notAddressable => "result must be addressable (a pointer)"
  | .failed source target cause =>
    "cannot decode " ++ source ++ " into " ++ target ++ ": " ++ cause.message

def Value.decode (v : Value) : Target → Except DecodeError Value
  | .absent | .value .any => .error .noTarget
  | .value t => .error (if t.kindName = "ptr" then .notAddressable else .notReference)
  | .place t =>
    -- documents in the value are decoded as plain values
    (Value.decodeAs "" v.plainData t).mapError (.failed v.typeName (Ty.ref t).name)

end FilterQuery
