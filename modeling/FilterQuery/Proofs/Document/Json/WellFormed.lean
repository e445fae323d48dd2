import FilterQuery.Proofs.Document.Json.Denoted
import FilterQuery.Proofs.Document.Json.Strings
import FilterQuery.Proofs.Time.Rfc3339

/-!
# Well-formed documents

What holds of each node of a document that was read from JSON: strings are UTF-8, numbers are finite,
keys are distinct, and no mapping is left that stands for a time or a regular expression
(`ofJson_isWellFormed`).
-/

namespace FilterQuery.Json

open Embedded

def IsUtf8 (bytes : List UInt8) : Prop := (Utf8.decode? bytes).isSome

/-- The entries of an object that stands for a scalar, for a given form of timestamps. -/
inductive IsSpecial (timestamp : List Char → Prop) : List (String × Node) → Prop
  | millis {v : Value} (number : v.asDouble?.isSome) : IsSpecial timestamp [(dateKey, .scalar v)]
  | date {s : String} (written : timestamp s.toList) :
    IsSpecial timestamp [(dateKey, .scalar (.text s))]
  | regex {es : List (String × Node)} {source flags : String} (pattern : IsPattern es source flags) :
    IsSpecial timestamp es

structure WellFormedScalar (v : Value) : Prop where
  utf8 (bytes : List UInt8) : v.textBytes? = some bytes → IsUtf8 bytes
  finite : v.asDouble?.isSome → ∃ x, v = .double x ∧ x.isFiniteIn .double
  /-- No number is kept as its text. -/
  noNumeral (s : String) : v ≠ .numeral s

structure WellFormedMapping (timestamp : List Char → Prop) (es : List (String × Node)) : Prop where
  distinct : (es.map Prod.fst).Nodup
  utf8 : ∀ e ∈ es, IsUtf8 (Utf8.encode e.1)
  /-- Looking up a key in the mapping and in its plain value gives the same. -/
  agree : ∃ fs, (Node.mapping es).plain = .object .any fs ∧
    ∀ key, fs.lookup key = ((Node.mapping es).get? key).map Node.plain
  noSpecial : ¬IsSpecial timestamp es

def WellFormed (timestamp : List Char → Prop) : Node → Prop := Node.Everywhere fun
  | .scalar v => WellFormedScalar v
  | .sequence _ => True
  | .mapping es => WellFormedMapping timestamp es

theorem isUtf8_encode (s : String) : IsUtf8 (Utf8.encode s) := by
  rw [IsUtf8, Utf8.decode?_encode]
  rfl

theorem Atom.wellFormed {v : Value} (atom : Atom v) : WellFormedScalar v := by
  refine ⟨fun bytes text => ?_, fun number => ?_, fun s => ?_⟩
  · cases atom with
    | text s =>
      cases text
      exact isUtf8_encode s
    | _ => cases text
  · cases atom with
    | double finite => exact ⟨_, rfl, finite⟩
    | _ => cases number
  · rintro rfl
    cases atom

/-- Where no key is given twice, the plain value has the entries in another order. -/
theorem plain_lookup {es : List (String × Node)} (distinct : (es.map Prod.fst).Nodup) :
    ∃ fs, (Node.mapping es).plain = .object .any fs ∧
      ∀ key, fs.lookup key = ((Node.mapping es).get? key).map Node.plain := by
  have distinct' : ((Node.plainEntries es).map Prod.fst).Nodup := by
    rw [Node.plainEntries_eq_map, List.map_map]
    exact distinct
  refine ⟨_, rfl, fun key => ?_⟩
  have perm := Value.sortEntries_perm distinct'
  rw [Value.lookup_perm perm ((perm.map Prod.fst).symm.nodup distinct'), Node.plainEntries_eq_map,
    Value.lookup_map]
  rfl

theorem date?_number {v : Value} (number : v.asDouble?.isSome) : date? (.scalar v) ≠ none := by
  obtain ⟨x, double⟩ := Option.isSome_iff_exists.mp number
  unfold date?
  dsimp only
  rw [double]
  exact Option.some_ne_none _

theorem date?_text {s : String} : date? (.scalar (.text s)) = Instant.ofText? s := rfl

theorem Denotes.noSpecial {es : List (String × Node)} (denoted : Denotes es (.mapping es)) :
    ¬IsSpecial (Rfc3339 ['T'] ['Z'] 59) es := by
  cases denoted with
  | mapping noDate noPattern =>
    intro special
    cases special with
    | millis number => exact date?_number number (noDate _ rfl)
    | date written =>
      obtain ⟨t, read⟩ := Timestamp.read?_rfc3339 written
      have unread := noDate _ rfl
      rw [date?_text, Instant.ofText?, read] at unread
      cases unread
    | regex pattern => exact noPattern _ _ pattern

theorem covers_wellFormed : Covers fun
    | .scalar v => WellFormedScalar v
    | .sequence _ => True
    | .mapping es => WellFormedMapping (Rfc3339 ['T'] ['Z'] 59) es where
  scalar atom := atom.wellFormed
  sequence _ := trivial
  mapping distinct denoted :=
    ⟨distinct, fun e _ => isUtf8_encode e.1, plain_lookup distinct, denoted.noSpecial⟩

/-- Timestamps are those with capital letters and without a leap second. -/
theorem ofJson_isWellFormed {bytes : List UInt8} {n : Node} (read : Node.ofJson bytes = .ok n) :
    WellFormed (Rfc3339 ['T'] ['Z'] 59) n := ofJson_everywhere covers_wellFormed read

/-! ### Objects that remain -/

/-- Whether each character may stand in a string as it is. -/
def isUnescaped (cs : List Char) : Bool :=
  cs.all fun c => decide (0x20 ≤ c.toNat ∧ c ≠ '"' ∧ c ≠ '\\')

theorem spells_plain {cs : List Char} (plain : isUnescaped cs = true) :
    Spells (cs.flatMap String.utf8EncodeChar) cs := by
  induction cs with
  | nil => exact .nil
  | cons c cs ih =>
    rw [isUnescaped, List.all_cons, Bool.and_eq_true, decide_eq_true_eq] at plain
    obtain ⟨⟨printable, noQuote, noEscape⟩, rest⟩ := plain
    rw [List.flatMap_cons]
    exact .plain printable noQuote noEscape (ih rest)

theorem bodyText_plain {s : String} (plain : isUnescaped s.toList = true) :
    IsBody (Utf8.encode s) ∧ bodyText (Utf8.encode s) = .ok s := by
  have spelled := spells_plain plain
  rw [← Utf8.encode_eq_flatMap] at spelled
  exact ⟨spelled.isBody, bodyText_spelled spelled⟩

/-- The object with a text for its date. -/
def dateBytes (s : String) : List UInt8 :=
  0x7B :: (quoted (Utf8.encode dateKey) ++ 0x3A :: quoted (Utf8.encode s) ++ [0x7D])

/-- A text that is no time in the form that is read leaves the object as it is. -/
theorem ofJson_dateBytes {s : String} (plain : isUnescaped s.toList = true)
    (unread : Instant.ofText? s = none) :
    Node.ofJson (dateBytes s) = .ok (.mapping [(dateKey, .scalar (.text s))]) := by
  have none : Blank [] := List.forall_mem_nil _
  obtain ⟨keyClosed, key⟩ := bodyText_plain (s := dateKey) (by decide)
  obtain ⟨closed, text⟩ := bodyText_plain plain
  have member : IsMemberText _ (_, .string (Utf8.encode s)) :=
    .pair none keyClosed none none (.string closed) none
  have read := ofJson_text none (.object (.last member)) none
  rw [Tree.toNode, memberNodes, key, Tree.toNode, text] at read
  simp only [List.nil_append, List.append_nil] at read
  rw [dateBytes, read]
  change Node.ofMapping [(dateKey, .scalar (.text s))] = _
  rw [ofMapping_eq_ok]
  refine .mapping (fun n same => ?_) fun source flags pattern => ?_
  · cases same
    exact unread
  · exact absurd (isPattern_singleton.mp pattern).1 (by decide)

theorem ofJson_isWellFormed_date :
    Node.ofJson (dateBytes "today") = .ok (.mapping [(dateKey, .scalar (.text "today"))]) ∧
      WellFormed (Rfc3339 ['T'] ['Z'] 59) (.mapping [(dateKey, .scalar (.text "today"))]) := by
  have read := ofJson_dateBytes (s := "today") (by decide) (by decide)
  exact ⟨read, ofJson_isWellFormed read⟩

theorem rfc3339_smallLetters :
    Rfc3339 ['T', 't'] ['Z', 'z'] 60 "2020-01-02t03:04:05z".toList := by
  have date : FullDate ("2020".toList ++ '-' :: ("01".toList ++ '-' :: "02".toList)) :=
    .date (y := 2020) (m := 1) (d := 2) (by decide) (by decide) (by decide) (by decide)
      (by decide)
  have time : PartialTime 60 ("03".toList ++ ':' :: ("04".toList ++ ':' :: ("05".toList ++ []))) :=
    .time (h := 3) (m := 4) (s := 5) (by decide) (by decide) (by decide) (by decide)
      (by decide) (by decide) .none
  exact .dateTime (t := 't') date (by decide) time (.utc (z := 'z') (by decide))

theorem rfc3339_leapSecond :
    Rfc3339 ['T', 't'] ['Z', 'z'] 60 "1990-12-31T23:59:60Z".toList := by
  have date : FullDate ("1990".toList ++ '-' :: ("12".toList ++ '-' :: "31".toList)) :=
    .date (y := 1990) (m := 12) (d := 31) (by decide) (by decide) (by decide) (by decide)
      (by decide)
  have time : PartialTime 60 ("23".toList ++ ':' :: ("59".toList ++ ':' :: ("60".toList ++ []))) :=
    .time (h := 23) (m := 59) (s := 60) (by decide) (by decide) (by decide) (by decide)
      (by decide) (by decide) .none
  exact .dateTime (t := 'T') date (by decide) time (.utc (z := 'Z') (by decide))

/-- Timestamps of RFC 3339 with small letters or a leap second leave the object as it is. -/
theorem ofJson_date_remains :
    (∃ n, Node.ofJson (dateBytes "2020-01-02t03:04:05z") = .ok n ∧
      ¬WellFormed (Rfc3339 ['T', 't'] ['Z', 'z'] 60) n) ∧
    ∃ n, Node.ofJson (dateBytes "1990-12-31T23:59:60Z") = .ok n ∧
      ¬WellFormed (Rfc3339 ['T', 't'] ['Z', 'z'] 60) n := by
  have remains {s : String} (plain : isUnescaped s.toList = true)
      (unread : Instant.ofText? s = none) (written : Rfc3339 ['T', 't'] ['Z', 'z'] 60 s.toList) :
      ∃ n, Node.ofJson (dateBytes s) = .ok n ∧
        ¬WellFormed (Rfc3339 ['T', 't'] ['Z', 'z'] 60) n :=
    ⟨_, ofJson_dateBytes plain unread, fun wellFormed => wellFormed.here.noSpecial (.date written)⟩
  constructor
  · exact remains (by decide) (by decide) rfc3339_smallLetters
  · exact remains (by decide) (by decide) rfc3339_leapSecond

end FilterQuery.Json
