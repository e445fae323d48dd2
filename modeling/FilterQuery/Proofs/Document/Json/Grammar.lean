import FilterQuery.Document.Json
import FilterQuery.Proofs.Results
import Mathlib.Data.List.Induction

/-!
# The grammar of JSON documents

`IsDocument` says which byte strings are JSON documents and what they denote, without reading from left
to right: a text is split into its tokens in whatever way fits. Blanks may stand around each token,
there are no trailing commas, and numbers are what the number reader accepts of the bytes that numbers
are written with. An object denotes the members with each key once, or the scalar that they stand for.
-/

namespace FilterQuery.Json

open Embedded

/-! ### Tokens -/

def Blank (w : List UInt8) : Prop := ∀ b ∈ w, isBlank b = true

/-- The body of a string. A quote belongs to it after a backslash, unless that is escaped itself. -/
inductive IsBody : List UInt8 → Prop
  | nil : IsBody []
  | byte {b : UInt8} {body : List UInt8} (noQuote : b ≠ quote) (noEscape : b ≠ backslash)
    (rest : IsBody body) : IsBody (b :: body)
  | escape {b : UInt8} {body : List UInt8} (rest : IsBody body) : IsBody (backslash :: b :: body)

/-- A string in quotes and the text it denotes. -/
inductive IsString : List UInt8 → String → Prop
  | quoted {body : List UInt8} {cs : List Char} (closed : IsBody body)
    (decoded : decodeBody body = .ok cs) : IsString (quote :: (body ++ [quote])) (String.ofList cs)

def literals : List (String × Value) :=
  [("null", .null), ("true", .bool true), ("false", .bool false)]

/-- A number and its value. It takes in all bytes that numbers are written with, since none of them
may follow a value. -/
structure IsNumber (s : List UInt8) (x : Binary) : Prop where
  nonempty : s ≠ []
  bytes : ∀ b ∈ s, isNumberByte b = true
  read : Literal.read .double (s.map fun b => Char.ofNat b.toNat) = .ok x

/-! ### Objects -/

/-- The members of an object, merged: each key once, in the order of the first members with the keys,
and with the value of the last. -/
structure Merges (ms es : List (String × Node)) : Prop where
  keys : es.map Prod.fst = (ms.map Prod.fst).eraseDups
  last (key : String) : es.lookup key = ms.reverse.lookup key

/-- The flags that a node gives; what is no text gives none. -/
def flagsOf (n : Node) : String := (text? n).getD ""

/-- The entries are those of a regular expression with a source and flags. -/
inductive IsPattern : List (String × Node) → String → String → Prop
  | bare (source : String) : IsPattern [(regexKey, .scalar (.text source))] source ""
  | flagged (source : String) (n : Node) :
    IsPattern [(regexKey, .scalar (.text source)), (flagsKey, n)] source (flagsOf n)
  | flaggedFirst (source : String) (n : Node) :
    IsPattern [(flagsKey, n), (regexKey, .scalar (.text source))] source (flagsOf n)

/-- The pattern that a source and flags are compiled to. -/
def patternOf (source flags : String) : String :=
  if flags = "" then source else "(?" ++ flags ++ ")" ++ source

/-- What entries denote: the time or the regular expression that they stand for, and otherwise the
mapping. The entries of a regular expression that is not well formed denote nothing. -/
inductive Denotes : List (String × Node) → Node → Prop
  | date {n : Node} {t : Instant} (read : date? n = some t) :
    Denotes [(dateKey, n)] (.scalar (.time t))
  | regex {es : List (String × Node)} {source flags : String} {re : Regex}
    (shape : IsPattern es source flags) (known : ∀ c ∈ flags.toList, isFlag c = true)
    (compiled : Regex.ofText (patternOf source flags) = .ok re) : Denotes es (.scalar (.regex re))
  | mapping {es : List (String × Node)} (noDate : ∀ n, es = [(dateKey, n)] → date? n = none)
    (noPattern : ∀ source flags, ¬IsPattern es source flags) : Denotes es (.mapping es)

/-! ### Values -/

mutual

/-- A value and the node it denotes. -/
inductive IsValue : List UInt8 → Node → Prop
  | literal {word : String} {v : Value} (known : (word, v) ∈ literals) :
    IsValue (Utf8.encode word) (.scalar v)
  | number {s : List UInt8} {x : Binary} (number : IsNumber s x) : IsValue s (.scalar (.double x))
  | string {s : List UInt8} {text : String} (string : IsString s text) :
    IsValue s (.scalar (.text text))
  | emptyArray {w : List UInt8} (blank : Blank w) : IsValue (0x5B :: (w ++ [0x5D])) (.sequence [])
  | array {w s : List UInt8} {ns : List Node} (blank : Blank w) (items : IsItems s ns) :
    IsValue (0x5B :: (w ++ s ++ [0x5D])) (.sequence ns)
  | emptyObject {w : List UInt8} (blank : Blank w) : IsValue (0x7B :: (w ++ [0x7D])) (.mapping [])
  | object {s : List UInt8} {ms es : List (String × Node)} {n : Node} (members : IsMembers s ms)
    (merged : Merges ms es) (denoted : Denotes es n) : IsValue (0x7B :: (s ++ [0x7D])) n

/-- The items of an array, with the blanks after each item and each comma. -/
inductive IsItems : List UInt8 → List Node → Prop
  | last {s w : List UInt8} {n : Node} (item : IsValue s n) (blank : Blank w) : IsItems (s ++ w) [n]
  | more {s w w' rest : List UInt8} {n : Node} {ns : List Node} (item : IsValue s n)
    (blank : Blank w) (blank' : Blank w') (items : IsItems rest ns) :
    IsItems (s ++ w ++ 0x2C :: (w' ++ rest)) (n :: ns)

/-- The members of an object, with the blanks around each member. -/
inductive IsMembers : List UInt8 → List (String × Node) → Prop
  | last {s : List UInt8} {m : String × Node} (member : IsMember s m) : IsMembers s [m]
  | more {s rest : List UInt8} {m : String × Node} {ms : List (String × Node)} (member : IsMember s m)
    (members : IsMembers rest ms) : IsMembers (s ++ 0x2C :: rest) (m :: ms)

/-- A key and a value, with the blanks around each of them. -/
inductive IsMember : List UInt8 → String × Node → Prop
  | pair {w k w₁ w₂ v w₃ : List UInt8} {key : String} {n : Node} (before : Blank w)
    (name : IsString k key) (between : Blank w₁) (behind : Blank w₂) (value : IsValue v n)
    (after : Blank w₃) : IsMember (w ++ k ++ w₁ ++ 0x3A :: (w₂ ++ v ++ w₃)) (key, n)

end

/-- A document and the node it denotes. -/
inductive IsDocument : List UInt8 → Node → Prop
  | value {w s w' : List UInt8} {n : Node} (before : Blank w) (value : IsValue s n)
    (after : Blank w') : IsDocument (w ++ s ++ w') n

/-! ### Merged members -/

theorem lookup_cons (key : String) (e : String × Node) (es : List (String × Node)) :
    (e :: es).lookup key = if key = e.1 then some e.2 else es.lookup key := by
  obtain ⟨k, n⟩ := e
  rw [List.lookup_cons]
  by_cases same : key = k
  · rw [if_pos same, beq_iff_eq.mpr same]
  · rw [if_neg same, beq_false_of_ne same]

theorem eraseDups_concat (keys : List String) (key : String) :
    (keys ++ [key]).eraseDups = if key ∈ keys then keys.eraseDups else keys.eraseDups ++ [key] := by
  rw [List.eraseDups_append]
  split
  · rename_i known
    simp [List.removeAll, known]
  · rename_i new
    simp [List.removeAll, new, List.eraseDups_cons]

theorem nodup_eraseDups (keys : List String) : keys.eraseDups.Nodup := by
  induction keys using List.reverseRecOn with
  | nil => simp
  | append_singleton keys key ih =>
    rw [eraseDups_concat]
    split
    · exact ih
    · rename_i new
      rw [List.nodup_append]
      refine ⟨ih, by simp, fun k member k' last => ?_⟩
      rw [List.mem_singleton.mp last]
      rintro rfl
      exact new (List.mem_eraseDups.mp member)

theorem setEntry_keys (key : String) (n : Node) (es : List (String × Node)) :
    (setEntry key n es).map Prod.fst =
      if key ∈ es.map Prod.fst then es.map Prod.fst else es.map Prod.fst ++ [key] := by
  induction es with
  | nil => rfl
  | cons e es ih =>
    obtain ⟨k, m⟩ := e
    rw [setEntry]
    by_cases same : k = key
    · simp [same]
    · have other : key ≠ k := fun h => same h.symm
      simp only [if_neg same, List.map_cons, ih, List.mem_cons, other, false_or]
      split <;> rfl

theorem setEntry_lookup (key k : String) (n : Node) (es : List (String × Node)) :
    (setEntry key n es).lookup k = if k = key then some n else es.lookup k := by
  induction es with
  | nil => simp [setEntry, lookup_cons]
  | cons e es ih =>
    obtain ⟨k', m⟩ := e
    rw [setEntry]
    by_cases same : k' = key
    · subst same
      by_cases h : k = k' <;> simp [lookup_cons, h]
    · by_cases h : k = k'
      · subst h
        simp [same]
      · simp [lookup_cons, same, h, ih]

theorem merges_setEntry {ms es : List (String × Node)} (merged : Merges ms es) (m : String × Node) :
    Merges (ms ++ [m]) (setEntry m.1 m.2 es) where
  keys := by
    have there : m.1 ∈ es.map Prod.fst ↔ m.1 ∈ ms.map Prod.fst := by
      rw [merged.keys, List.mem_eraseDups]
    rw [setEntry_keys, List.map_append, List.map_singleton, eraseDups_concat, merged.keys]
    simp only [← merged.keys, there]
  last key := by
    rw [setEntry_lookup, merged.last, List.reverse_append, List.reverse_singleton,
      List.singleton_append, lookup_cons]

theorem merges_foldl (ms : List (String × Node)) :
    Merges ms (ms.foldl (fun es m => setEntry m.1 m.2 es) []) := by
  induction ms using List.reverseRecOn with
  | nil => exact ⟨rfl, fun _ => rfl⟩
  | append_singleton ms m ih =>
    rw [List.foldl_append]
    exact merges_setEntry ih m

theorem eq_of_lookup {es fs : List (String × Node)} (distinct : (es.map Prod.fst).Nodup)
    (keys : es.map Prod.fst = fs.map Prod.fst) (values : ∀ key, es.lookup key = fs.lookup key) :
    es = fs := by
  induction es generalizing fs with
  | nil => exact (List.map_eq_nil_iff.mp keys.symm).symm
  | cons e es ih =>
    cases fs with
    | nil => cases keys
    | cons f fs =>
      obtain ⟨k, n⟩ := e
      obtain ⟨k', m⟩ := f
      rw [List.map_cons, List.map_cons, List.cons.injEq] at keys
      obtain ⟨same, rest⟩ := keys
      change k = k' at same
      subst same
      have first := values k
      simp only [lookup_cons, if_true, Option.some.injEq] at first
      rw [List.map_cons, List.nodup_cons] at distinct
      subst first
      rw [ih distinct.2 rest fun key => ?_]
      have here := values key
      by_cases h : key = k
      · subst h
        have missing : ∀ {gs : List (String × Node)}, gs.map Prod.fst = es.map Prod.fst →
            gs.lookup key = none := by
          intro gs same
          rw [List.lookup_eq_none_iff]
          intro p member
          have known : p.1 ∈ es.map Prod.fst := same ▸ List.mem_map_of_mem member
          simp only [bne_iff_ne, ne_eq]
          rintro rfl
          exact distinct.1 known
        rw [missing rfl, missing rest.symm]
      · simpa only [lookup_cons, if_neg h] using here

theorem Merges.unique {ms es fs : List (String × Node)} (merged : Merges ms es)
    (merged' : Merges ms fs) : es = fs :=
  eq_of_lookup (merged.keys ▸ nodup_eraseDups _) (merged.keys.trans merged'.keys.symm) fun key =>
    (merged.last key).trans (merged'.last key).symm

/-! ### What entries denote -/

theorem text?_eq_some {n : Node} {s : String} : text? n = some s ↔ n = .scalar (.text s) := by
  unfold text?
  split
  · simp
  · rename_i other
    simp only [reduceCtorEq, false_iff]
    exact fun same => other s same

theorem compileRegex_eq_ok {source flags : String} {re : Regex} :
    compileRegex source flags = .ok re ↔
      (∀ c ∈ flags.toList, isFlag c = true) ∧ Regex.ofText (patternOf source flags) = .ok re := by
  unfold compileRegex patternOf
  split
  · rename_i c unknown
    simp only [reduceCtorEq, false_iff]
    rintro ⟨known, _⟩
    have refused := List.find?_some unknown
    simp [known c (List.mem_of_find?_eq_some unknown)] at refused
  · rename_i known
    have known : ∀ c ∈ flags.toList, isFlag c = true := by simpa using known
    simp only [String.isEmpty_iff]
    split
    · rename_i compiled
      rw [compiled, Except.ok.injEq, Except.ok.injEq]
      exact ⟨fun same => ⟨known, same⟩, fun ⟨_, same⟩ => same⟩
    · rename_i compiled
      simp [compiled]

theorem isPattern_singleton {k : String} {v : Node} {s f : String} :
    IsPattern [(k, v)] s f ↔ k = regexKey ∧ v = .scalar (.text s) ∧ f = "" := by
  constructor
  · intro pattern
    cases pattern
    exact ⟨rfl, rfl, rfl⟩
  · rintro ⟨rfl, rfl, rfl⟩
    exact .bare s

theorem isPattern_pair {k k' : String} {v v' : Node} {s f : String} :
    IsPattern [(k, v), (k', v')] s f ↔
      (k = regexKey ∧ k' = flagsKey ∧ v = .scalar (.text s) ∧ f = flagsOf v') ∨
        (k = flagsKey ∧ k' = regexKey ∧ v' = .scalar (.text s) ∧ f = flagsOf v) := by
  constructor
  · intro pattern
    cases pattern
    · exact .inl ⟨rfl, rfl, rfl, rfl⟩
    · exact .inr ⟨rfl, rfl, rfl, rfl⟩
  · rintro (⟨rfl, rfl, rfl, rfl⟩ | ⟨rfl, rfl, rfl, rfl⟩)
    · exact .flagged s v'
    · exact .flaggedFirst s v

theorem regexNode_eq_ok {es : List (String × Node)} {source : Node} {flags : Option Node} {n : Node}
    (shape : ∀ s, source = .scalar (.text s) → IsPattern es s ((flags.bind text?).getD ""))
    (only : ∀ s f, IsPattern es s f → source = .scalar (.text s) ∧ f = (flags.bind text?).getD "")
    (noDate : ∀ n, es ≠ [(dateKey, n)]) : regexNode es source flags = .ok n ↔ Denotes es n := by
  unfold regexNode
  split
  · rename_i noText
    constructor
    · intro same
      cases same
      refine .mapping (fun n same => absurd same (noDate n)) fun s f pattern => ?_
      rw [text?_eq_some.mpr (only s f pattern).1] at noText
      cases noText
    · intro denoted
      cases denoted with
      | date _ => exact absurd rfl (noDate _)
      | regex pattern _ _ =>
        rw [text?_eq_some.mpr (only _ _ pattern).1] at noText
        cases noText
      | mapping _ _ => rfl
  · rename_i s isText
    rw [bind_eq_ok]
    constructor
    · rintro ⟨re, compiled, same⟩
      cases same
      obtain ⟨known, compiled⟩ := compileRegex_eq_ok.mp compiled
      exact .regex (shape s (text?_eq_some.mp isText)) known compiled
    · intro denoted
      cases denoted with
      | date _ => exact absurd rfl (noDate _)
      | @regex _ _ _ re pattern known compiled =>
        obtain ⟨same, rfl⟩ := only _ _ pattern
        rw [text?_eq_some.mpr same, Option.some.injEq] at isText
        subst isText
        exact ⟨re, compileRegex_eq_ok.mpr ⟨known, compiled⟩, rfl⟩
      | mapping _ noPattern => exact absurd (shape s (text?_eq_some.mp isText)) (noPattern _ _)

theorem mapping_eq_ok {es : List (String × Node)} {n : Node}
    (noDate : ∀ n, es = [(dateKey, n)] → date? n = none) (noPattern : ∀ s f, ¬IsPattern es s f) :
    (Except.ok (.mapping es) : Except ReadError Node) = .ok n ↔ Denotes es n := by
  constructor
  · intro same
    cases same
    exact .mapping noDate noPattern
  · intro denoted
    cases denoted with
    | date read =>
      rw [noDate _ rfl] at read
      cases read
    | regex pattern _ _ => exact absurd pattern (noPattern _ _)
    | mapping _ _ => rfl

theorem dateNode_eq_ok {v n : Node} {t : Instant} (read : date? v = some t) :
    (Except.ok (.scalar (.time t)) : Except ReadError Node) = .ok n ↔ Denotes [(dateKey, v)] n := by
  constructor
  · intro same
    cases same
    exact .date read
  · intro denoted
    generalize entries : [(dateKey, v)] = es at denoted
    cases denoted with
    | date read' =>
      cases entries
      rw [read] at read'
      cases read'
      rfl
    | regex pattern _ _ =>
      subst entries
      exact absurd (isPattern_singleton.mp pattern).1 (by decide)
    | mapping noDate _ =>
      rw [noDate v entries.symm] at read
      cases read

theorem ofMapping_single {k : String} {v n : Node} :
    Node.ofMapping [(k, v)] = .ok n ↔ Denotes [(k, v)] n := by
  unfold Node.ofMapping
  dsimp only
  split
  · rename_i isDate
    subst isDate
    split
    · rename_i t read
      exact dateNode_eq_ok read
    · rename_i unread
      refine mapping_eq_ok (fun n same => ?_) fun s f pattern => ?_
      · cases same
        exact unread
      · exact absurd (isPattern_singleton.mp pattern).1 (by decide)
  · rename_i noDate
    split
    · rename_i isRegex
      subst isRegex
      refine regexNode_eq_ok (fun s same => ?_) (fun s f pattern => ?_) fun n same => ?_
      · exact isPattern_singleton.mpr ⟨rfl, same, rfl⟩
      · exact (isPattern_singleton.mp pattern).2
      · exact noDate (Prod.mk.inj (List.cons.inj same).1).1
    · rename_i noRegex
      refine mapping_eq_ok (fun n same => ?_) fun s f pattern => ?_
      · cases same
        exact absurd rfl noDate
      · exact noRegex (isPattern_singleton.mp pattern).1

theorem ofMapping_pair {k k' : String} {v v' n : Node} :
    Node.ofMapping [(k, v), (k', v')] = .ok n ↔ Denotes [(k, v), (k', v')] n := by
  unfold Node.ofMapping
  dsimp only
  have noDate : ∀ n, [(k, v), (k', v')] ≠ [(dateKey, n)] := fun n same => by cases same
  have keys : regexKey ≠ flagsKey := by decide
  -- both keys are there if they are the two keys, in either order
  by_cases inOrder : k = regexKey ∧ k' = flagsKey
  · obtain ⟨rfl, rfl⟩ := inOrder
    simp only [lookup_cons, if_true, if_neg keys.symm]
    refine regexNode_eq_ok (fun s same => ?_) (fun s f pattern => ?_) noDate
    · exact isPattern_pair.mpr (.inl ⟨rfl, rfl, same, rfl⟩)
    · rcases isPattern_pair.mp pattern with ⟨_, _, source, flags⟩ | ⟨same, _⟩
      · exact ⟨source, flags⟩
      · exact absurd same keys
  · by_cases reversed : k = flagsKey ∧ k' = regexKey
    · obtain ⟨rfl, rfl⟩ := reversed
      simp only [lookup_cons, if_true, if_neg keys]
      refine regexNode_eq_ok (fun s same => ?_) (fun s f pattern => ?_) noDate
      · exact isPattern_pair.mpr (.inr ⟨rfl, rfl, same, rfl⟩)
      · rcases isPattern_pair.mp pattern with ⟨same, _⟩ | ⟨_, _, source, flags⟩
        · exact absurd same keys.symm
        · exact ⟨source, flags⟩
    · have noPattern : ∀ s f, ¬IsPattern [(k, v), (k', v')] s f := by
        intro s f pattern
        rcases isPattern_pair.mp pattern with ⟨first, second, _⟩ | ⟨first, second, _⟩
        · exact inOrder ⟨first, second⟩
        · exact reversed ⟨first, second⟩
      rw [← mapping_eq_ok (fun n same => absurd same (noDate n)) noPattern]
      split
      · rename_i source flags there thereToo
        simp only [lookup_cons, List.lookup_nil] at there thereToo
        grind
      · rfl

theorem ofMapping_eq_ok {es : List (String × Node)} {n : Node} :
    Node.ofMapping es = .ok n ↔ Denotes es n := by
  match es with
  | [(k, v)] => exact ofMapping_single
  | [(k, v), (k', v')] => exact ofMapping_pair
  | [] | _ :: _ :: _ :: _ =>
    refine mapping_eq_ok (fun n same => ?_) fun s f pattern => ?_
    · cases same
    · cases pattern

end FilterQuery.Json
