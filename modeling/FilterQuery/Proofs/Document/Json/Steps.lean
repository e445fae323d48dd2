import FilterQuery.Proofs.Document.Json.Grammar

/-!
# Steps of the JSON reader

What the reader does at a value, behind the name of a member, behind a member and behind an item, one
equation for each byte that it may meet there.
-/

namespace FilterQuery.Json

/-! ### Blanks -/

theorem blank_skip (s : List UInt8) : ∃ w, Blank w ∧ s = w ++ skip s :=
  ⟨s.takeWhile isBlank, fun _ member => List.all_eq_true.mp List.all_takeWhile _ member,
    List.takeWhile_append_dropWhile.symm⟩

theorem skip_append {w : List UInt8} (blank : Blank w) (t : List UInt8) : skip (w ++ t) = skip t :=
  List.dropWhile_append_of_pos blank

theorem skip_cons {b : UInt8} (token : isBlank b = false) (t : List UInt8) :
    skip (b :: t) = b :: t :=
  List.dropWhile_cons_of_neg (by simp [token])

theorem skip_skip (s : List UInt8) : skip (skip s) = skip s := by
  obtain ⟨w, blank, same⟩ := blank_skip s
  have skipped := skip_append blank (skip s)
  rw [← same] at skipped
  exact skipped.symm

/-! ### Tokens -/

theorem splitString_eq_some {s body t : List UInt8} :
    splitString s = some (body, t) ↔ s = body ++ quote :: t ∧ IsBody body := by
  constructor
  · intro h
    fun_induction splitString s generalizing body with
    | case1 => cases h
    | case2 rest =>
      cases h
      exact ⟨rfl, .nil⟩
    | case3 => cases h
    | case4 _ c rest ih =>
      obtain ⟨⟨inner, _⟩, found, same⟩ := Option.map_eq_some_iff.mp h
      cases same
      obtain ⟨rfl, closed⟩ := ih found
      exact ⟨rfl, .escape closed⟩
    | case5 b rest noQuote noEscape ih =>
      obtain ⟨⟨inner, _⟩, found, same⟩ := Option.map_eq_some_iff.mp h
      cases same
      obtain ⟨rfl, closed⟩ := ih found
      exact ⟨rfl, .byte noQuote noEscape closed⟩
  · rintro ⟨rfl, closed⟩
    induction closed with
    | nil =>
      rw [List.nil_append, splitString.eq_def]
      rfl
    | byte noQuote noEscape _ ih =>
      rw [List.cons_append, splitString.eq_def]
      simp only [if_neg noQuote, if_neg noEscape, ih]
      rfl
    | escape _ ih =>
      rw [List.cons_append, List.cons_append, splitString.eq_def]
      have noQuote : backslash ≠ quote := by decide
      simp only [if_neg noQuote, if_true, ih]
      rfl

/-- What follows does not prolong a number. -/
def EndsNumber (t : List UInt8) : Prop := ∀ b rest, t = b :: rest → isNumberByte b = false

theorem ends_number_of_blank {w : List UInt8} (blank : Blank w) {t : List UInt8}
    (ends : EndsNumber t) : EndsNumber (w ++ t) := by
  cases w with
  | nil => exact ends
  | cons b w =>
    intro c rest same
    cases same
    have isBlank := blank b List.mem_cons_self
    simp only [Json.isBlank, Bool.or_eq_true, beq_iff_eq] at isBlank
    rcases isBlank with ((rfl | rfl) | rfl) | rfl <;> rfl

theorem ends_number_cons {b : UInt8} (other : isNumberByte b = false) (t : List UInt8) :
    EndsNumber (b :: t) := by
  intro c rest same
  cases same
  exact other

theorem literal_append (word : String) (v : Value) (t : List UInt8) :
    literal word v (Utf8.encode word ++ t) = .ok (.scalar v, t) := by
  simp [literal]

/-! ### Values -/

theorem members_skip (fuel : Nat) (es : List (String × Node)) (s : List UInt8) :
    members fuel es (skip s) = members fuel es s := by
  cases fuel with
  | zero => rfl
  | succ fuel => rw [members, members, skip_skip]

theorem value_brace (fuel : Nat) (rest : List UInt8) :
    value (fuel + 1) (0x7B :: rest) =
      match skip rest with
      | 0x7D :: tail => .ok (.mapping [], tail)
      | body => do
        let (es, tail) ← members fuel [] body
        return (← Node.ofMapping es, tail) :=
  rfl

theorem value_emptyObject {fuel : Nat} {rest t : List UInt8} (closed : skip rest = 0x7D :: t) :
    value (fuel + 1) (0x7B :: rest) = .ok (.mapping [], t) := by
  rw [value_brace, closed]
  rfl

theorem value_object {fuel : Nat} {rest : List UInt8} (opened : ∀ tail, skip rest ≠ 0x7D :: tail) :
    value (fuel + 1) (0x7B :: rest) = do
      let (es, tail) ← members fuel [] (skip rest)
      return (← Node.ofMapping es, tail) := by
  rw [value_brace]
  split
  next tail closed => exact absurd closed (opened tail)
  next => rfl

theorem value_bracket (fuel : Nat) (rest : List UInt8) :
    value (fuel + 1) (0x5B :: rest) =
      match skip rest with
      | 0x5D :: tail => .ok (.sequence [], tail)
      | body => do
        let (items, tail) ← elements fuel body
        return (.sequence items, tail) :=
  rfl

theorem value_emptyArray {fuel : Nat} {rest t : List UInt8} (closed : skip rest = 0x5D :: t) :
    value (fuel + 1) (0x5B :: rest) = .ok (.sequence [], t) := by
  rw [value_bracket, closed]
  rfl

theorem value_array {fuel : Nat} {rest : List UInt8} (opened : ∀ tail, skip rest ≠ 0x5D :: tail) :
    value (fuel + 1) (0x5B :: rest) = do
      let (items, tail) ← elements fuel (skip rest)
      return (.sequence items, tail) := by
  rw [value_bracket]
  split
  next tail closed => exact absurd closed (opened tail)
  next => rfl

theorem value_string (fuel : Nat) (s : List UInt8) :
    value (fuel + 1) (quote :: s) = do
      let (text, tail) ← string (quote :: s)
      return (.scalar (.text text), tail) :=
  rfl

theorem value_number {fuel : Nat} {b : UInt8} {rest : List UInt8} (isByte : isNumberByte b = true) :
    value (fuel + 1) (b :: rest) = number (b :: rest) := by
  rw [value.eq_def]
  dsimp only
  split
  all_goals first | rfl | cases isByte

theorem value_literal {word : String} {v : Value} (known : (word, v) ∈ literals) (fuel : Nat)
    (t : List UInt8) :
    value (fuel + 1) (Utf8.encode word ++ t) = literal word v (Utf8.encode word ++ t) := by
  simp only [literals, List.mem_cons, Prod.mk.injEq, List.not_mem_nil, or_false] at known
  rcases known with ⟨rfl, rfl⟩ | ⟨rfl, rfl⟩ | ⟨rfl, rfl⟩
  all_goals rfl

/-! ### Behind a name, a member and an item -/

/-- What is done behind a member, where `es` are the members up to it. -/
def afterMember (fuel : Nat) (es : List (String × Node)) (s : List UInt8) :
    Except ReadError (List (String × Node) × List UInt8) :=
  match skip s with
  | [] => .error .unexpectedEnd
  | 0x7D :: s => .ok (es, s)
  | 0x2C :: s => members fuel es s
  | _ => .error .noComma

/-- What is done behind the key of a member. -/
def afterName (fuel : Nat) (es : List (String × Node)) (key : String) (s : List UInt8) :
    Except ReadError (List (String × Node) × List UInt8) :=
  match skip s with
  | 0x3A :: s => do
    let (v, s) ← value fuel (skip s)
    afterMember fuel (setEntry key v es) s
  | _ => .error .noColon

/-- What is done behind an item. -/
def afterItem (fuel : Nat) (n : Node) (s : List UInt8) : Except ReadError (List Node × List UInt8) :=
  match skip s with
  | [] => .error .unexpectedEnd
  | 0x5D :: s => .ok ([n], s)
  | 0x2C :: s => do
    let (ns, s) ← elements fuel (skip s)
    return (n :: ns, s)
  | _ => .error .noComma

section Behind

variable {fuel : Nat} {es : List (String × Node)} {w t : List UInt8}

theorem members_eq {s : List UInt8} {b : UInt8} (start : skip s = b :: t) :
    members (fuel + 1) es s = string (b :: t) >>= fun (key, s) => afterName fuel es key s := by
  rw [members, start]
  rfl

theorem members_named {s : List UInt8} {key : String} (named : string (skip s) = .ok (key, t)) :
    members (fuel + 1) es s = afterName fuel es key t := by
  cases start : skip s with
  | nil =>
    rw [start] at named
    cases named
  | cons b rest =>
    rw [start] at named
    rw [members_eq start, named]
    rfl

theorem elements_eq (fuel : Nat) (s : List UInt8) :
    elements (fuel + 1) s = value fuel s >>= fun (v, s) => afterItem fuel v s := by
  rw [elements]
  rfl

theorem afterName_colon {key : String} (blank : Blank w) :
    afterName fuel es key (w ++ 0x3A :: t) =
      value fuel (skip t) >>= fun (v, s) => afterMember fuel (setEntry key v es) s := by
  rw [afterName, skip_append blank, skip_cons (by decide)]
  rfl

theorem afterMember_blank (blank : Blank w) : afterMember fuel es (w ++ t) = afterMember fuel es t := by
  rw [afterMember, afterMember, skip_append blank]

theorem afterItem_bracket {n : Node} (blank : Blank w) :
    afterItem fuel n (w ++ 0x5D :: t) = .ok ([n], t) := by
  rw [afterItem, skip_append blank, skip_cons (by decide)]
  rfl

theorem afterItem_comma {n : Node} (blank : Blank w) :
    afterItem fuel n (w ++ 0x2C :: t) = do
      let (ns, s) ← elements fuel (skip t)
      return (n :: ns, s) := by
  rw [afterItem, skip_append blank, skip_cons (by decide)]
  rfl

end Behind

end FilterQuery.Json
