import FilterQuery.Proofs.Document.Json.Steps

/-!
# Syntax trees of JSON texts

`IsText` cuts a JSON text into its tokens, in whatever way fits, and reads nothing in them. What the
reader makes of the text, errors included, is what the tokens come to from left to right
(`ofJson_text`). The proof is an induction on the fuel that is bounded by the length of the text: a
step consumes all of its text, whatever follows, as long as that does not prolong a number, and two
steps for each byte are enough.
-/

namespace FilterQuery.Json

/-- The tokens of a value: numbers and the bodies of strings are still bytes. -/
inductive Tree where
  | literal (v : Value)
  | number (digits : List UInt8)
  | string (body : List UInt8)
  | array (items : List Tree)
  | object (members : List (List UInt8 × Tree))

/-! ### What tokens come to -/

def bodyText (body : List UInt8) : Except ReadError String :=
  (decodeBody body).map String.ofList

def numberText (digits : List UInt8) : List Char := digits.map fun b => Char.ofNat b.toNat

def numberNode (digits : List UInt8) : Except ReadError Node :=
  match Literal.read .double (numberText digits) with
  | .ok x => .ok (.scalar (.double x))
  | .error e => .error (.badNumber (String.ofList (numberText digits)) e)

mutual

def Tree.toNode : Tree → Except ReadError Node
  | .literal v => .ok (.scalar v)
  | .number digits => numberNode digits
  | .string body => do
    let text ← bodyText body
    return .scalar (.text text)
  | .array items => do
    let ns ← itemNodes items
    return .sequence ns
  | .object members => do
    let es ← memberNodes [] members
    Node.ofMapping es

def itemNodes : List Tree → Except ReadError (List Node)
  | [] => .ok []
  | tree :: trees => do
    let n ← tree.toNode
    let ns ← itemNodes trees
    return n :: ns

/-- The entries that members come to; `es` are those of the members before. -/
def memberNodes (es : List (String × Node)) :
    List (List UInt8 × Tree) → Except ReadError (List (String × Node))
  | [] => .ok es
  | (body, tree) :: members => do
    let key ← bodyText body
    let n ← tree.toNode
    memberNodes (setEntry key n es) members

end

/-! ### Texts -/

def quoted (body : List UInt8) : List UInt8 := quote :: (body ++ [quote])

mutual

/-- A text of a value and its tokens. -/
inductive IsText : List UInt8 → Tree → Prop
  | literal {word : String} {v : Value} (known : (word, v) ∈ literals) :
    IsText (Utf8.encode word) (.literal v)
  | number {s : List UInt8} (nonempty : s ≠ []) (bytes : ∀ b ∈ s, isNumberByte b = true) :
    IsText s (.number s)
  | string {body : List UInt8} (closed : IsBody body) : IsText (quoted body) (.string body)
  | emptyArray {w : List UInt8} (blank : Blank w) : IsText (0x5B :: (w ++ [0x5D])) (.array [])
  | array {w s : List UInt8} {trees : List Tree} (blank : Blank w) (items : AreItemTexts s trees) :
    IsText (0x5B :: (w ++ s ++ [0x5D])) (.array trees)
  | emptyObject {w : List UInt8} (blank : Blank w) : IsText (0x7B :: (w ++ [0x7D])) (.object [])
  | object {s : List UInt8} {ms : List (List UInt8 × Tree)} (members : AreMemberTexts s ms) :
    IsText (0x7B :: (s ++ [0x7D])) (.object ms)

/-- The items of an array, with the blanks after each item and each comma. -/
inductive AreItemTexts : List UInt8 → List Tree → Prop
  | last {s w : List UInt8} {tree : Tree} (item : IsText s tree) (blank : Blank w) :
    AreItemTexts (s ++ w) [tree]
  | more {s w w' rest : List UInt8} {tree : Tree} {trees : List Tree} (item : IsText s tree)
    (blank : Blank w) (blank' : Blank w') (items : AreItemTexts rest trees) :
    AreItemTexts (s ++ w ++ 0x2C :: (w' ++ rest)) (tree :: trees)

/-- The members of an object, with the blanks around each member. -/
inductive AreMemberTexts : List UInt8 → List (List UInt8 × Tree) → Prop
  | last {s : List UInt8} {m : List UInt8 × Tree} (member : IsMemberText s m) : AreMemberTexts s [m]
  | more {s rest : List UInt8} {m : List UInt8 × Tree} {ms : List (List UInt8 × Tree)}
    (member : IsMemberText s m) (members : AreMemberTexts rest ms) :
    AreMemberTexts (s ++ 0x2C :: rest) (m :: ms)

/-- A key and a value, with the blanks around each of them. -/
inductive IsMemberText : List UInt8 → List UInt8 × Tree → Prop
  | pair {w body w₁ w₂ v w₃ : List UInt8} {tree : Tree} (before : Blank w) (closed : IsBody body)
    (between : Blank w₁) (behind : Blank w₂) (value : IsText v tree) (after : Blank w₃) :
    IsMemberText (w ++ quoted body ++ w₁ ++ 0x3A :: (w₂ ++ v ++ w₃)) (body, tree)

end

/-! ### Tokens at the start of a text -/

theorem quoted_append (body t : List UInt8) : quoted body ++ t = quote :: (body ++ quote :: t) := by
  simp [quoted]

theorem string_quoted {body : List UInt8} (closed : IsBody body) (t : List UInt8) :
    string (quoted body ++ t) = (bodyText body).map (·, t) := by
  rw [quoted_append, string, if_pos rfl, splitString_eq_some.mpr ⟨rfl, closed⟩, bodyText]
  dsimp only
  cases decodeBody body <;> rfl

theorem number_append {s t : List UInt8} (bytes : ∀ b ∈ s, isNumberByte b = true)
    (ends : EndsNumber t) : number (s ++ t) = (numberNode s).map (·, t) := by
  have behind : t.takeWhile isNumberByte = [] ∧ t.dropWhile isNumberByte = t := by
    cases t with
    | nil => exact ⟨rfl, rfl⟩
    | cons b rest => simp [ends b rest rfl]
  unfold number
  rw [List.takeWhile_append_of_pos bytes, List.dropWhile_append_of_pos bytes, behind.1, behind.2,
    List.append_nil, numberNode, numberText]
  dsimp only
  cases Literal.read .double (s.map fun b => Char.ofNat b.toNat) <;> rfl

theorem IsText.start {s : List UInt8} {tree : Tree} (h : IsText s tree) :
    ∃ b rest, s = b :: rest ∧ isBlank b = false ∧ b ≠ 0x5D := by
  cases h with
  | literal known =>
    simp only [literals, List.mem_cons, Prod.mk.injEq, List.not_mem_nil, or_false] at known
    rcases known with ⟨rfl, _⟩ | ⟨rfl, _⟩ | ⟨rfl, _⟩
    all_goals exact ⟨_, _, rfl, by decide, by decide⟩
  | number nonempty bytes =>
    obtain ⟨b, rest, rfl⟩ := List.exists_cons_of_ne_nil nonempty
    have isByte := bytes b List.mem_cons_self
    refine ⟨b, rest, rfl, ?_, ?_⟩
    · cases blank : isBlank b with
      | false => rfl
      | true =>
        simp only [isBlank, Bool.or_eq_true, beq_iff_eq] at blank
        rcases blank with ((rfl | rfl) | rfl) | rfl <;> cases isByte
    · rintro rfl
      cases isByte
  | string _ => exact ⟨_, _, rfl, by decide, by decide⟩
  | emptyArray _ => exact ⟨_, _, rfl, by decide, by decide⟩
  | array _ _ => exact ⟨_, _, rfl, by decide, by decide⟩
  | emptyObject _ => exact ⟨_, _, rfl, by decide, by decide⟩
  | object _ => exact ⟨_, _, rfl, by decide, by decide⟩

theorem IsText.skip {s : List UInt8} {tree : Tree} (h : IsText s tree) (t : List UInt8) :
    Json.skip (s ++ t) = s ++ t := by
  obtain ⟨b, rest, rfl, token, _⟩ := h.start
  exact skip_cons token (rest ++ t)

theorem AreItemTexts.start {s : List UInt8} {trees : List Tree} (h : AreItemTexts s trees) :
    ∃ b rest, s = b :: rest ∧ isBlank b = false ∧ b ≠ 0x5D := by
  cases h with
  | last item _ =>
    obtain ⟨b, rest, rfl, token, other⟩ := item.start
    exact ⟨b, _, rfl, token, other⟩
  | more item _ _ _ =>
    obtain ⟨b, rest, rfl, token, other⟩ := item.start
    exact ⟨b, _, rfl, token, other⟩

theorem IsMemberText.start {s : List UInt8} {m : List UInt8 × Tree} (h : IsMemberText s m)
    (t : List UInt8) : ∃ rest, skip (s ++ t) = quote :: rest := by
  cases h with
  | pair before _ _ _ _ _ =>
    rw [List.append_assoc, List.append_assoc, List.append_assoc, skip_append before]
    exact ⟨_, skip_cons (by decide) _⟩

theorem AreMemberTexts.start {s : List UInt8} {ms : List (List UInt8 × Tree)}
    (h : AreMemberTexts s ms) (t : List UInt8) : ∃ rest, skip (s ++ t) = quote :: rest := by
  cases h with
  | last member => exact member.start t
  | more member _ =>
    rw [List.append_assoc]
    exact member.start _

/-! ### What the reader takes in -/

/-- Texts are taken in as a whole if there is fuel enough, and come to what their tokens do. -/
structure Takes (fuel : Nat) : Prop where
  value {u t : List UInt8} {tree : Tree} : IsText u tree → EndsNumber t → 2 * u.length ≤ fuel →
    value fuel (u ++ t) = tree.toNode.map (·, t)
  members {u t : List UInt8} {es : List (String × Node)} {ms : List (List UInt8 × Tree)} :
    AreMemberTexts u ms → 2 * u.length + 1 ≤ fuel →
      members fuel es (u ++ 0x7D :: t) = (memberNodes es ms).map (·, t)
  elements {u t : List UInt8} {trees : List Tree} : AreItemTexts u trees → 2 * u.length + 1 ≤ fuel →
    elements fuel (u ++ 0x5D :: t) = (itemNodes trees).map (·, t)

namespace Takes

variable {fuel : Nat}

theorem array (takes : Takes fuel) {w s t : List UInt8} {trees : List Tree} (blank : Blank w)
    (items : AreItemTexts s trees) (enough : 2 * s.length + 1 ≤ fuel) :
    Json.value (fuel + 1) (0x5B :: (w ++ (s ++ 0x5D :: t))) = (Tree.array trees).toNode.map (·, t) := by
  obtain ⟨b, rest, start, token, other⟩ := items.start
  have opened : skip (w ++ (s ++ 0x5D :: t)) = s ++ 0x5D :: t := by
    rw [skip_append blank, start, List.cons_append, skip_cons token]
  rw [value_array fun tail closed => ?_, opened, takes.elements items enough, Tree.toNode]
  · cases itemNodes trees <;> rfl
  · rw [opened, start] at closed
    exact other (List.cons.inj closed).1

theorem object (takes : Takes fuel) {s t : List UInt8} {ms : List (List UInt8 × Tree)}
    (members : AreMemberTexts s ms) (enough : 2 * s.length + 1 ≤ fuel) :
    Json.value (fuel + 1) (0x7B :: (s ++ 0x7D :: t)) = (Tree.object ms).toNode.map (·, t) := by
  obtain ⟨rest, start⟩ := members.start (0x7D :: t)
  rw [value_object fun tail closed => ?_, members_skip, takes.members members enough, Tree.toNode]
  · cases memberNodes [] ms with
    | error e => rfl
    | ok es =>
      change (do return ((← Node.ofMapping es), t)) = (Node.ofMapping es).map (·, t)
      cases Node.ofMapping es <;> rfl
  · rw [start] at closed
    exact absurd (List.cons.inj closed).1 (by decide)

theorem value_succ (takes : Takes fuel) {u t : List UInt8} {tree : Tree} (h : IsText u tree)
    (ends : EndsNumber t) (enough : 2 * u.length ≤ fuel + 1) :
    Json.value (fuel + 1) (u ++ t) = tree.toNode.map (·, t) := by
  cases h with
  | literal known =>
    rw [value_literal known, literal_append, Tree.toNode]
    rfl
  | number nonempty bytes =>
    obtain ⟨b, rest, rfl⟩ := List.exists_cons_of_ne_nil nonempty
    rw [List.cons_append, value_number (bytes b List.mem_cons_self), ← List.cons_append, Tree.toNode]
    exact number_append bytes ends
  | @string body closed =>
    have read := string_quoted closed t
    rw [quoted_append] at read ⊢
    rw [value_string, read, Tree.toNode]
    cases bodyText body <;> rfl
  | @emptyArray w blank =>
    have closed : skip (w ++ 0x5D :: t) = 0x5D :: t := by
      rw [skip_append blank, skip_cons (by decide)]
    rw [List.cons_append, List.append_assoc, List.singleton_append, value_emptyArray closed,
      Tree.toNode, itemNodes]
    rfl
  | @array w s trees blank items =>
    have text : 0x5B :: (w ++ s ++ [0x5D]) ++ t = 0x5B :: (w ++ (s ++ 0x5D :: t)) := by simp
    rw [text]
    exact takes.array blank items (by simp at enough; omega)
  | @emptyObject w blank =>
    have closed : skip (w ++ 0x7D :: t) = 0x7D :: t := by
      rw [skip_append blank, skip_cons (by decide)]
    rw [List.cons_append, List.append_assoc, List.singleton_append, value_emptyObject closed,
      Tree.toNode, memberNodes]
    rfl
  | @object s ms members =>
    have text : 0x7B :: (s ++ [0x7D]) ++ t = 0x7B :: (s ++ 0x7D :: t) := by simp
    rw [text]
    exact takes.object members (by simp at enough; omega)

theorem member (takes : Takes fuel) {s t : List UInt8} {es : List (String × Node)}
    {m : List UInt8 × Tree} (h : IsMemberText s m) (ends : EndsNumber t)
    (enough : 2 * s.length ≤ fuel) :
    Json.members (fuel + 1) es (s ++ t) =
      bodyText m.1 >>= fun key => m.2.toNode >>= fun n => afterMember fuel (setEntry key n es) t := by
  cases h with
  | @pair w body w₁ w₂ v w₃ tree before closed between behind value after =>
    have read := takes.value value (ends_number_of_blank after ends)
      (by simp [quoted] at enough; omega)
    have text : w ++ quoted body ++ w₁ ++ 0x3A :: (w₂ ++ v ++ w₃) ++ t =
        w ++ (quoted body ++ (w₁ ++ 0x3A :: (w₂ ++ (v ++ (w₃ ++ t))))) := by simp
    have start : skip (w ++ (quoted body ++ (w₁ ++ 0x3A :: (w₂ ++ (v ++ (w₃ ++ t)))))) =
        quoted body ++ (w₁ ++ 0x3A :: (w₂ ++ (v ++ (w₃ ++ t)))) := by
      rw [skip_append before]
      exact skip_cons (by decide) _
    rw [text, members_eq start]
    change string (quoted body ++ _) >>= _ = _
    rw [string_quoted closed]
    dsimp only
    cases bodyText body with
    | error e => rfl
    | ok key =>
      change afterName fuel es key (w₁ ++ 0x3A :: (w₂ ++ (v ++ (w₃ ++ t)))) = _
      rw [afterName_colon between, skip_append behind, value.skip, read]
      cases tree.toNode with
      | error e => rfl
      | ok n => exact afterMember_blank after

theorem members_succ (takes : Takes fuel) {u t : List UInt8} {es : List (String × Node)}
    {ms : List (List UInt8 × Tree)} (h : AreMemberTexts u ms) (enough : 2 * u.length + 1 ≤ fuel + 1) :
    Json.members (fuel + 1) es (u ++ 0x7D :: t) = (memberNodes es ms).map (·, t) := by
  cases h with
  | @last _ m isMember =>
    rw [takes.member isMember (ends_number_cons rfl t) (by omega), memberNodes]
    cases bodyText m.1 with
    | error e => rfl
    | ok key => cases m.2.toNode <;> rfl
  | @more s rest m ms isMember members =>
    rw [List.append_assoc, List.cons_append,
      takes.member isMember (ends_number_cons rfl _) (by simp at enough; omega), memberNodes]
    cases bodyText m.1 with
    | error e => rfl
    | ok key =>
      cases m.2.toNode with
      | error e => rfl
      | ok n => exact takes.members members (by simp at enough; omega)

theorem elements_succ (takes : Takes fuel) {u t : List UInt8} {trees : List Tree}
    (h : AreItemTexts u trees) (enough : 2 * u.length + 1 ≤ fuel + 1) :
    Json.elements (fuel + 1) (u ++ 0x5D :: t) = (itemNodes trees).map (·, t) := by
  cases h with
  | @last s w tree item blank =>
    have ends := ends_number_of_blank blank (ends_number_cons (b := 0x5D) rfl t)
    rw [List.append_assoc, elements_eq, takes.value item ends (by simp at enough; omega), itemNodes]
    cases tree.toNode with
    | error e => rfl
    | ok n => exact afterItem_bracket blank
  | @more s w w' rest tree trees item blank blank' items =>
    have text : s ++ w ++ 0x2C :: (w' ++ rest) ++ 0x5D :: t =
        s ++ (w ++ 0x2C :: (w' ++ (rest ++ 0x5D :: t))) := by simp
    have ends := ends_number_of_blank blank
      (ends_number_cons (b := 0x2C) rfl (w' ++ (rest ++ 0x5D :: t)))
    have read := takes.elements (t := t) items (by simp at enough; omega)
    obtain ⟨b, tail, start, token, _⟩ := items.start
    have next : skip (w' ++ (rest ++ 0x5D :: t)) = rest ++ 0x5D :: t := by
      rw [skip_append blank', start, List.cons_append, skip_cons token]
    rw [text, elements_eq, takes.value item ends (by simp at enough; omega), itemNodes]
    cases tree.toNode with
    | error e => rfl
    | ok n =>
      refine (afterItem_comma blank).trans ?_
      rw [next, read]
      cases itemNodes trees <;> rfl

end Takes

theorem takes (fuel : Nat) : Takes fuel := by
  induction fuel with
  | zero =>
    constructor
    · intro u t tree isText _ enough
      obtain ⟨b, rest, rfl, _⟩ := isText.start
      simp at enough
    · intro u t es ms _ enough
      omega
    · intro u t trees _ enough
      omega
  | succ fuel ih => exact ⟨ih.value_succ, ih.members_succ, ih.elements_succ⟩

theorem ofJson_text {w s w' : List UInt8} {tree : Tree} (before : Blank w) (isText : IsText s tree)
    (after : Blank w') : Node.ofJson (w ++ s ++ w') = tree.toNode := by
  have ends : EndsNumber w' := by
    have ends := ends_number_of_blank after (t := []) fun _ _ same => by cases same
    rwa [List.append_nil] at ends
  have start : skip (w ++ s ++ w') = s ++ w' := by
    rw [List.append_assoc, skip_append before, isText.skip]
  have ended : skip w' = [] := by
    have skipped := skip_append after []
    rwa [List.append_nil] at skipped
  have read := (takes (2 * (w ++ s ++ w').length + 1)).value isText ends (by simp; omega)
  rw [Node.ofJson, start, read]
  cases tree.toNode with
  | error e => rfl
  | ok n =>
    change (if (skip w').isEmpty then Except.ok n else Except.error ReadError.trailingData) = _
    rw [ended]
    rfl

end FilterQuery.Json
