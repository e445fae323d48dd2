import FilterQuery.Proofs.Document.Json.Bodies
import FilterQuery.Proofs.Document.Json.Indexed

/-!
# Decoding strings by index

The body that a string is closed with has a byte after each backslash, and keeps that property behind
each escape and each character that is decoded. So no step of decoding reads beyond the body, nor
writes beyond the buffer, which has room for two characters before each step (`step_follows`), and a
body is decoded as it is without positions (`decode_eq`).
-/

namespace FilterQuery.Json

/-! ### Bodies of strings -/

section Body

variable {b : UInt8} {s t : List UInt8}

theorem IsBody.escaped (closed : IsBody (backslash :: s)) : ∃ l t, s = l :: t ∧ IsBody t := by
  cases closed with
  | byte _ noEscape => exact absurd rfl noEscape
  | escape rest => exact ⟨_, _, rfl, rest⟩

theorem IsBody.tail (closed : IsBody (b :: s)) (noEscape : b ≠ backslash) : IsBody s := by
  cases closed with
  | byte _ _ rest => exact rest
  | escape => exact absurd rfl noEscape

theorem IsBody.behind (closed : IsBody (s ++ t)) (plain : ∀ b ∈ s, b ≠ backslash) : IsBody t := by
  induction s with
  | nil => exact closed
  | cons b s ih =>
    obtain ⟨noEscape, plain⟩ := List.forall_mem_cons.mp plain
    exact ih (closed.tail noEscape) plain

theorem ReadsUnit.plain {a b c d : UInt8} {u : Nat} (isUnit : ReadsUnit a b c d u) :
    ∀ x ∈ [a, b, c, d], x ≠ backslash := by
  have digits {bs : List UInt8} {u : Nat} (number : HexNumber bs u) : ∀ x ∈ bs, x ≠ backslash := by
    intro x member
    have digit := hexNumber?_digits (hexNumber?_eq_some.mpr number) x member
    rintro rfl
    cases digit
  cases isUnit with
  | digits value => exact digits value
  | plus value => exact List.forall_mem_cons.mpr ⟨by decide, digits value⟩
  | minus zero => exact List.forall_mem_cons.mpr ⟨by decide, digits zero⟩

theorem EscapeStands.isBody {ch : Char} (stands : EscapeStands ReadsUnit s ch t)
    (closed : IsBody (backslash :: s)) : IsBody t := by
  obtain ⟨l, rest, same, closed⟩ := closed.escaped
  have unit {a b c d : UInt8} {u : Nat} {t : List UInt8} (isUnit : ReadsUnit a b c d u)
      (closed : IsBody (a :: b :: c :: d :: t)) : IsBody t :=
    IsBody.behind (s := [a, b, c, d]) closed isUnit.plain
  cases stands with
  | letter known =>
    cases same
    exact closed
  | single isUnit =>
    cases same
    exact unit isUnit closed
  | half isUnit =>
    cases same
    exact unit isUnit closed
  | pair _ _ first second =>
    cases same
    obtain ⟨l, rest, same, closed⟩ := (unit first closed).escaped
    cases same
    exact unit second closed

theorem decodeEscape_taken {letter : UInt8} {rest : List UInt8} {ch : Char} {n : Nat}
    (decoded : decodeEscape letter rest = .ok (ch, n)) : n ≤ rest.length := by
  rcases letter_or_unit decoded with ⟨_, rfl⟩ | ⟨rfl, a, b, c, d, tail, u, rfl, value⟩
  · exact Nat.zero_le _
  by_cases half : isSurrogate u = true
  · rw [decodeEscape_half value half] at decoded
    cases both : (nextUnit? tail).bind (pair? u) with
    | none =>
      rw [both] at decoded
      cases decoded
      simp
    | some c =>
      rw [both] at decoded
      cases decoded
      obtain ⟨v, next, _⟩ := Option.bind_eq_some_iff.mp both
      obtain ⟨_, _, _, _, t, rfl, _⟩ := nextUnit?_eq_some.mp next
      simp
  · rw [decodeEscape_unit value (Bool.not_eq_true _ ▸ half)] at decoded
    cases decoded
    simp

theorem decodeEscape_noUnit {rest : List UInt8} (noUnit : nextUnit? (backslash :: 0x75 :: rest) = none) :
    decodeEscape 0x75 rest = .error .badCodePoint := by
  match rest with
  | a :: b :: c :: d :: tail =>
    have noUnit : codeUnit? a b c d = none := noUnit
    have long : simpleEscape? 0x75 = none := rfl
    rw [decodeEscape, long]
    refine (if_pos rfl).trans ?_
    rw [noUnit]
  | [] | [_] | [_, _] | [_, _, _] => rfl

theorem decodeBody_refused {letter : UInt8} {rest : List UInt8} {e : ReadError}
    (refused : decodeEscape letter rest = .error e) :
    decodeBody (backslash :: letter :: rest) = .error e := by
  rw [decodeBody.eq_def]
  dsimp only
  rw [if_pos rfl, refused, error_bind]

end Body

namespace Indexed

/-! ### Accesses -/

section Access

variable {α : Type}

theorem element_eq {xs : List α} {i : Nat} {x : α} (there : xs[i]? = some x) :
    element xs i = .ok x := by
  rw [element, there]

theorem slice_eq {xs : List α} {lo hi : Nat} (order : lo ≤ hi) (inside : hi ≤ xs.length) :
    slice xs lo hi = .ok ((xs.take hi).drop lo) :=
  if_pos ⟨order, inside⟩

theorem slice_rest {xs : List α} {lo : Nat} (inside : lo ≤ xs.length) :
    slice xs lo xs.length = .ok (xs.drop lo) := by
  rw [slice_eq inside (Nat.le_refl _), List.take_length]

theorem slice_prefix (xs ys : List α) : slice (xs ++ ys) 0 xs.length = .ok xs := by
  rw [slice_eq (Nat.zero_le _) (by simp), List.take_left, List.drop_zero]

theorem store_append (xs : List α) (x y : α) (ys : List α) :
    store (xs ++ x :: ys) xs.length y = .ok (xs ++ y :: ys) := by
  rw [store, if_pos (by simp), List.set_append_right _ _ (Nat.le_refl _), Nat.sub_self, List.set_cons_zero]

theorem storeAll_append (xs ys spare : List α) (room : ys.length ≤ spare.length) :
    storeAll (xs ++ spare) xs.length ys = .ok (xs ++ ys ++ spare.drop ys.length) := by
  induction ys generalizing xs spare with
  | nil => simp [storeAll]
  | cons y ys ih =>
    cases spare with
    | nil => simp at room
    | cons x spare =>
      have moved : xs ++ y :: spare = (xs ++ [y]) ++ spare := by simp
      have count : xs.length + 1 = (xs ++ [y]).length := by simp
      rw [storeAll, store_append, ok_bind, moved, count, ih _ _ (Nat.le_of_succ_le_succ room)]
      simp

end Access

/-- The bytes from a position on. -/
structure At (data : List UInt8) (i : Nat) (s : List UInt8) : Prop where
  le : i ≤ data.length
  left : data.drop i = s

namespace At

variable {data s t : List UInt8} {b : UInt8} {i : Nat}

theorem start (data : List UInt8) : At data 0 data := ⟨Nat.zero_le _, List.drop_zero⟩

theorem length (here : At data i s) : i + s.length = data.length := by
  rw [← here.left, List.length_drop]
  have := here.le
  omega

theorem lt (here : At data i (b :: s)) : i < data.length := by
  have := here.length
  rw [List.length_cons] at this
  omega

theorem end_iff (here : At data i s) : data.length ≤ i ↔ s = [] := by
  rw [← List.length_eq_zero_iff]
  have := here.length
  omega

theorem advance (here : At data i (s ++ t)) : At data (i + s.length) t where
  le := by
    have := here.length
    rw [List.length_append] at this
    omega
  left := by
    rw [← List.drop_drop, here.left, List.drop_left]

theorem next (here : At data i (b :: s)) : At data (i + 1) s := here.advance (s := [b])

theorem element (here : At data i (b :: s)) : element data i = .ok b := by
  apply element_eq
  have first : (data.drop i)[0]? = some b := by rw [here.left]; rfl
  rwa [List.getElem?_drop] at first

theorem rest (here : At data i s) : slice data i data.length = .ok s := by
  rw [slice_rest here.le, here.left]

theorem slice (here : At data i (s ++ t)) : slice data i (i + s.length) = .ok s := by
  have inside := here.advance.le
  rw [slice_eq (Nat.le_add_right _ _) inside, List.drop_take, here.left, Nat.add_sub_cancel_left,
    List.take_left]

end At

/-! ### Escapes by index -/

theorem unitAt_eq (s : List UInt8) : unitAt s = .ok (nextUnit? s) := by
  by_cases short : s.length < 6
  · rw [unitAt, if_pos short]
    cases next : nextUnit? s with
    | none => rfl
    | some u =>
      obtain ⟨_, _, _, _, _, rfl, _⟩ := nextUnit?_eq_some.mp next
      simp at short
      omega
  · rw [unitAt, if_neg short]
    match s with
    | x :: y :: a :: b :: c :: d :: t =>
      by_cases isEscape : x = backslash
      · by_cases isUnit : y = 0x75
        · simp [element, slice, nextUnit?, ok_bind, isEscape, isUnit]
          rfl
        · simp [element, nextUnit?, ok_bind, isEscape, isUnit, pure, Except.pure]
      · simp [element, nextUnit?, ok_bind, isEscape, pure, Except.pure]
    | [] | [_] | [_, _] | [_, _, _] | [_, _, _, _] | [_, _, _, _, _] => simp at short

/-- The escape of a code unit, counted with its backslash and letter. Where a second code unit is
looked for, the first has taken six bytes of at least as many. -/
theorem unitEscape_eq (rest : List UInt8) :
    unitEscape (backslash :: 0x75 :: rest) =
      ((decodeEscape 0x75 rest).map fun (ch, n) => (ch, n + 2)).mapError .refused := by
  rw [unitEscape, unitAt_eq, ok_bind]
  cases first : nextUnit? (backslash :: 0x75 :: rest) with
  | none =>
    rw [decodeEscape_noUnit first]
    rfl
  | some u =>
    obtain ⟨a, b, c, d, tail, same, isUnit⟩ := nextUnit?_eq_some.mp first
    cases same
    have value := codeUnit?_eq_some.mpr isUnit
    dsimp only
    by_cases half : isSurrogate u = true
    · have second : slice (backslash :: 0x75 :: a :: b :: c :: d :: tail) 6
          (backslash :: 0x75 :: a :: b :: c :: d :: tail).length = .ok tail := slice_rest (by simp)
      rw [if_pos half, second, ok_bind, unitAt_eq, ok_bind, decodeEscape_half value half]
      cases (nextUnit? tail).bind (pair? u) <;> rfl
    · rw [if_neg half, decodeEscape_unit value (Bool.not_eq_true _ ▸ half)]
      rfl

/-! ### Steps of decoding -/

def encoded (cs : List Char) : List UInt8 := cs.flatMap String.utf8EncodeChar

theorem encoded_concat (cs : List Char) (c : Char) :
    encoded (cs ++ [c]) = encoded cs ++ String.utf8EncodeChar c := by
  simp [encoded]

theorem width_le (c : Char) : (String.utf8EncodeChar c).length ≤ maxWidth := by
  rw [String.length_utf8EncodeChar]
  exact c.utf8Size_le_four

/-- The buffer begins with the encoding of the characters so far; the rest of it is spare. -/
structure Holds (st : Decoding) (cs : List Char) (spare : List UInt8) : Prop where
  buffer : st.buffer = encoded cs ++ spare
  written : st.written = (encoded cs).length

namespace Holds

variable {st : Decoding} {cs : List Char} {spare : List UInt8}

theorem start (body : List UInt8) :
    Holds (.start body) [] (List.replicate (body.length + 2 * maxWidth) 0) :=
  ⟨rfl, rfl⟩

theorem reserve (holds : Holds st cs spare) :
    ∃ st' spare', st.reserve = .ok st' ∧ st'.read = st.read ∧ Holds st' cs spare' ∧
      2 * maxWidth ≤ spare'.length := by
  rw [Decoding.reserve]
  split
  · let room := List.replicate ((st.buffer.length + maxWidth) * 2 - (encoded cs).length) (0 : UInt8)
    refine ⟨⟨st.read, st.written, encoded cs ++ room⟩, room, ?_, rfl, ⟨rfl, holds.written⟩, ?_⟩
    · have kept : slice st.buffer 0 st.written = .ok (encoded cs) := by
        rw [holds.buffer, holds.written, slice_prefix]
      rw [kept]
      rfl
    · rw [List.length_replicate, holds.buffer, List.length_append]
      omega
  · rename_i roomy
    rw [holds.buffer, holds.written, List.length_append] at roomy
    exact ⟨st, spare, rfl, rfl, holds, by omega⟩

/-- The character is written behind the others, and so many bytes are read. -/
def Puts (st : Decoding) (cs : List Char) (ch : Char) (taken : Nat) (x : Except Stop Decoding) : Prop :=
  ∃ st' spare', x = .ok st' ∧ st'.read = st.read + taken ∧ Holds st' (cs ++ [ch]) spare'

theorem putByte (holds : Holds st cs spare) (room : 2 * maxWidth ≤ spare.length) {ch : Char}
    {b : UInt8} (ascii : String.utf8EncodeChar ch = [b]) (taken : Nat) :
    Puts st cs ch taken (st.putByte taken b) := by
  cases spare with
  | nil => simp [maxWidth] at room
  | cons x spare =>
    refine ⟨⟨st.read + taken, st.written + 1, encoded cs ++ b :: spare⟩, spare, ?_, rfl, ?_, ?_⟩
    · have stored : store st.buffer st.written b = .ok (encoded cs ++ b :: spare) := by
        rw [holds.buffer, holds.written, store_append]
      rw [Decoding.putByte, stored]
      rfl
    · rw [encoded_concat, ascii]
      exact List.append_cons _ _ _
    · rw [encoded_concat, ascii, List.length_append, ← holds.written]
      rfl

theorem room_eq (holds : Holds st cs spare) :
    slice st.buffer st.written st.buffer.length = .ok spare := by
  rw [slice_rest (by rw [holds.buffer, holds.written]; simp), holds.buffer, holds.written, List.drop_left]

theorem putChar (holds : Holds st cs spare) (room : 2 * maxWidth ≤ spare.length) (ch : Char)
    (taken : Nat) : Puts st cs ch taken (st.putChar spare ch taken) := by
  have width := width_le ch
  have stored := storeAll_append [] (String.utf8EncodeChar ch) spare (by omega)
  rw [List.nil_append, List.nil_append, List.length_nil] at stored
  have kept : st.buffer.take st.written = encoded cs := by
    rw [holds.buffer, holds.written, List.take_left]
  refine ⟨⟨st.read + taken, st.written + (String.utf8EncodeChar ch).length,
    encoded cs ++ (String.utf8EncodeChar ch ++ spare.drop (String.utf8EncodeChar ch).length)⟩,
    spare.drop (String.utf8EncodeChar ch).length, ?_, rfl, ?_, ?_⟩
  · rw [Decoding.putChar, stored, kept]
    rfl
  · rw [encoded_concat, List.append_assoc]
  · rw [encoded_concat, List.length_append, ← holds.written]

end Holds

/-- A step of decoding does what decoding the bytes that are left starts with. -/
inductive Follows (body : List UInt8) (cs : List Char) (s : List UInt8) : Except Stop Decoding → Prop
  | refused {e : ReadError} (stopped : decodeBody s = .error e) : Follows body cs s (.error (.refused e))
  | took {ch : Char} {t spare : List UInt8} {st : Decoding}
    (decoded : decodeBody s = (decodeBody t).map (ch :: ·)) (holds : Holds st (cs ++ [ch]) spare)
    (left : At body st.read t) (closed : IsBody t) (fewer : t.length < s.length) :
    Follows body cs s (.ok st)

section Step

variable {body s t spare : List UInt8} {st : Decoding} {cs : List Char} {ch : Char} {n : Nat}

theorem Holds.Puts.follows {x : Except Stop Decoding} (puts : Holds.Puts st cs ch n x)
    (here : At body st.read s) (taken : ∃ u, s = u ++ t ∧ u.length = n) (some : 0 < n)
    (decoded : decodeBody s = (decodeBody t).map (ch :: ·)) (closed : IsBody t) :
    Follows body cs s x := by
  obtain ⟨st', spare', rfl, read, holds⟩ := puts
  obtain ⟨u, rfl, rfl⟩ := taken
  refine .took decoded holds (read ▸ here.advance) closed ?_
  rw [List.length_append]
  omega

theorem simpleEscape?_ascii {letter : UInt8} (simple : simpleEscape? letter = some ch) :
    String.utf8EncodeChar ch = [UInt8.ofNat ch.toNat] := by
  unfold simpleEscape? at simple
  split at simple
  all_goals
    cases simple
    try rfl

theorem decodeEscape_simple {letter : UInt8} (simple : simpleEscape? letter = some ch)
    (rest : List UInt8) : decodeEscape letter rest = .ok (ch, 0) := by
  rw [decodeEscape.eq_def, simple]

theorem decodeEscape_unknown {letter : UInt8} (noSimple : simpleEscape? letter = none)
    (noUnit : letter ≠ 0x75) (rest : List UInt8) :
    decodeEscape letter rest = .error (.unknownEscape letter) := by
  rw [decodeEscape.eq_def, noSimple]
  exact if_neg noUnit

/-- A step at a backslash. The byte behind it is there because the body is closed. -/
theorem step_escape (holds : Holds st cs spare) {letter : UInt8} {rest : List UInt8}
    (here : At body st.read (backslash :: letter :: rest)) (closed : IsBody (backslash :: letter :: rest)) :
    Follows body cs (backslash :: letter :: rest) (st.step body) := by
  obtain ⟨st', room, reserved, read, holds, roomy⟩ := holds.reserve
  rw [← read] at here
  rw [Decoding.step, reserved, ok_bind, here.element, ok_bind, if_pos rfl, here.next.element, ok_bind]
  cases simple : simpleEscape? letter with
  | some ch =>
    have decoded := decodeEscape_simple simple rest
    have stands := decodeEscape_stands.mpr ⟨letter, rest, 0, rfl, decoded, rfl⟩
    exact (holds.putByte roomy (simpleEscape?_ascii simple) 2).follows here ⟨[_, _], rfl, rfl⟩
      (by decide) (decodeBody_escape decoded) (stands.isBody closed)
  | none =>
    dsimp only
    by_cases isUnit : letter = 0x75
    · subst isUnit
      rw [if_pos rfl, here.rest, ok_bind, holds.room_eq, ok_bind, unitEscape_eq]
      cases decoded : decodeEscape 0x75 rest with
      | error e => exact .refused (decodeBody_refused decoded)
      | ok escape =>
        obtain ⟨ch, n⟩ := escape
        have stands := decodeEscape_stands.mpr ⟨_, rest, n, rfl, decoded, rfl⟩
        refine (holds.putChar roomy ch (n + 2)).follows here
          ⟨backslash :: 0x75 :: rest.take n, ?_, ?_⟩ (Nat.succ_pos _) (decodeBody_escape decoded)
          (stands.isBody closed)
        · simp
        · simp [decodeEscape_taken decoded]
    · rw [if_neg isUnit]
      exact .refused (decodeBody_refused (decodeEscape_unknown simple isUnit rest))

theorem firstChar_eq (b : UInt8) (rest : List UInt8) :
    ∃ u, b :: rest = u ++ (Utf8.firstPiece b rest).2 ∧
      firstChar (b :: rest) = ((Utf8.firstPiece b rest).1.shown, u.length) ∧ 0 < u.length := by
  rcases Utf8.firstPiece_cases b rest with ⟨ch, t, piece, starts⟩ | ⟨piece, _⟩
  · refine ⟨String.utf8EncodeChar ch, ?_, ?_, ?_⟩
    · rw [piece, starts]
    · have count := congrArg List.length starts
      rw [List.length_cons, List.length_append] at count
      rw [firstChar, piece]
      simp only [Prod.mk.injEq, true_and]
      omega
    · rw [String.length_utf8EncodeChar]
      exact ch.utf8Size_pos
  · refine ⟨[b], ?_, ?_, by simp⟩
    · rw [piece]
      rfl
    · rw [firstChar, piece]
      simp

theorem isBody_behind {b : UInt8} {rest : List UInt8} (noEscape : b ≠ backslash)
    (closed : IsBody (b :: rest)) : IsBody (Utf8.firstPiece b rest).2 := by
  rcases Utf8.firstPiece_cases b rest with ⟨ch, t, piece, starts⟩ | ⟨piece, _⟩
  · rw [piece]
    rw [starts] at closed
    refine closed.behind fun x member => ?_
    rcases Utf8.encodeChar_bytes ch with ⟨_, encoded⟩ | high
    · rw [encoded] at starts member
      obtain ⟨rfl, _⟩ := List.cons.inj starts
      rw [List.mem_singleton.mp member]
      exact noEscape
    · rintro rfl
      exact absurd (high _ member) (by decide)
  · rw [piece]
    exact closed.tail noEscape

theorem step_raw (holds : Holds st cs spare) {b : UInt8} {rest : List UInt8}
    (here : At body st.read (b :: rest)) (noEscape : b ≠ backslash) (closed : IsBody (b :: rest)) :
    Follows body cs (b :: rest) (st.step body) := by
  obtain ⟨st', room, reserved, read, holds, roomy⟩ := holds.reserve
  rw [← read] at here
  rw [Decoding.step, reserved, ok_bind, here.element, ok_bind, if_neg noEscape]
  have decoded := decodeBody_raw noEscape rest
  by_cases control : b < 0x20
  · rw [if_pos control] at decoded ⊢
    exact .refused decoded
  rw [if_neg control] at decoded ⊢
  by_cases ascii : b < 0x80
  · have piece : Utf8.firstPiece b rest = (.char (Char.ofNat b.toNat), rest) := if_pos ascii
    rw [piece] at decoded
    have encoded : String.utf8EncodeChar (Char.ofNat b.toNat) = [b] :=
      (List.append_cancel_right (Utf8.firstPiece_eq_char.mp piece)).symm
    rw [if_pos ascii]
    exact (holds.putByte roomy encoded 1).follows here ⟨[b], rfl, rfl⟩ (by decide) decoded
      (closed.tail noEscape)
  · obtain ⟨u, split, first, some⟩ := firstChar_eq b rest
    rw [if_neg ascii, here.rest, ok_bind, first, holds.room_eq]
    exact (holds.putChar roomy _ _).follows here ⟨u, split, rfl⟩ some decoded
      (isBody_behind noEscape closed)

/-- Where something is left of a closed body, no access of a step is out of range. -/
theorem step_follows (holds : Holds st cs spare) (here : At body st.read s) (closed : IsBody s)
    (more : s ≠ []) : Follows body cs s (st.step body) := by
  obtain ⟨b, rest, rfl⟩ := List.exists_cons_of_ne_nil more
  by_cases isEscape : b = backslash
  · subst isEscape
    obtain ⟨letter, rest, rfl, _⟩ := closed.escaped
    exact step_escape holds here closed
  · exact step_raw holds here isEscape closed

end Step

/-! ### Runs of decoding -/

/-- Decoding by index ends as decoding what is left does, with the characters of that behind those
before. -/
inductive Ends (cs : List Char) : Except ReadError (List Char) → Except Stop Decoding → Prop
  | refused (e : ReadError) : Ends cs (.error e) (.error (.refused e))
  | decoded {cs' : List Char} {st : Decoding} {spare : List UInt8} (holds : Holds st (cs ++ cs') spare) :
    Ends cs (.ok cs') (.ok st)

section Run

variable {body s spare : List UInt8} {st : Decoding} {cs : List Char}

/-- There are as many steps as bytes, and each of them takes one at least. -/
theorem run_ends {steps : Nat} (holds : Holds st cs spare) (here : At body st.read s)
    (closed : IsBody s) (enough : s.length ≤ steps) : Ends cs (decodeBody s) (st.run body steps) := by
  induction steps generalizing st cs s spare with
  | zero =>
    obtain rfl := List.length_eq_zero_iff.mp (Nat.le_zero.mp enough)
    rw [Decoding.run, if_neg (Nat.not_lt.mpr (here.end_iff.mpr rfl)), decodeBody.eq_def]
    exact .decoded (List.append_nil cs ▸ holds)
  | succ steps ih =>
    rw [Decoding.run]
    by_cases ended : s = []
    · subst ended
      rw [if_neg (Nat.not_lt.mpr (here.end_iff.mpr rfl)), decodeBody.eq_def]
      exact .decoded (List.append_nil cs ▸ holds)
    · rw [if_pos (Nat.lt_of_not_le fun past => ended (here.end_iff.mp past))]
      generalize taken : st.step body = x
      have follows := step_follows holds here closed ended
      rw [taken] at follows
      cases follows with
      | refused stopped =>
        rw [stopped]
        exact .refused _
      | @took ch t _ st' decoded holds left closed fewer =>
        rw [decoded, ok_bind]
        have rest := ih holds left closed (by omega)
        generalize st'.run body steps = y at rest
        generalize decodeBody t = z at rest
        cases rest with
        | refused e => exact .refused e
        | decoded holds =>
          rw [List.append_assoc] at holds
          exact .decoded holds

/-- A closed body is decoded by index as it is without. -/
theorem decode_eq (closed : IsBody body) :
    decode body = ((decodeBody body).map encoded).mapError .refused := by
  have ends := run_ends (Holds.start body) (At.start body) closed (Nat.le_refl _)
  rw [decode]
  generalize Decoding.run body body.length (.start body) = x at ends
  generalize decodeBody body = y at ends
  cases ends with
  | refused e => rfl
  | decoded holds =>
    rw [ok_bind, holds.buffer, holds.written, slice_prefix]
    rfl

/-- A backslash at the end of a body would be an access beyond it. -/
example : decode [backslash] = .error .outOfRange := rfl

/-- The states that decoding a body comes to. -/
inductive Decoding.Reached (body : List UInt8) : Decoding → Prop
  | start : Reached body (.start body)
  | step {st st' : Decoding} (before : Reached body st) (more : st.read < body.length)
    (taken : st.step body = .ok st') : Reached body st'

/-- Wherever decoding comes to in a closed body, the rest is closed, too. -/
theorem Decoding.Reached.aligned (reached : Decoding.Reached body st) (closed : IsBody body) :
    ∃ cs spare s, Holds st cs spare ∧ At body st.read s ∧ IsBody s := by
  induction reached with
  | start => exact ⟨[], _, body, Holds.start body, At.start body, closed⟩
  | @step st st' _ more taken ih =>
    obtain ⟨cs, spare, s, holds, here, closed⟩ := ih
    have left : s ≠ [] := fun ended => absurd (here.end_iff.mpr ended) (Nat.not_le.mpr more)
    have follows := step_follows holds here closed left
    rw [taken] at follows
    cases follows with
    | took _ holds left closed _ => exact ⟨_, _, _, holds, left, closed⟩

end Run

theorem textOf_encoded (cs : List Char) : textOf (encoded cs) = .ok (String.ofList cs) := by
  have decoded := Utf8.decode?_encode (String.ofList cs)
  rw [Utf8.encode_eq_flatMap, String.toList_ofList] at decoded
  rw [textOf, encoded, decoded]

end Indexed

end FilterQuery.Json
