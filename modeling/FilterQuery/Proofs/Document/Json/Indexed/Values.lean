import FilterQuery.Proofs.Document.Json.Indexed.Strings
import FilterQuery.Proofs.Value.Entries

/-!
# Documents are read in range

Reading a document by index does what reading it without positions does (`document_eq`), so that none
of its accesses is out of range and its steps are enough. Each part of the reader follows its
counterpart from every position (`Agrees`).
-/

namespace FilterQuery.Json.Indexed

variable {data : List UInt8}

/-! ### Tokens -/

section Tokens

variable {s : List UInt8} {i : Nat}

theorem passOver_eq (test : UInt8 → Bool) (here : At data i s) :
    passOver data test i = .ok (i + (s.takeWhile test).length) := by
  induction s generalizing i with
  | nil =>
    rw [passOver, if_neg (Nat.not_lt.mpr (here.end_iff.mpr rfl))]
    rfl
  | cons b s ih =>
    rw [passOver, if_pos here.lt, here.element, ok_bind]
    by_cases passes : test b = true
    · rw [if_pos passes, ih here.next, List.takeWhile_cons_of_pos passes, List.length_cons]
      congr 1
      omega
    · rw [if_neg passes, List.takeWhile_cons_of_neg passes]
      rfl

theorem at_dropWhile (test : UInt8 → Bool) (here : At data i s) :
    At data (i + (s.takeWhile test).length) (s.dropWhile test) :=
  (List.takeWhile_append_dropWhile (p := test) (l := s) ▸ here).advance

theorem skipBlanks_eq (here : At data i s) :
    ∃ j, skipBlanks data i = .ok j ∧ At data j (skip s) :=
  ⟨_, passOver_eq isBlank here, at_dropWhile isBlank here⟩

theorem length_skip_le (s : List UInt8) : (skip s).length ≤ s.length :=
  (List.dropWhile_suffix isBlank).length_le

theorem isAt_eq (here : At data i s) (b : UInt8) : isAt data i b = .ok (s.head? == some b) := by
  cases s with
  | nil =>
    rw [isAt, if_neg (Nat.not_lt.mpr (here.end_iff.mpr rfl))]
    rfl
  | cons c s =>
    rw [isAt, if_pos here.lt, here.element]
    rfl

theorem closingQuote_past {i : Nat} (past : data.length ≤ i) : closingQuote data i = .ok none := by
  rw [closingQuote, if_neg (Nat.not_lt.mpr past)]
  rfl

theorem closingQuote_eq (here : At data i s) :
    closingQuote data i = .ok ((splitString s).map fun parts => i + parts.1.length) := by
  fun_induction splitString s generalizing i with
  | case1 => exact closingQuote_past (here.end_iff.mpr rfl)
  | case2 rest =>
    rw [closingQuote, if_pos here.lt, here.element, ok_bind, if_neg (by decide), if_pos rfl]
    rfl
  | case3 =>
    rw [closingQuote, if_pos here.lt, here.element, ok_bind, if_pos rfl]
    have count := here.length
    rw [List.length_singleton] at count
    exact closingQuote_past (by omega)
  | case4 _ c rest ih =>
    rw [closingQuote, if_pos here.lt, here.element, ok_bind, if_pos rfl, ih here.next.next,
      Option.map_map]
    congr 2
    funext parts
    simp only [Function.comp_apply, List.length_cons]
    omega
  | case5 b rest noQuote noEscape ih =>
    rw [closingQuote, if_pos here.lt, here.element, ok_bind, if_neg noEscape, if_neg noQuote,
      ih here.next, Option.map_map]
    congr 2
    funext parts
    simp only [Function.comp_apply, List.length_cons]
    omega

end Tokens

/-- The key of a member, up to behind its colon. -/
def memberName (s : List UInt8) : Except ReadError (String × List UInt8) :=
  match skip s with
  | [] => .error .unexpectedEnd
  | b :: rest => do
    let (key, s) ← string (b :: rest)
    match skip s with
    | [] => .error .noColon
    | c :: s => if c = 0x3A then .ok (key, s) else .error .noColon

/-- The comma or closing byte behind a member or an item, and whether it is the latter. -/
def separator (close : UInt8) (s : List UInt8) : Except ReadError (Bool × List UInt8) :=
  match skip s with
  | [] => .error .unexpectedEnd
  | b :: s =>
    if b = close then .ok (true, s) else if b = 0x2C then .ok (false, s) else .error .noComma

theorem afterMember_eq (fuel : Nat) (es : List (String × Node)) (s : List UInt8) :
    afterMember fuel es s = separator 0x7D s >>= fun (closed, s) =>
      if closed then .ok (es, s) else members fuel es s := by
  rw [afterMember, separator]
  cases skip s with
  | nil => rfl
  | cons b t =>
    by_cases closed : b = 0x7D
    · subst closed
      rfl
    by_cases comma : b = 0x2C
    · subst comma
      rfl
    · dsimp only
      rw [if_neg closed, if_neg comma]
      split
      · rename_i empty
        cases empty
      · rename_i same
        exact absurd (List.cons.inj same).1 closed
      · rename_i same
        exact absurd (List.cons.inj same).1 comma
      · rfl

theorem afterItem_eq (fuel : Nat) (n : Node) (s : List UInt8) :
    afterItem fuel n s = separator 0x5D s >>= fun (closed, s) =>
      if closed then .ok ([n], s)
      else elements fuel (skip s) >>= fun (ns, s) => .ok (n :: ns, s) := by
  rw [afterItem, separator]
  cases skip s with
  | nil => rfl
  | cons b t =>
    by_cases closed : b = 0x5D
    · subst closed
      rfl
    by_cases comma : b = 0x2C
    · subst comma
      rfl
    · dsimp only
      rw [if_neg closed, if_neg comma]
      split
      · rename_i empty
        cases empty
      · rename_i same
        exact absurd (List.cons.inj same).1 closed
      · rename_i same
        exact absurd (List.cons.inj same).1 comma
      · rfl

theorem members_succ_eq (fuel : Nat) (es : List (String × Node)) (s : List UInt8) :
    members (fuel + 1) es s =
      memberName s >>= fun (key, s) => value fuel (skip s) >>= fun (n, s) =>
        separator 0x7D s >>= fun (closed, s) =>
          if closed then .ok (setEntry key n es, s) else members fuel (setEntry key n es) s := by
  rw [members.eq_def, memberName]
  dsimp only
  cases skip s with
  | nil => rfl
  | cons b rest =>
    dsimp only
    cases string (b :: rest) with
    | error e => rfl
    | ok name =>
      obtain ⟨key, s⟩ := name
      change afterName fuel es key s = _
      simp only [ok_bind, ← afterMember_eq]
      rw [afterName]
      cases skip s with
      | nil => rfl
      | cons c t =>
        by_cases colon : c = 0x3A
        · subst colon
          rfl
        · dsimp only
          rw [if_neg colon]
          split
          · rename_i same
            exact absurd (List.cons.inj same).1 colon
          · rfl

theorem elements_succ_eq (fuel : Nat) (s : List UInt8) :
    elements (fuel + 1) s =
      value fuel s >>= fun (n, s) => separator 0x5D s >>= fun (closed, s) =>
        if closed then .ok ([n], s)
        else elements fuel (skip s) >>= fun (ns, s) => .ok (n :: ns, s) := by
  simp only [elements_eq, afterItem_eq]

/-- Reading by index follows reading what is left, which is some bytes less afterwards. -/
inductive Agrees {α : Type} (data s : List UInt8) :
    Except Stop (α × Nat) → Except ReadError (α × List UInt8) → Prop
  | refused (e : ReadError) : Agrees data s (.error (.refused e)) (.error e)
  | read {a : α} {j : Nat} {t : List UInt8} (left : At data j t) (fewer : t.length < s.length) :
    Agrees data s (.ok (a, j)) (.ok (a, t))

section Agrees

variable {α β : Type} {s : List UInt8} {i : Nat}

theorem Agrees.bind {s' : List UInt8} {x : Except Stop (α × Nat)} {y : Except ReadError (α × List UInt8)}
    {f : α × Nat → Except Stop (β × Nat)} {g : α × List UInt8 → Except ReadError (β × List UInt8)}
    (first : Agrees data s x y)
    (next : ∀ a j t, At data j t → t.length < s.length → Agrees data s' (f (a, j)) (g (a, t))) :
    Agrees data s' (x >>= f) (y >>= g) := by
  cases first with
  | refused e => exact .refused e
  | read left fewer => exact next _ _ _ left fewer

theorem Agrees.mono {s' : List UInt8} {x : Except Stop (α × Nat)} {y : Except ReadError (α × List UInt8)}
    (agrees : Agrees data s x y) (le : s.length ≤ s'.length) : Agrees data s' x y := by
  cases agrees with
  | refused e => exact .refused e
  | read left fewer => exact .read left (Nat.lt_of_lt_of_le fewer le)

theorem stringAt_agrees {b : UInt8} {rest : List UInt8} (here : At data i (b :: rest)) :
    Agrees data (b :: rest) (stringAt data i) (string (b :: rest)) := by
  rw [stringAt, here.element, ok_bind, string.eq_def]
  dsimp only
  by_cases opened : b = quote
  · rw [if_neg (not_not.mpr opened), if_pos opened, closingQuote_eq here.next, ok_bind]
    cases split : splitString rest with
    | none => exact .refused _
    | some parts =>
      obtain ⟨body, tail⟩ := parts
      obtain ⟨rfl, closed⟩ := splitString_eq_some.mp split
      dsimp only [Option.map_some]
      rw [here.next.slice, ok_bind, decode_eq closed]
      cases decodeBody body with
      | error e => exact .refused e
      | ok cs =>
        change Agrees data _ (textOf (encoded cs) >>= fun text => .ok (text, _)) (.ok (String.ofList cs, tail))
        rw [textOf_encoded, ok_bind]
        exact .read here.next.advance.next (by simp; omega)
  · rw [if_pos opened, if_neg opened]
    exact .refused _

theorem numberAt_agrees (here : At data i s) : Agrees data s (numberAt data i) (number s) := by
  have digits : slice data i (i + (s.takeWhile isNumberByte).length) =
      .ok (s.takeWhile isNumberByte) :=
    (List.takeWhile_append_dropWhile (p := isNumberByte) (l := s) ▸ here).slice
  rw [numberAt, passOver_eq isNumberByte here, ok_bind, digits, ok_bind, number]
  dsimp only
  cases read : Literal.read .double ((s.takeWhile isNumberByte).map fun b => Char.ofNat b.toNat) with
  | error e => exact .refused _
  | ok x =>
    refine .read (at_dropWhile isNumberByte here) ?_
    -- without a digit there is no number
    have some : s.takeWhile isNumberByte ≠ [] := by
      intro empty
      rw [empty] at read
      cases read
    have count := congrArg List.length (List.takeWhile_append_dropWhile (p := isNumberByte) (l := s))
    rw [List.length_append] at count
    have := List.length_pos_iff.mpr some
    omega

theorem literalAt_agrees {word : String} (some : 0 < (Utf8.encode word).length) (v : Value)
    (here : At data i s) : Agrees data s (literalAt data word v i) (literal word v s) := by
  rw [literalAt, literal]
  have count := here.length
  have refused : slice data i (min data.length (i + (Utf8.encode word).length)) =
      .ok (s.take (Utf8.encode word).length) := by
    rw [slice_eq (by have := here.le; omega) (Nat.min_le_left _ _), List.drop_take, here.left]
    congr 1
    rw [List.take_eq_take_iff]
    omega
  by_cases short : data.length < i + (Utf8.encode word).length
  · have other : s.take (Utf8.encode word).length ≠ Utf8.encode word := by
      intro same
      have := congrArg List.length same
      rw [List.length_take] at this
      omega
    rw [if_pos short, if_neg other, refused]
    exact .refused _
  · have there : slice data i (i + (Utf8.encode word).length) = .ok (s.take (Utf8.encode word).length) := by
      rw [Nat.min_eq_right (Nat.not_lt.mp short)] at refused
      exact refused
    rw [if_neg short, there, ok_bind]
    by_cases same : s.take (Utf8.encode word).length = Utf8.encode word
    · rw [if_neg (not_not.mpr same), if_pos same]
      have whole : s = Utf8.encode word ++ s.drop (Utf8.encode word).length := by
        nth_rewrite 1 [← List.take_append_drop (Utf8.encode word).length s, same]
        rfl
      rw [whole] at here
      refine .read here.advance ?_
      rw [List.length_drop]
      omega
    · rw [if_pos same, if_neg same, refused]
      exact .refused _

/-! ### Between values -/

theorem nameAt_agrees (here : At data i s) : Agrees data s (nameAt data i) (memberName s) := by
  obtain ⟨j, skipped, here⟩ := skipBlanks_eq here
  have bound := length_skip_le s
  rw [nameAt, skipped, ok_bind, memberName]
  cases start : skip s with
  | nil =>
    rw [start] at here
    rw [if_pos (here.end_iff.mpr rfl)]
    exact .refused _
  | cons b rest =>
    rw [start] at here bound
    rw [if_neg (Nat.not_le.mpr here.lt)]
    refine (stringAt_agrees here).bind fun key k t left fewer => ?_
    obtain ⟨l, skipped, left⟩ := skipBlanks_eq left
    have bound' := length_skip_le t
    dsimp only
    rw [skipped, ok_bind, isAt_eq left, ok_bind]
    cases next : skip t with
    | nil => exact .refused _
    | cons c t' =>
      rw [next] at left bound'
      rw [List.length_cons] at bound'
      dsimp only
      by_cases colon : c = 0x3A
      · rw [if_pos (by simpa using colon), if_pos colon]
        exact .read left.next (by omega)
      · rw [if_neg (by simpa using colon), if_neg colon]
        exact .refused _

theorem separatorAt_agrees (close : UInt8) (here : At data i s) :
    Agrees data s (separatorAt data close i) (separator close s) := by
  obtain ⟨j, skipped, here⟩ := skipBlanks_eq here
  have bound := length_skip_le s
  rw [separatorAt, skipped, ok_bind, separator]
  cases start : skip s with
  | nil =>
    rw [start] at here
    rw [if_pos (here.end_iff.mpr rfl)]
    exact .refused _
  | cons b t =>
    rw [start] at here bound
    rw [if_neg (Nat.not_le.mpr here.lt), here.element, ok_bind, ok_bind]
    dsimp only
    by_cases closed : b = close
    · rw [if_pos closed, if_pos closed]
      exact .read here.next bound
    rw [if_neg closed, if_neg closed]
    by_cases comma : b = 0x2C
    · rw [if_pos comma, if_neg (not_not.mpr comma)]
      exact .read here.next bound
    · rw [if_neg comma, if_pos comma]
      exact .refused _

end Agrees

/-! ### Objects -/

/-- Each key is given once, and its place is that of its entry. -/
structure Entries.Placed (es : Entries) : Prop where
  distinct : (es.items.map Prod.fst).Nodup
  place (key : String) (i : Nat) :
    es.places.lookup key = some i ↔ (es.items.map Prod.fst)[i]? = some key

theorem Entries.placed_empty : Entries.Placed {} :=
  ⟨List.nodup_nil, fun key i => by simp⟩

section Entries

variable {key : String} {n : Node}

theorem setEntry_new {es : List (String × Node)} (new : key ∉ es.map Prod.fst) :
    setEntry key n es = es ++ [(key, n)] := by
  induction es with
  | nil => rfl
  | cons e es ih =>
    rw [List.map_cons, List.mem_cons, not_or] at new
    rw [setEntry, if_neg fun same => new.1 same.symm, ih new.2]
    rfl

theorem setEntry_at {es : List (String × Node)} {i : Nat} (distinct : (es.map Prod.fst).Nodup)
    (there : (es.map Prod.fst)[i]? = some key) : setEntry key n es = es.set i (key, n) := by
  induction es generalizing i with
  | nil => simp at there
  | cons e es ih =>
    rw [List.map_cons, List.nodup_cons] at distinct
    rw [setEntry]
    cases i with
    | zero =>
      have same : e.1 = key := by simpa using there
      rw [if_pos same, List.set_cons_zero, same]
    | succ i =>
      have there : (es.map Prod.fst)[i]? = some key := by simpa using there
      have other : e.1 ≠ key := by
        rintro rfl
        exact distinct.1 (List.mem_of_getElem? there)
      rw [if_neg other, List.set_cons_succ, ih distinct.2 there]

theorem getElem?_concat_eq_some {α : Type} {xs : List α} {x y : α} {i : Nat} :
    (xs ++ [x])[i]? = some y ↔ xs[i]? = some y ∨ i = xs.length ∧ x = y := by
  grind

theorem Entries.Placed.set_eq {es : Entries} (placed : es.Placed) (key : String) (n : Node) :
    ∃ es', es.set key n = .ok es' ∧ es'.items = setEntry key n es.items ∧ es'.Placed := by
  rw [Entries.set]
  cases found : es.places.lookup key with
  | some i =>
    have there := (placed.place key i).mp found
    obtain ⟨e, here, same⟩ := Option.map_eq_some_iff.mp (List.getElem?_map .. ▸ there)
    obtain ⟨k, m⟩ := e
    change k = key at same
    subst same
    have inside := (List.getElem?_eq_some_iff.mp here).1
    have stored : store es.items i (k, n) = .ok (es.items.set i (k, n)) := if_pos inside
    have keys : (es.items.set i (k, n)).map Prod.fst = es.items.map Prod.fst := by
      rw [List.map_set]
      obtain ⟨bound, same⟩ := List.getElem?_eq_some_iff.mp there
      exact same ▸ List.set_getElem_self bound
    dsimp only
    rw [element_eq here, ok_bind, stored]
    refine ⟨_, rfl, (setEntry_at placed.distinct there).symm, ?_, ?_⟩
    · exact keys ▸ placed.distinct
    · exact keys ▸ placed.place
  | none =>
    have new : key ∉ es.items.map Prod.fst := by
      intro member
      obtain ⟨i, there⟩ := List.mem_iff_getElem?.mp member
      rw [(placed.place key i).mpr there] at found
      cases found
    refine ⟨_, rfl, (setEntry_new new).symm, ?_, ?_⟩
    · rw [List.map_append]
      refine List.nodup_append.mpr ⟨placed.distinct, by simp, fun k member k' last same => ?_⟩
      rw [List.map_singleton, List.mem_singleton, ← same] at last
      subst last
      exact new member
    · intro k i
      rw [List.map_append, List.map_singleton, List.lookup_cons, getElem?_concat_eq_some,
        List.length_map]
      by_cases same : k = key
      · subst same
        have other : (es.items.map Prod.fst)[i]? ≠ some k := fun there =>
          new (List.mem_of_getElem? there)
        simp only [other, beq_self_eq_true, Option.some.injEq, false_or, and_true]
        exact eq_comm
      · simp only [beq_false_of_ne same, placed.place k i, Ne.symm same, and_false, or_false]

end Entries

theorem nodeOf_eq (es : List (String × Node)) : nodeOf es = (Node.ofMapping es).mapError .refused := by
  match es with
  | [] => rfl
  | [(key, n)] =>
    rw [nodeOf, if_pos (by simp), element_eq (x := (key, n)) (by simp), ok_bind, Node.ofMapping]
    dsimp only
    split
    · cases Embedded.date? n <;> rfl
    · split <;> rfl
  | [e, f] =>
    rw [nodeOf, if_neg (by simp), if_pos (by simp), Node.ofMapping]
    cases [e, f].lookup Embedded.regexKey with
    | none => rfl
    | some source => cases [e, f].lookup Embedded.flagsKey <;> rfl
  | _ :: _ :: _ :: _ =>
    rw [nodeOf, if_neg (by simp), if_neg (by simp)]
    rfl

/-! ### Values -/

/-- With a number of steps, values, members and items are read by index as without, from wherever the
steps are enough for the bytes that are left. -/
structure InStep (data : List UInt8) (steps : Nat) : Prop where
  value {i : Nat} {s : List UInt8} (here : At data i s) (enough : 2 * s.length + 1 ≤ steps) :
    Agrees data s (valueAt data steps i) (Json.value steps s)
  members {i : Nat} {s : List UInt8} {es : Entries} (placed : es.Placed) (here : At data i s)
    (enough : 2 * s.length + 1 ≤ steps) :
    Agrees data s ((membersAt data steps es i).map fun (es, j) => (es.items, j))
      (Json.members steps es.items s)
  elements {i : Nat} {s : List UInt8} (here : At data i s) (enough : 2 * s.length + 2 ≤ steps) :
    Agrees data s (elementsAt data steps i) (Json.elements steps s)

namespace InStep

variable {steps i : Nat} {s : List UInt8}

theorem object (inStep : InStep data steps) {rest : List UInt8} (here : At data i (0x7B :: rest))
    (enough : 2 * rest.length + 1 ≤ steps) :
    Agrees data (0x7B :: rest)
      (do
        let i ← skipBlanks data (i + 1)
        if ← isAt data i 0x7D then return (.mapping [], i + 1)
        else
          let (es, i) ← membersAt data steps {} i
          return (← nodeOf es.items, i))
      (Json.value (steps + 1) (0x7B :: rest)) := by
  obtain ⟨j, skipped, inside⟩ := skipBlanks_eq here.next
  have bound := length_skip_le rest
  rw [skipped, ok_bind, isAt_eq inside, ok_bind]
  by_cases closed : (skip rest).head? = some 0x7D
  · obtain ⟨t, start⟩ := List.head?_eq_some_iff.mp closed
    rw [start] at inside bound
    rw [value_emptyObject start, start]
    exact .read inside.next (by simp at bound ⊢; omega)
  · have opened : ∀ t, skip rest ≠ 0x7D :: t := fun t start => closed (by rw [start]; rfl)
    rw [value_object opened, if_neg (by simpa using closed)]
    -- of the entries only the items count here
    have viewed (x : Except Stop (Entries × Nat)) :
        (do
          let (es, i) ← x
          return (← nodeOf es.items, i)) =
          (x.map fun (es, i) => (es.items, i)) >>= fun (es, i) => nodeOf es >>= fun n => .ok (n, i) := by
      cases x <;> rfl
    rw [viewed]
    refine (inStep.members Entries.placed_empty inside (by omega)).bind fun es k t left fewer => ?_
    dsimp only
    rw [nodeOf_eq]
    cases Node.ofMapping es with
    | error e => exact .refused e
    | ok n => exact .read left (by rw [List.length_cons]; omega)

theorem array (inStep : InStep data steps) {rest : List UInt8} (here : At data i (0x5B :: rest))
    (enough : 2 * rest.length + 2 ≤ steps) :
    Agrees data (0x5B :: rest)
      (do
        let i ← skipBlanks data (i + 1)
        if ← isAt data i 0x5D then return (.sequence [], i + 1)
        else
          let (items, i) ← elementsAt data steps i
          return (.sequence items, i))
      (Json.value (steps + 1) (0x5B :: rest)) := by
  obtain ⟨j, skipped, inside⟩ := skipBlanks_eq here.next
  have bound := length_skip_le rest
  rw [skipped, ok_bind, isAt_eq inside, ok_bind]
  by_cases closed : (skip rest).head? = some 0x5D
  · obtain ⟨t, start⟩ := List.head?_eq_some_iff.mp closed
    rw [start] at inside bound
    rw [value_emptyArray start, start]
    exact .read inside.next (by simp at bound ⊢; omega)
  · have opened : ∀ t, skip rest ≠ 0x5D :: t := fun t start => closed (by rw [start]; rfl)
    rw [value_array opened, if_neg (by simpa using closed)]
    exact (inStep.elements inside (by omega)).bind fun items k t left fewer =>
      .read left (by rw [List.length_cons]; omega)

theorem value_succ (inStep : InStep data steps) (here : At data i s)
    (enough : 2 * s.length + 1 ≤ steps + 1) :
    Agrees data s (valueAt data (steps + 1) i) (Json.value (steps + 1) s) := by
  cases s with
  | nil =>
    rw [valueAt, if_pos (here.end_iff.mpr rfl)]
    exact .refused _
  | cons b rest =>
    rw [List.length_cons] at enough
    rw [valueAt, if_neg (Nat.not_le.mpr here.lt), here.element, ok_bind]
    split
    · exact inStep.object here (by omega)
    · exact inStep.array here (by omega)
    · exact (stringAt_agrees here).bind fun text k t left fewer => .read left fewer
    · exact literalAt_agrees (by decide) _ here
    · exact literalAt_agrees (by decide) _ here
    · exact literalAt_agrees (by decide) _ here
    · rename_i noObject noArray noString noTrue noFalse noNull
      have other : Json.value (steps + 1) (b :: rest) = number (b :: rest) := by
        rw [Json.value.eq_def]
        dsimp only
        split <;> first | rfl | contradiction
      rw [other]
      exact numberAt_agrees here

theorem members_succ (inStep : InStep data steps) {es : Entries} (placed : es.Placed)
    (here : At data i s) (enough : 2 * s.length + 1 ≤ steps + 1) :
    Agrees data s ((membersAt data (steps + 1) es i).map fun (es, j) => (es.items, j))
      (Json.members (steps + 1) es.items s) := by
  rw [membersAt, members_succ_eq, map_bind_eq]
  refine (nameAt_agrees here).bind fun key k t left fewer => ?_
  obtain ⟨l, skipped, left⟩ := skipBlanks_eq left
  have bound := length_skip_le t
  dsimp only
  rw [skipped, ok_bind, map_bind_eq]
  refine (inStep.value left (by omega)).bind fun n m u left fewer' => ?_
  obtain ⟨es', stored, items, placed⟩ := placed.set_eq key n
  dsimp only
  rw [stored, ok_bind, map_bind_eq, ← items]
  refine (separatorAt_agrees _ left).bind fun closed m' v left fewer'' => ?_
  cases closed with
  | true => exact .read left (by dsimp only; omega)
  | false => exact (inStep.members placed left (by omega)).mono (by omega)

theorem elements_succ (inStep : InStep data steps) (here : At data i s)
    (enough : 2 * s.length + 2 ≤ steps + 1) :
    Agrees data s (elementsAt data (steps + 1) i) (Json.elements (steps + 1) s) := by
  rw [elementsAt, elements_succ_eq]
  refine (inStep.value here (by omega)).bind fun n k t left fewer => ?_
  refine (separatorAt_agrees _ left).bind fun closed m u left fewer' => ?_
  cases closed with
  | true => exact .read left (by omega)
  | false =>
    obtain ⟨l, skipped, left⟩ := skipBlanks_eq left
    have bound := length_skip_le u
    dsimp only
    rw [if_neg (by decide), skipped, ok_bind, if_neg (by decide)]
    exact (inStep.elements left (by omega)).bind fun ns m' v left fewer'' =>
      .read left (by dsimp only; omega)

end InStep

theorem inStep (data : List UInt8) (steps : Nat) : InStep data steps := by
  induction steps with
  | zero => exact ⟨fun _ enough => by omega, fun _ _ enough => by omega, fun _ enough => by omega⟩
  | succ steps ih => exact ⟨ih.value_succ, ih.members_succ, ih.elements_succ⟩

/-! ### Documents -/

/-- A document is read by index as it is without. -/
theorem document_eq (data : List UInt8) : document data = (Node.ofJson data).mapError .refused := by
  obtain ⟨i, skipped, here⟩ := skipBlanks_eq (At.start data)
  have bound := length_skip_le data
  rw [document, skipped, ok_bind, Node.ofJson]
  have read := (inStep data (2 * data.length + 1)).value here (by omega)
  generalize valueAt data (2 * data.length + 1) i = x at read
  generalize Json.value (2 * data.length + 1) (skip data) = y at read
  cases read with
  | refused e => rfl
  | @read n j t left fewer =>
    obtain ⟨k, skipped, left⟩ := skipBlanks_eq left
    rw [ok_bind, ok_bind]
    dsimp only
    rw [skipped, ok_bind]
    by_cases ended : skip t = []
    · have last : k = data.length := Nat.le_antisymm left.le (left.end_iff.mpr ended)
      rw [if_neg (not_not.mpr last), ended]
      rfl
    · have more : k ≠ data.length := fun last => ended (left.end_iff.mp (Nat.le_of_eq last.symm))
      rw [if_pos more, if_neg (by simpa using ended)]
      rfl

theorem document_ne_outOfRange (data : List UInt8) : document data ≠ .error .outOfRange := by
  rw [document_eq]
  intro failed
  obtain ⟨e, -, other⟩ := mapError_eq_error.mp failed
  cases other

theorem isBody_of_closingQuote {i j : Nat} (closed : closingQuote data i = .ok (some j)) :
    ∃ body, slice data i j = .ok body ∧ IsBody body := by
  rcases Nat.le_total data.length i with past | inside
  · rw [closingQuote_past past] at closed
    cases closed
  · have here : At data i (data.drop i) := ⟨inside, rfl⟩
    rw [closingQuote_eq here, Except.ok.injEq] at closed
    obtain ⟨⟨body, tail⟩, split, rfl⟩ := Option.map_eq_some_iff.mp closed
    obtain ⟨left, isBody⟩ := splitString_eq_some.mp split
    rw [left] at here
    exact ⟨body, here.slice, isBody⟩

/-- Whatever the bytes are, no access is out of range: reading by index comes to its end, with the
result of reading without. In particular decoding a string that is closed by a quote finds a byte
behind every backslash that it comes to, and may cut off a first code unit to look for a second. -/
theorem document_in_range (data : List UInt8) :
    document data ≠ .error .outOfRange ∧
      document data = (Node.ofJson data).mapError .refused ∧
      ∀ i j, closingQuote data i = .ok (some j) →
        ∃ body, slice data i j = .ok body ∧
          decode body = ((decodeBody body).map encoded).mapError .refused ∧
          ∀ st, Decoding.Reached body st → body[st.read]? = some backslash →
            (∃ letter, element body (st.read + 1) = .ok letter) ∧
              ∃ s, slice body st.read body.length = .ok s ∧
                ∀ u, unitAt s = .ok (some u) → ∃ next, slice s 6 s.length = .ok next := by
  refine ⟨document_ne_outOfRange data, document_eq data, fun i j closed => ?_⟩
  obtain ⟨body, cut, isBody⟩ := isBody_of_closingQuote closed
  refine ⟨body, cut, decode_eq isBody, fun st reached isEscape => ?_⟩
  obtain ⟨_, _, s, _, here, rest⟩ := reached.aligned isBody
  cases s with
  | nil =>
    have past := List.getElem?_eq_none (here.end_iff.mpr rfl)
    rw [past] at isEscape
    cases isEscape
  | cons b s =>
    have first := here.element
    rw [element_eq isEscape, Except.ok.injEq] at first
    subst first
    obtain ⟨letter, t, rfl, _⟩ := rest.escaped
    refine ⟨⟨letter, here.next.element⟩, _, here.rest, fun u isUnit => ?_⟩
    rw [unitAt_eq, Except.ok.injEq] at isUnit
    obtain ⟨a, b, c, d, rest, same, _⟩ := nextUnit?_eq_some.mp isUnit
    rw [same]
    exact ⟨rest, slice_rest (by simp)⟩

/-- The text of two backslashes, of which the second does not escape the quote. -/
theorem document_in_range_backslashes :
    closingQuote [quote, backslash, backslash, quote] 1 = .ok (some 3) ∧
      ∃ body, slice [quote, backslash, backslash, quote] 1 3 = .ok body ∧
        decode body = ((decodeBody body).map encoded).mapError .refused := by
  have closed : closingQuote [quote, backslash, backslash, quote] 1 = .ok (some 3) := by
    have here : At [quote, backslash, backslash, quote] 1 [backslash, backslash, quote] := ⟨by simp, rfl⟩
    rw [closingQuote_eq here]
    rfl
  obtain ⟨body, cut, decoded, _⟩ := (document_in_range _).2.2 1 3 closed
  exact ⟨closed, body, cut, decoded⟩

end FilterQuery.Json.Indexed
