import FilterQuery.Proofs.Document.Json.Tree

/-!
# The reader of JSON documents

The reader accepts exactly the documents of the grammar and gives the nodes that they denote
(`ofJson_eq_ok_iff_isDocument`). One direction is an induction on the fuel: what a step consumes is a
text of the grammar. The other goes through the tokens of a document: the reader takes them in whatever
they come to, and those of a document come to the node that it denotes.
-/

namespace FilterQuery.Json

/-! ### Tokens -/

theorem string_eq_ok {s t : List UInt8} {text : String} (h : string s = .ok (text, t)) :
    ∃ u, s = u ++ t ∧ IsString u text := by
  unfold string at h
  split at h
  · split at h
    · rename_i isQuote
      subst isQuote
      split at h
      · cases h
      · rename_i body tail split
        obtain ⟨rfl, closed⟩ := splitString_eq_some.mp split
        obtain ⟨cs, decoded, same⟩ := bind_eq_ok.mp h
        cases same
        exact ⟨quote :: (body ++ [quote]), by simp, .quoted closed decoded⟩
    · cases h
  · cases h

theorem number_eq_ok {s t : List UInt8} {n : Node} (h : number s = .ok (n, t)) :
    ∃ u x, s = u ++ t ∧ IsNumber u x ∧ n = .scalar (.double x) := by
  unfold number at h
  dsimp only at h
  split at h
  · rename_i x read
    cases h
    refine ⟨s.takeWhile isNumberByte, x, List.takeWhile_append_dropWhile.symm, ⟨?_, ?_, read⟩, rfl⟩
    · intro empty
      rw [empty] at read
      cases read
    · exact fun _ member => List.all_eq_true.mp List.all_takeWhile _ member
  · cases h

theorem literal_eq_ok {word : String} {v : Value} {s t : List UInt8} {n : Node}
    (h : literal word v s = .ok (n, t)) : s = Utf8.encode word ++ t ∧ n = .scalar v := by
  unfold literal at h
  dsimp only at h
  split at h
  · rename_i found
    cases h
    have split := List.take_append_drop (Utf8.encode word).length s
    rw [found] at split
    exact ⟨split.symm, rfl⟩
  · cases h

/-! ### What the reader accepts -/

theorem IsMember.blank {w s : List UInt8} {m : String × Node} (blank : Blank w)
    (member : IsMember s m) : IsMember (w ++ s) m := by
  cases member with
  | @pair w' k w₁ w₂ v w₃ key n before name between behind value after =>
    have both : Blank (w ++ w') := fun b member => (List.mem_append.mp member).elim (blank b) (before b)
    simpa using IsMember.pair both name between behind value after

theorem IsMembers.blank {w s : List UInt8} {ms : List (String × Node)} (blank : Blank w)
    (members : IsMembers s ms) : IsMembers (w ++ s) ms := by
  cases members with
  | last member => exact .last (member.blank blank)
  | more member members =>
    rw [← List.append_assoc]
    exact .more (member.blank blank) members

def setMembers (es ms : List (String × Node)) : List (String × Node) :=
  ms.foldl (fun es m => setEntry m.1 m.2 es) es

/-- What the reader takes in with some fuel are texts of the grammar. -/
structure Sound (fuel : Nat) : Prop where
  value {s t : List UInt8} {n : Node} : value fuel s = .ok (n, t) → ∃ u, s = u ++ t ∧ IsValue u n
  members {s t : List UInt8} {es es' : List (String × Node)} : members fuel es s = .ok (es', t) →
    ∃ u ms, s = u ++ 0x7D :: t ∧ IsMembers u ms ∧ es' = setMembers es ms
  elements {s t : List UInt8} {ns : List Node} : elements fuel s = .ok (ns, t) →
    ∃ u, s = u ++ 0x5D :: t ∧ IsItems u ns

theorem Sound.object {fuel : Nat} (sound : Sound fuel) {rest t : List UInt8}
    {es : List (String × Node)} {n : Node} (read : Json.members fuel [] (skip rest) = .ok (es, t))
    (made : Node.ofMapping es = .ok n) : ∃ u, 0x7B :: rest = u ++ t ∧ IsValue u n := by
  obtain ⟨u, ms, split, isMembers, rfl⟩ := sound.members read
  obtain ⟨w, blank, same⟩ := blank_skip rest
  refine ⟨0x7B :: (w ++ u ++ [0x7D]), ?_, ?_⟩
  · rw [same, split]
    simp
  · exact .object (isMembers.blank blank) (merges_foldl ms) (ofMapping_eq_ok.mp made)

theorem Sound.array {fuel : Nat} (sound : Sound fuel) {rest t : List UInt8} {ns : List Node}
    (read : Json.elements fuel (skip rest) = .ok (ns, t)) :
    ∃ u, 0x5B :: rest = u ++ t ∧ IsValue u (.sequence ns) := by
  obtain ⟨u, split, isItems⟩ := sound.elements read
  obtain ⟨w, blank, same⟩ := blank_skip rest
  refine ⟨0x5B :: (w ++ u ++ [0x5D]), ?_, .array blank isItems⟩
  rw [same, split]
  simp

theorem Sound.value_succ {fuel : Nat} (sound : Sound fuel) {s t : List UInt8} {n : Node}
    (h : Json.value (fuel + 1) s = .ok (n, t)) : ∃ u, s = u ++ t ∧ IsValue u n := by
  have word {word : String} {v : Value} {s : List UInt8} (known : (word, v) ∈ literals)
      (h : literal word v s = .ok (n, t)) : ∃ u, s = u ++ t ∧ IsValue u n := by
    obtain ⟨rfl, rfl⟩ := literal_eq_ok h
    exact ⟨_, rfl, .literal known⟩
  rw [Json.value.eq_def] at h
  dsimp only at h
  split at h
  · cases h
  · rename_i b rest
    obtain ⟨w, blank, same⟩ := blank_skip rest
    split at h
    · split at h
      · rename_i tail closed
        cases h
        refine ⟨0x7B :: (w ++ [0x7D]), ?_, .emptyObject blank⟩
        rw [same, closed]
        simp
      · obtain ⟨⟨es, tail⟩, read, rest⟩ := bind_eq_ok.mp h
        obtain ⟨m, made, same⟩ := bind_eq_ok.mp rest
        cases same
        exact sound.object read made
    · split at h
      · rename_i tail closed
        cases h
        refine ⟨0x5B :: (w ++ [0x5D]), ?_, .emptyArray blank⟩
        rw [same, closed]
        simp
      · obtain ⟨⟨ns, tail⟩, read, same⟩ := bind_eq_ok.mp h
        cases same
        exact sound.array read
    · obtain ⟨⟨text, tail⟩, read, same⟩ := bind_eq_ok.mp h
      cases same
      obtain ⟨u, split, isString⟩ := string_eq_ok read
      exact ⟨u, split, .string isString⟩
    · exact word (by simp [literals]) h
    · exact word (by simp [literals]) h
    · exact word (by simp [literals]) h
    · obtain ⟨u, x, split, isNumber, rfl⟩ := number_eq_ok h
      exact ⟨u, split, .number isNumber⟩

theorem Sound.members_succ {fuel : Nat} (sound : Sound fuel) {s t : List UInt8}
    {es es' : List (String × Node)} (h : Json.members (fuel + 1) es s = .ok (es', t)) :
    ∃ u ms, s = u ++ 0x7D :: t ∧ IsMembers u ms ∧ es' = setMembers es ms := by
  obtain ⟨w, before, same⟩ := blank_skip s
  rw [Json.members] at h
  split at h
  · cases h
  · rename_i b rest start
    rw [start] at same
    obtain ⟨⟨key, s₁⟩, named, h⟩ := bind_eq_ok.mp h
    obtain ⟨k, name, isString⟩ := string_eq_ok named
    obtain ⟨w₁, between, same₁⟩ := blank_skip s₁
    dsimp only at h
    split at h
    · rename_i s₂ colon
      rw [colon] at same₁
      obtain ⟨⟨n, s₃⟩, read, h⟩ := bind_eq_ok.mp h
      obtain ⟨w₂, behind, same₂⟩ := blank_skip s₂
      obtain ⟨v, split₂, isValue⟩ := sound.value read
      obtain ⟨w₃, after, same₃⟩ := blank_skip s₃
      have member := IsMember.pair before isString between behind isValue after
      have text : s = (w ++ k ++ w₁ ++ 0x3A :: (w₂ ++ v ++ w₃)) ++ skip s₃ := by
        rw [same, name, same₁, same₂, split₂]
        nth_rewrite 1 [same₃]
        simp
      dsimp only at h
      split at h
      · cases h
      · rename_i s₄ closed
        cases h
        rw [closed] at text
        exact ⟨_, [(key, n)], text, .last member, rfl⟩
      · rename_i s₄ comma
        rw [comma] at text
        obtain ⟨u, ms, split₄, isMembers, rfl⟩ := sound.members h
        refine ⟨_, (key, n) :: ms, ?_, .more member isMembers, rfl⟩
        rw [text, split₄]
        simp
      · cases h
    · cases h

theorem Sound.elements_succ {fuel : Nat} (sound : Sound fuel) {s t : List UInt8} {ns : List Node}
    (h : Json.elements (fuel + 1) s = .ok (ns, t)) : ∃ u, s = u ++ 0x5D :: t ∧ IsItems u ns := by
  rw [Json.elements] at h
  obtain ⟨⟨n, s₁⟩, read, h⟩ := bind_eq_ok.mp h
  obtain ⟨v, split, isValue⟩ := sound.value read
  obtain ⟨w, blank, same⟩ := blank_skip s₁
  dsimp only at h
  split at h
  · cases h
  · rename_i s₂ closed
    cases h
    rw [closed] at same
    exact ⟨v ++ w, by rw [split, same]; simp, .last isValue blank⟩
  · rename_i s₂ comma
    rw [comma] at same
    obtain ⟨⟨ns, s₃⟩, more, same₃⟩ := bind_eq_ok.mp h
    cases same₃
    obtain ⟨w', blank', same'⟩ := blank_skip s₂
    obtain ⟨u, split', isItems⟩ := sound.elements more
    refine ⟨_, ?_, .more isValue blank blank' isItems⟩
    rw [split, same, same', split']
    simp
  · cases h

theorem sound (fuel : Nat) : Sound fuel := by
  induction fuel with
  | zero =>
    constructor
    all_goals
      intros
      contradiction
  | succ fuel ih => exact ⟨ih.value_succ, ih.members_succ, ih.elements_succ⟩

/-! ### What the reader takes in -/

theorem IsString.body {s : List UInt8} {text : String} (isString : IsString s text) :
    ∃ body, IsBody body ∧ s = Json.quoted body ∧ bodyText body = .ok text := by
  cases isString with
  | @quoted body cs closed decoded =>
    refine ⟨body, closed, rfl, ?_⟩
    rw [bodyText, decoded]
    rfl

mutual

/-- A value of the grammar has tokens, which come to the node that it denotes. -/
theorem IsValue.text : ∀ {s : List UInt8} {n : Node}, IsValue s n →
    ∃ tree, IsText s tree ∧ tree.toNode = .ok n
  | _, _, .literal known => ⟨_, .literal known, rfl⟩
  | _, _, .number isNumber => by
    refine ⟨_, .number isNumber.nonempty isNumber.bytes, ?_⟩
    rw [Tree.toNode, numberNode, numberText, isNumber.read]
  | _, _, .string isString => by
    obtain ⟨body, closed, rfl, decoded⟩ := isString.body
    refine ⟨_, .string closed, ?_⟩
    rw [Tree.toNode, decoded]
    rfl
  | _, _, .emptyArray blank => ⟨_, .emptyArray blank, rfl⟩
  | _, _, .array blank items => by
    obtain ⟨trees, texts, nodes⟩ := IsItems.texts items
    refine ⟨_, .array blank texts, ?_⟩
    rw [Tree.toNode, nodes]
    rfl
  | _, _, .emptyObject blank => ⟨_, .emptyObject blank, rfl⟩
  | _, _, @IsValue.object _ ms _ _ members merged denoted => by
    obtain ⟨trees, texts, nodes⟩ := IsMembers.texts members
    refine ⟨_, .object texts, ?_⟩
    have same : setMembers [] ms = _ := (merges_foldl ms).unique merged
    rw [Tree.toNode, nodes, same]
    exact ofMapping_eq_ok.mpr denoted

theorem IsItems.texts : ∀ {s : List UInt8} {ns : List Node}, IsItems s ns →
    ∃ trees, AreItemTexts s trees ∧ itemNodes trees = .ok ns
  | _, _, .last item blank => by
    obtain ⟨tree, isText, node⟩ := IsValue.text item
    refine ⟨_, .last isText blank, ?_⟩
    rw [itemNodes, node]
    rfl
  | _, _, .more item blank blank' items => by
    obtain ⟨tree, isText, node⟩ := IsValue.text item
    obtain ⟨trees, texts, nodes⟩ := IsItems.texts items
    refine ⟨_, .more isText blank blank' texts, ?_⟩
    rw [itemNodes, node, nodes]
    rfl

theorem IsMembers.texts : ∀ {s : List UInt8} {ms : List (String × Node)}, IsMembers s ms →
    ∃ trees, AreMemberTexts s trees ∧ ∀ es, memberNodes es trees = .ok (setMembers es ms)
  | _, _, .last member => by
    obtain ⟨body, tree, isText, key, node⟩ := IsMember.text member
    refine ⟨_, .last isText, fun es => ?_⟩
    rw [memberNodes, key, node]
    rfl
  | _, _, .more member members => by
    obtain ⟨body, tree, isText, key, node⟩ := IsMember.text member
    obtain ⟨trees, texts, nodes⟩ := IsMembers.texts members
    refine ⟨_, .more isText texts, fun es => ?_⟩
    rw [memberNodes, key, node]
    exact nodes _

theorem IsMember.text : ∀ {s : List UInt8} {m : String × Node}, IsMember s m →
    ∃ body tree, IsMemberText s (body, tree) ∧ bodyText body = .ok m.1 ∧ tree.toNode = .ok m.2
  | _, _, .pair before name between behind value after => by
    obtain ⟨body, closed, rfl, decoded⟩ := name.body
    obtain ⟨tree, isText, node⟩ := IsValue.text value
    exact ⟨body, tree, .pair before closed between behind isText after, decoded, node⟩

end

/-- A byte string is read as a document without an error exactly if it is one of the grammar, and the
node is the one that it denotes. -/
theorem ofJson_eq_ok_iff_isDocument (b : List UInt8) (n : Node) :
    Node.ofJson b = .ok n ↔ IsDocument b n := by
  constructor
  · intro h
    obtain ⟨⟨m, rest⟩, read, h⟩ := bind_eq_ok.mp h
    obtain ⟨w, before, same⟩ := blank_skip b
    obtain ⟨s, split, isValue⟩ := (sound _).value read
    obtain ⟨w', after, ended⟩ := blank_skip rest
    dsimp only at h
    split at h
    · rename_i empty
      cases h
      rw [List.isEmpty_iff.mp empty, List.append_nil] at ended
      rw [same, split, ended, ← List.append_assoc]
      exact .value before isValue after
    · cases h
  · intro h
    cases h with
    | value before isValue after =>
      obtain ⟨tree, isText, node⟩ := isValue.text
      rw [ofJson_text before isText after, node]

end FilterQuery.Json
