import FilterQuery.Proofs.Cli.Jobs
import FilterQuery.Proofs.Text.Quoted
import Mathlib.Data.List.Basic

/-!
# Printed search commands

A printed search command is read by taking it apart at the blanks outside its quoted tokens, and reading
what is quoted (`readLine`). The search command prints one text, from which its arguments are read back
(`search_reads_back`). The text is a single line but for arguments that have a line break and nothing that
has them quoted (`search_breaks_line`).
-/

namespace FilterQuery.Cli

/-! ### Reading a command -/

/-- Where a byte stands in a token. -/
inductive Place where
  | start
  | bare
  | quoted
  /-- Behind a backslash between quotes. -/
  | escaped

/-- The place behind a byte, unless the byte is a blank between two tokens. -/
def Place.next? : Place → UInt8 → Option Place
  | .start, b => if b = 0x20 then none else if b = 0x22 then some .quoted else some .bare
  | .bare, b => if b = 0x20 then none else some .bare
  | .quoted, b => if b = 0x22 then some .bare else if b = 0x5C then some .escaped else some .quoted
  | .escaped, _ => some .quoted

/-- The tokens of a line that begins at a place of the first one. -/
def tokens (p : Place) : List UInt8 → List (List UInt8)
  | [] => [[]]
  | b :: bs =>
    match p.next? b with
    | some p => (tokens p bs).modifyHead (b :: ·)
    | none => [] :: tokens .start bs

/-- The word that a token stands for. -/
def readToken (token : List UInt8) : Option (List UInt8) :=
  if token.head? = some 0x22 then Quoted.unquote? (Utf8.decodeLossy token) else some token

/-- The words of a command. -/
def readLine (line : List UInt8) : Option (List (List UInt8)) := (tokens .start line).mapM readToken

/-- The bytes lead from a place of a token to a place of the same token. -/
def Leads (p : Place) (bs : List UInt8) (q : Place) : Prop := bs.foldlM Place.next? p = some q

theorem leads_one {p q : Place} {b : UInt8} (next : p.next? b = some q) : Leads p [b] q := by
  rw [Leads, List.foldlM_cons, next]
  rfl

theorem Leads.append {p q r : Place} {bs cs : List UInt8} (first : Leads p bs q)
    (second : Leads q cs r) : Leads p (bs ++ cs) r := by
  rw [Leads, List.foldlM_append, first]
  exact second

theorem leads_of_each {p : Place} {bs : List UInt8} (each : ∀ b ∈ bs, p.next? b = some p) :
    Leads p bs p := by
  induction bs with
  | nil => rfl
  | cons b bs ih =>
    obtain ⟨here, behind⟩ := List.forall_mem_cons.mp each
    exact (leads_one here).append (ih behind)

theorem tokens_append {p q : Place} {token : List UInt8} (leads : Leads p token q)
    (bs : List UInt8) : tokens p (token ++ bs) = (tokens q bs).modifyHead (token ++ ·) := by
  induction token generalizing p with
  | nil =>
    cases leads
    exact (congrFun List.modifyHead_id _).symm
  | cons b token ih =>
    rw [Leads, List.foldlM_cons] at leads
    obtain ⟨p', next, leads⟩ := Option.bind_eq_some_iff.mp leads
    rw [List.cons_append, tokens, next]
    dsimp only
    rw [ih leads, List.modifyHead_modifyHead]
    rfl

theorem tokens_intercalate {words : List (List UInt8)} (nonempty : words ≠ [])
    (tokenwise : ∀ word ∈ words, Leads .start word .bare) :
    tokens .start ([0x20].intercalate words) = words := by
  induction words with
  | nil => exact absurd rfl nonempty
  | cons word words ih =>
    obtain ⟨leads, rest⟩ := List.forall_mem_cons.mp tokenwise
    cases words with
    | nil =>
      rw [List.intercalate_singleton, ← List.append_nil word, tokens_append leads]
      rfl
    | cons other words =>
      have behind := ih (List.cons_ne_nil _ _) rest
      rw [List.intercalate_cons_cons, List.append_assoc, tokens_append leads, List.singleton_append,
        tokens, Place.next?, if_pos rfl]
      dsimp only
      rw [behind, List.modifyHead_cons, List.append_nil]

/-! ### Written words -/

/-- The bytes that have a word quoted: the blank, the quotes and the backslash. -/
def special : List UInt8 := [0x20, 0x22, 0x27, 0x5C]

/-- The word is written as it is. -/
def IsBare (word : List UInt8) : Prop := word ≠ [] ∧ ∀ b ∈ word, b ∉ special

theorem shellWord_of_isBare {word : List UInt8} (bare : IsBare word) : shellWord word = word := by
  rw [shellWord, if_neg]
  simp only [Bool.or_eq_true, List.isEmpty_iff, List.any_eq_true, List.contains_iff_mem, not_or,
    not_exists, not_and]
  exact bare

theorem shellWord_of_not_isBare {word : List UInt8} (quoted : ¬IsBare word) :
    shellWord word = Utf8.encode (Quoted.quoteBytes word) := by
  rw [shellWord, if_pos]
  simp only [Bool.or_eq_true, List.isEmpty_iff, List.any_eq_true, List.contains_iff_mem]
  by_contra neither
  simp only [not_or, not_exists, not_and] at neither
  exact quoted neither

theorem leads_bare {word : List UInt8} (bare : IsBare word) : Leads .start word .bare := by
  obtain ⟨nonempty, each⟩ := bare
  obtain ⟨b, bs, rfl⟩ := List.exists_cons_of_ne_nil nonempty
  obtain ⟨here, behind⟩ := List.forall_mem_cons.mp each
  have other {b' : UInt8} (outside : b' ∉ special) (mark : UInt8) (inside : mark ∈ special) :
      b' ≠ mark := fun same => outside (same ▸ inside)
  have begins : Place.next? .start b = some .bare := by
    rw [Place.next?, if_neg (other here 0x20 (by decide)), if_neg (other here 0x22 (by decide))]
  exact (leads_one begins).append <| leads_of_each fun b' member =>
    if_neg (other (behind b' member) 0x20 (by decide))

/-- A plain character is written without quotes, backslashes and line breaks. -/
theorem plain_bytes {c : Char} (plain : Quoted.IsPlain c) :
    ∀ b ∈ String.utf8EncodeChar c, b ≠ 0x22 ∧ b ≠ 0x5C ∧ b ≠ 0x0A := by
  obtain ⟨noQuote, noSlash, noBreak⟩ := plain
  intro b member
  have other {d : Char} (ascii : d.toNat < 0x80) (differs : c ≠ d) : b ≠ UInt8.ofNat d.toNat := by
    rintro rfl
    exact differs ((Utf8.mem_encodeChar_ascii ascii).mp member)
  exact ⟨other (d := '"') (by decide) noQuote, other (d := '\\') (by decide) noSlash,
    other (d := '\n') (by decide) noBreak⟩

theorem quoted_next {b : UInt8} (noQuote : b ≠ 0x22) (noSlash : b ≠ 0x5C) :
    Place.next? .quoted b = some .quoted := by
  rw [Place.next?, if_neg noQuote, if_neg noSlash]

theorem leads_plain {cs : List Char} (plain : ∀ c ∈ cs, Quoted.IsPlain c) :
    Leads .quoted (cs.flatMap String.utf8EncodeChar) .quoted := by
  refine leads_of_each fun b member => ?_
  obtain ⟨c, there, member⟩ := List.mem_flatMap.mp member
  obtain ⟨noQuote, noSlash, _⟩ := plain_bytes (plain c there) b member
  exact quoted_next noQuote noSlash

theorem leads_writes {bs : List UInt8} {written : List Char} (writes : Quoted.Writes bs written) :
    Leads .quoted (written.flatMap String.utf8EncodeChar) .quoted := by
  cases writes with
  | plain plain => exact leads_plain (List.forall_mem_singleton.mpr plain)
  | @escape _ mark ds marked digits reads =>
    obtain ⟨b, rest, encoded, high⟩ := Utf8.encodeChar_cons mark
    have behind : Leads .quoted rest .quoted := leads_of_each fun b' member =>
      quoted_next (fun same => absurd (high b' member) (same ▸ by decide))
        (fun same => absurd (high b' member) (same ▸ by decide))
    have slash : Leads .quoted (String.utf8EncodeChar '\\') .escaped := rfl
    rw [List.flatMap_cons, List.flatMap_cons, encoded]
    exact slash.append (((leads_one (b := b) rfl).append behind).append (leads_plain digits))

theorem leads_quoteBytes (word : List UInt8) :
    Leads .start (Utf8.encode (Quoted.quoteBytes word)) .bare := by
  have body (ps : List Utf8.Piece) :
      Leads .quoted ((ps.flatMap Quoted.escapePiece).flatMap String.utf8EncodeChar) .quoted := by
    induction ps with
    | nil => rfl
    | cons p ps ih =>
      rw [List.flatMap_cons, List.flatMap_append]
      exact (leads_writes (Quoted.writes_escapePiece p)).append ih
  have opens : Leads .start (String.utf8EncodeChar '"') .quoted := rfl
  have closes : Leads .quoted (String.utf8EncodeChar '"') .bare := rfl
  rw [Utf8.encode_eq_flatMap, Quoted.quoteBytes, String.toList_ofList, List.flatMap_cons,
    List.flatMap_append, List.flatMap_singleton]
  exact opens.append ((body _).append closes)

/-- A written word is one token. -/
theorem leads_shellWord (word : List UInt8) : Leads .start (shellWord word) .bare := by
  by_cases bare : IsBare word
  · rw [shellWord_of_isBare bare]
    exact leads_bare bare
  · rw [shellWord_of_not_isBare bare]
    exact leads_quoteBytes word

theorem readToken_shellWord (word : List UInt8) : readToken (shellWord word) = some word := by
  by_cases bare : IsBare word
  · rw [shellWord_of_isBare bare, readToken, if_neg]
    intro quote
    exact bare.2 0x22 (List.mem_of_mem_head? quote) (by decide)
  · have begins : (Utf8.encode (Quoted.quoteBytes word)).head? = some 0x22 := by
      rw [Utf8.encode_eq_flatMap, Quoted.quoteBytes, String.toList_ofList]
      rfl
    rw [shellWord_of_not_isBare bare, readToken, if_pos begins, Utf8.encode_eq_flatMap,
      Utf8.decodeLossy_flatMap, Quoted.unquote?_quoteBytes]

theorem break_not_mem_writes {bs : List UInt8} {written : List Char}
    (writes : Quoted.Writes bs written) : '\n' ∉ written := by
  cases writes with
  | plain plain => exact fun member => plain.2.2 (List.mem_singleton.mp member).symm
  | escape marked digits reads =>
    simp only [List.mem_cons, not_or]
    exact ⟨by decide, marked.symm, fun member => (digits _ member).2.2 rfl⟩

theorem break_not_mem_quoteBytes (word : List UInt8) :
    0x0A ∉ Utf8.encode (Quoted.quoteBytes word) := by
  have body : '\n' ∉ (Utf8.pieces word).flatMap Quoted.escapePiece := by
    intro member
    obtain ⟨p, _, member⟩ := List.mem_flatMap.mp member
    exact break_not_mem_writes (Quoted.writes_escapePiece p) member
  intro member
  rw [Utf8.encode_eq_flatMap, Quoted.quoteBytes, String.toList_ofList] at member
  obtain ⟨c, there, member⟩ := List.mem_flatMap.mp member
  obtain rfl : c = '\n' := (Utf8.mem_encodeChar_ascii (c := '\n') (by decide)).mp member
  simp [body] at there

theorem break_mem_shellWord (word : List UInt8) :
    0x0A ∈ shellWord word ↔ 0x0A ∈ word ∧ ∀ b ∈ word, b ∉ special := by
  by_cases bare : IsBare word
  · rw [shellWord_of_isBare bare, and_iff_left bare.2]
  · rw [shellWord_of_not_isBare bare]
    refine iff_of_false (break_not_mem_quoteBytes word) ?_
    rintro ⟨member, each⟩
    exact bare ⟨List.ne_nil_of_mem member, each⟩

theorem mem_intercalate {b d : UInt8} (other : b ≠ d) (words : List (List UInt8)) :
    b ∈ [d].intercalate words ↔ ∃ word ∈ words, b ∈ word := by
  induction words with
  | nil => simp
  | cons word words ih =>
    cases words with
    | nil => simp
    | cons _ words => simp [List.intercalate_cons_cons, ih, other]

/-! ### The search command -/

/-- The line of a command with the arguments. -/
def written (args : List (List UInt8)) : List UInt8 := [0x20].intercalate (args.map shellWord)

theorem readLine_written {args : List (List UInt8)} (nonempty : args ≠ []) :
    readLine (written args) = some args := by
  rw [readLine, written, tokens_intercalate]
  · rw [List.mapM_map, show readToken ∘ shellWord = some from funext readToken_shellWord]
    exact List.mapM_pure.trans (congrArg some (List.map_id args))
  · simpa using nonempty
  · intro word member
    obtain ⟨arg, _, rfl⟩ := List.mem_map.mp member
    exact leads_shellWord arg

theorem break_mem_written (args : List (List UInt8)) :
    0x0A ∈ written args ↔ ∃ arg ∈ args, 0x0A ∈ arg ∧ ∀ b ∈ arg, b ∉ special := by
  rw [written, mem_intercalate (by decide)]
  simp only [List.mem_map, exists_exists_and_eq_and, break_mem_shellWord]

variable {w : Surroundings} {c : Call} {s : Config.Settings} {query : Node} {command : Search.Command}

theorem runSearch_eq (indexed : s.index ≠ "") (read : ((readQuery w c).run.run {}).1 = .ok query)
    (accepted : Search.command Search.compiler s.index query {} = .ok command) (o : Output) :
    ∃ log, (runSearch w c s).run.run o =
      (.ok (), { lines := o.lines ++ [written command.args], log := log }) := by
  obtain ⟨log, reads⟩ := (quiet_readQuery w c).run_eq read o
  refine ⟨log ++ compileLog w Search.compiler query, ?_⟩
  rw [runSearch, if_neg indexed]
  dsimp only
  rw [Job.run_bind, reads]
  simp only [accepted, Job.lift, pure_bind]
  rfl

/-- The search command prints one text, from which the arguments are read back. It is a single line unless
an argument has a line break and nothing that has it quoted. -/
theorem search_reads_back (called : Call.ofArgs w.args = .ok (some c)) (search : c.command = .search)
    (configured : ((loadSettings w c.flags).run.run {}).1 = .ok s) (indexed : s.index ≠ "")
    (read : ((readQuery w c).run.run {}).1 = .ok query)
    (accepted : Search.command Search.compiler s.index query {} = .ok command) :
    (run w).error = none ∧ ∃ line, (run w).output.lines = [line] ∧
      readLine line = some command.args ∧
      (0x0A ∈ line ↔ ∃ arg ∈ command.args, 0x0A ∈ arg ∧ ∀ b ∈ arg, b ∉ special) := by
  obtain ⟨loaded, load⟩ := (quiet_loadSettings w c.flags).run_eq configured {}
  obtain ⟨log, searched⟩ := runSearch_eq indexed read accepted { log := loaded }
  have ran : (runCall w c).run.run {} = (.ok (), { lines := [written command.args], log := log }) := by
    rw [runCall, Job.run_bind, load]
    dsimp only
    rw [search]
    exact searched
  have printed : (run w).error = none ∧ (run w).output.lines = [written command.args] := by
    rw [run, called]
    dsimp only
    rw [ran]
    dsimp only
    split <;> exact ⟨rfl, rfl⟩
  exact ⟨printed.1, _, printed.2, readLine_written (List.cons_ne_nil _ _), break_mem_written _⟩

/-- The index has blanks, quotes and a line break, and the value has a backslash. -/
theorem search_reads_back_index :
    ∃ (w : Surroundings) (c : Call) (s : Config.Settings) (query : Node) (command : Search.Command),
      Call.ofArgs w.args = .ok (some c) ∧ c.command = .search ∧
      ((loadSettings w c.flags).run.run {}).1 = .ok s ∧ s.index ≠ "" ∧
      ((readQuery w c).run.run {}).1 = .ok query ∧
      Search.command Search.compiler s.index query {} = .ok command ∧
      command.args = ["FT.SEARCH", "my \"i\"\n", "@a:\"$a0\"", "PARAMS", "2", "a0", "x\\y", "DIALECT",
        "2"].map Utf8.encode ∧
      (run w).error = none ∧ ∃ line, (run w).output.lines = [line] ∧
        readLine line = some command.args ∧ 0x0A ∉ line := by
  let w : Surroundings :=
    { args := ["search", "--index", "my \"i\"\n", "-"], stdin := Utf8.encode "\x7b\"a\":\"x\\\\y\"\x7d" }
  let c : Call := ⟨.search, ⟨[("index", "my \"i\"\n")], ["-"]⟩, "-"⟩
  let s : Config.Settings := ⟨"question", "", "my \"i\"\n"⟩
  have compiled : (((readQuery w c).run.run {}).1.toOption.bind fun query =>
      (Search.command Search.compiler s.index query {}).toOption).map (·.args) =
        some (["FT.SEARCH", "my \"i\"\n", "@a:\"$a0\"", "PARAMS", "2", "a0", "x\\y", "DIALECT",
          "2"].map Utf8.encode) := by
    decide +kernel
  cases read : ((readQuery w c).run.run {}).1 with
  | error e =>
    rw [read] at compiled
    cases compiled
  | ok query =>
    cases accepted : Search.command Search.compiler s.index query {} with
    | error e =>
      rw [read] at compiled
      simp [Except.toOption, accepted] at compiled
    | ok command =>
      simp only [read, accepted, Except.toOption, Option.bind_some, Option.map_some,
        Option.some.injEq] at compiled
      have called : Call.ofArgs w.args = .ok (some c) := rfl
      have configured : ((loadSettings w c.flags).run.run {}).1 = .ok s := rfl
      have indexed : s.index ≠ "" := by decide
      obtain ⟨succeeds, line, printed, readBack, breaks⟩ :=
        search_reads_back called rfl configured indexed read accepted
      refine ⟨w, c, s, query, command, called, rfl, configured, indexed, read, accepted, compiled, succeeds,
        line, printed, readBack, fun broken => ?_⟩
      obtain ⟨arg, member, broken, ordinary⟩ := breaks.mp broken
      -- the line break of the index is quoted, since the index has quotes as well
      have hidden : ∀ arg ∈ command.args, 0x0A ∈ arg → ∃ b ∈ arg, b ∈ special := by
        rw [compiled]
        decide +kernel
      obtain ⟨b, there, marked⟩ := hidden arg member broken
      exact ordinary b there marked

/-- A value with a line break and nothing that has it quoted. -/
theorem search_breaks_line :
    ∃ line, (run { args := ["search", "--index", "i", "-"],
                   stdin := Utf8.encode "\x7b\"a\":\"x\\ny\"\x7d" }).output.lines = [line] ∧ 0x0A ∈ line := by
  refine ⟨Utf8.encode "FT.SEARCH i \"@a:\\\"$a0\\\"\" PARAMS 2 a0 x\ny DIALECT 2", ?_⟩
  decide +kernel

end FilterQuery.Cli
