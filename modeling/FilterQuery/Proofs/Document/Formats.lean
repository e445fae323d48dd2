import FilterQuery.Document.Yaml
import FilterQuery.Proofs.Document.Draft
import FilterQuery.Proofs.Document.Json.Strings

/-!
# A document in two formats

`Json.Writes` says which byte strings are JSON texts of a draft, and `Yaml.Depicts` which YAML trees are
trees of it under a schema: any of its parts may be an alias there. Both formats read a draft as the same
document, or refuse it for the same reason, where integers count as doubles (`formats_read_alike`),
whatever the schema does with scalars that are not in the draft. Each of them is compared to the node of
the draft.
-/

namespace FilterQuery

/-! ### JSON -/

namespace Json

mutual

/-- The tokens are those of the draft: members in its order, texts in whatever spelling, and for integers
numerals of their exact value. -/
inductive Depicts : Tree → Draft → Prop
  | null : Depicts (.literal .null) .null
  | bool {b : Bool} : Depicts (.literal (.bool b)) (.bool b)
  | text {body : List UInt8} {s : String} (spelled : Spells body s.toList) :
    Depicts (.string body) (.text s)
  | int {digits : List UInt8} {n : Int} {exact : n.natAbs ≤ Literal.lastExact}
    (numeral : Literal.IsNumeral (numberText digits) n) : Depicts (.number digits) (.int n exact)
  | sequence {trees : List Tree} {ds : List Draft} (items : DepictItems trees ds) :
    Depicts (.array trees) (.sequence ds)
  | mapping {ms : List (List UInt8 × Tree)} {ds : List (String × Draft)} (entries : DepictEntries ms ds) :
    Depicts (.object ms) (.mapping ds)

inductive DepictItems : List Tree → List Draft → Prop
  | nil : DepictItems [] []
  | cons {tree : Tree} {d : Draft} {trees : List Tree} {ds : List Draft} (first : Depicts tree d)
    (rest : DepictItems trees ds) : DepictItems (tree :: trees) (d :: ds)

inductive DepictEntries : List (List UInt8 × Tree) → List (String × Draft) → Prop
  | nil : DepictEntries [] []
  | cons {body : List UInt8} {key : String} {tree : Tree} {d : Draft} {ms : List (List UInt8 × Tree)}
    {ds : List (String × Draft)} (name : Spells body key.toList) (value : Depicts tree d)
    (rest : DepictEntries ms ds) : DepictEntries ((body, tree) :: ms) ((key, d) :: ds)

end

/-- The bytes are a JSON text of the draft. -/
inductive Writes : List UInt8 → Draft → Prop
  | text {w s w' : List UInt8} {tree : Tree} {d : Draft} (before : Blank w) (isText : IsText s tree)
    (depicts : Depicts tree d) (after : Blank w') : Writes (w ++ s ++ w') d

theorem numberNode_numeral {digits : List UInt8} {n : Int}
    (numeral : Literal.IsNumeral (numberText digits) n) (exact : n.natAbs ≤ Literal.lastExact) :
    (numberNode digits).map Node.toDoubles =
      .ok (.scalar (.double (Binary.ofInt .double n).unsignedZero)) := by
  obtain ⟨x, read, rfl | ⟨rfl, rfl⟩⟩ := Literal.read_numeral numeral exact
  · rw [numberNode, read]
    rfl
  · rw [numberNode, read]
    rfl

mutual

theorem Depicts.node : ∀ {tree : Tree} {d : Draft}, Depicts tree d →
    tree.toNode.map Node.toDoubles = d.toNode.map Node.toDoubles
  | _, _, .null => rfl
  | _, _, .bool => rfl
  | _, _, .text spelled => by
    rw [Tree.toNode, bodyText_spelled spelled]
    rfl
  | _, .int n exact, .int numeral => by
    rw [Tree.toNode, numberNode_numeral numeral exact]
    rfl
  | _, _, .sequence items => Node.sequence_congr (DepictItems.nodes items)
  | _, _, .mapping entries => Node.mapping_congr (DepictEntries.nodes entries rfl)

theorem DepictItems.nodes : ∀ {trees : List Tree} {ds : List Draft}, DepictItems trees ds →
    (itemNodes trees).map Node.itemDoubles = (Draft.itemNodes ds).map Node.itemDoubles
  | _, _, .nil => rfl
  | _, _, .cons first rest => Node.cons_congr (Depicts.node first) (DepictItems.nodes rest)

theorem DepictEntries.nodes : ∀ {ms : List (List UInt8 × Tree)} {ds : List (String × Draft)}
    {es es' : List (String × Node)}, DepictEntries ms ds → Node.entryDoubles es = Node.entryDoubles es' →
    (memberNodes es ms).map Node.entryDoubles = (Draft.entryNodes es' ds).map Node.entryDoubles
  | _, _, _, _, .nil, before => congrArg Except.ok before
  | _, _, _, _, .cons name value rest, before => by
    rw [memberNodes, bodyText_spelled name]
    exact Node.setEntry_congr before (Depicts.node value) fun _ _ => DepictEntries.nodes rest

end

theorem Writes.node {bytes : List UInt8} {d : Draft} (writes : Writes bytes d) :
    (Node.ofJson bytes).map Node.toDoubles = d.toNode.map Node.toDoubles := by
  cases writes with
  | text before isText depicts after =>
    rw [ofJson_text before isText after]
    exact depicts.node

end Json

/-! ### YAML -/

namespace Yaml

variable {schema : Schema}

mutual

/-- The tree is one of the draft: its scalars have the tags of the draft's kinds and are decoded to its
values, and an alias stands for a tree of the same draft. -/
inductive Depicts (schema : Schema) : Tree → Draft → Prop
  | null {mark : Mark} {tag : Option String} {plain : Bool} {s : String}
    (tagged : schema.shortTag ⟨tag, plain, s⟩ = "!!null") :
    Depicts schema (.scalar mark tag plain s) .null
  | bool {mark : Mark} {tag : Option String} {plain : Bool} {s : String} {b : Bool}
    (tagged : schema.shortTag ⟨tag, plain, s⟩ = "!!bool")
    (decoded : schema.bool ⟨tag, plain, s⟩ = .ok b) :
    Depicts schema (.scalar mark tag plain s) (.bool b)
  | text {mark : Mark} {tag : Option String} {plain : Bool} {s : String}
    (tagged : schema.shortTag ⟨tag, plain, s⟩ = "!!str") :
    Depicts schema (.scalar mark tag plain s) (.text s)
  | int {mark : Mark} {tag : Option String} {plain : Bool} {s : String} {i : SizedInt}
    {exact : i.val.natAbs ≤ Literal.lastExact} (tagged : schema.shortTag ⟨tag, plain, s⟩ = "!!int")
    (decoded : schema.int ⟨tag, plain, s⟩ = .ok i) :
    Depicts schema (.scalar mark tag plain s) (.int i.val exact)
  | sequence {mark : Mark} {trees : List Tree} {ds : List Draft}
    (items : DepictItems schema trees ds) : Depicts schema (.sequence mark trees) (.sequence ds)
  | mapping {mark : Mark} {entries : List (Tree × Tree)} {ds : List (String × Draft)}
    (depicted : DepictEntries schema entries ds) : Depicts schema (.mapping mark entries) (.mapping ds)
  | alias {mark : Mark} {name : String} {tree : Tree} {d : Draft} (target : Depicts schema tree d) :
    Depicts schema (.alias mark name (some tree)) d

inductive DepictItems (schema : Schema) : List Tree → List Draft → Prop
  | nil : DepictItems schema [] []
  | cons {tree : Tree} {d : Draft} {trees : List Tree} {ds : List Draft}
    (first : Depicts schema tree d) (rest : DepictItems schema trees ds) :
    DepictItems schema (tree :: trees) (d :: ds)

/-- Keys are the texts of scalars, whatever their tags are. -/
inductive DepictEntries (schema : Schema) : List (Tree × Tree) → List (String × Draft) → Prop
  | nil : DepictEntries schema [] []
  | cons {mark : Mark} {tag : Option String} {plain : Bool} {key : String} {tree : Tree} {d : Draft}
    {entries : List (Tree × Tree)} {ds : List (String × Draft)} (value : Depicts schema tree d)
    (rest : DepictEntries schema entries ds) :
    DepictEntries schema ((.scalar mark tag plain key, tree) :: entries) ((key, d) :: ds)

end

mutual

theorem Depicts.node : ∀ {tree : Tree} {d : Draft}, Depicts schema tree d →
    (tree.toNode schema).map Node.toDoubles = d.toNode.map Node.toDoubles
  | _, _, .null tagged => by
    rw [Tree.toNode, Schema.value, tagged]
    rfl
  | _, _, .bool tagged decoded => by
    rw [Tree.toNode, Schema.value, tagged]
    simp only [decoded]
    rfl
  | _, _, .text tagged => by
    rw [Tree.toNode, Schema.value, tagged]
    rfl
  | _, _, .int tagged decoded => by
    rw [Tree.toNode, Schema.value, tagged]
    simp only [decoded]
    rfl
  | _, _, .sequence items => Node.sequence_congr (DepictItems.nodes items)
  | _, _, .mapping entries => Node.mapping_congr (DepictEntries.nodes entries rfl)
  | _, _, .alias target => by
    rw [Tree.toNode]
    exact Depicts.node target

theorem DepictItems.nodes : ∀ {trees : List Tree} {ds : List Draft}, DepictItems schema trees ds →
    (itemNodes schema trees).map Node.itemDoubles = (Draft.itemNodes ds).map Node.itemDoubles
  | _, _, .nil => rfl
  | _, _, .cons first rest => Node.cons_congr (Depicts.node first) (DepictItems.nodes rest)

theorem DepictEntries.nodes : ∀ {entries : List (Tree × Tree)} {ds : List (String × Draft)}
    {es es' : List (String × Node)}, DepictEntries schema entries ds →
    Node.entryDoubles es = Node.entryDoubles es' →
    (entryNodes schema es entries).map Node.entryDoubles =
      (Draft.entryNodes es' ds).map Node.entryDoubles
  | _, _, _, _, .nil, before => congrArg Except.ok before
  | _, _, _, _, .cons value rest, before =>
    Node.setEntry_congr before (Depicts.node value) fun _ _ => DepictEntries.nodes rest

end

end Yaml

/-! ### Both formats -/

/-- Whatever JSON text and YAML tree of a draft are read, both are refused for the same reason, or both
are the same document where integers are doubles: with the same keys in the same order, and with the
same scalars where objects stand for them. Zeros of both signs are equal as doubles. -/
theorem formats_read_alike {schema : Yaml.Schema} {d : Draft} {bytes : List UInt8} {tree : Yaml.Tree}
    (json : Json.Writes bytes d) (yaml : Yaml.Depicts schema tree d) :
    (Node.ofJson bytes).map Node.toDoubles = (tree.toNode schema).map Node.toDoubles :=
  json.node.trans yaml.node.symm

/-- A key stands there twice. The second number of its list has a fraction in the one format, and is an
alias of the first number in the other. -/
theorem formats_read_alike_aliased :
    let one : Draft := .int 1 (by decide)
    let d : Draft := .mapping [("a", .null), ("a", .sequence [one, one])]
    let bytes := [0x7B, 0x22, 0x61, 0x22, 0x3A] ++ Utf8.encode "null" ++
      [0x2C, 0x22, 0x61, 0x22, 0x3A, 0x5B, 0x31, 0x2C, 0x31, 0x2E, 0x30, 0x5D, 0x7D, 0x0A]
    let key : Yaml.Tree := .scalar {} none true "a"
    let number : Yaml.Tree := .scalar {} none true "1"
    let tree : Yaml.Tree := .mapping {} [(key, .blank {}),
      (key, .sequence {} [number, .alias {} "n" (some number)])]
    Json.Writes bytes d ∧ Yaml.Depicts .standard tree d ∧
      (Node.ofJson bytes).map Node.toDoubles = (tree.toNode .standard).map Node.toDoubles := by
  intro one d bytes key number tree
  have none : Json.Blank [] := List.forall_mem_nil _
  have newline : Json.Blank [0x0A] := List.forall_mem_singleton.mpr rfl
  have key : Json.Spells [0x61] "a".toList :=
    .plain (c := 'a') (by decide) (by decide) (by decide) .nil
  have digit {c : Char} (isDigit : c.isDigit = true) : Literal.AreDigits [c] :=
    ⟨List.cons_ne_nil _ _, List.forall_mem_singleton.mpr isDigit⟩
  have single : Literal.IsNumeral (Json.numberText [0x31]) 1 :=
    @Literal.IsNumeral.decimal false ['1'] [] [] [] 0 1 (digit rfl) .none .none
      (by simp [Literal.digitsNumber, Literal.extendNumber])
  have pointed : Literal.IsNumeral (Json.numberText [0x31, 0x2E, 0x30]) 1 :=
    @Literal.IsNumeral.decimal false ['1'] ['.', '0'] ['0'] [] 0 1 (digit rfl) (.point (digit rfl))
      .none (by simp [Literal.digitsNumber, Literal.extendNumber])
  have json : Json.Writes bytes d := by
    have null : Json.IsText (Utf8.encode "null") (.literal .null) := .literal List.mem_cons_self
    have items : Json.AreItemTexts _ [.number [0x31], .number [0x31, 0x2E, 0x30]] :=
      .more (.number (List.cons_ne_nil _ _) (List.all_eq_true.mp rfl)) none none
        (.last (.number (List.cons_ne_nil _ _) (List.all_eq_true.mp rfl)) none)
    have isText : Json.IsText _ (.object [([0x61], .literal .null), ([0x61], .array _)]) :=
      .object (.more (.pair none key.isBody none none null none)
        (.last (.pair none key.isBody none none (.array none items) none)))
    have depicts : Json.Depicts _ d := .mapping (.cons key .null
      (.cons key (.sequence (.cons (.int single) (.cons (.int pointed) .nil))) .nil))
    have written : Json.Writes ([] ++ _ ++ [0x0A]) d := .text none isText depicts newline
    exact written
  have yaml : Yaml.Depicts .standard tree d := by
    have number : Yaml.Depicts .standard number one := by
      have decoded : Yaml.Schema.standard.int ⟨Option.none, true, "1"⟩ =
          .ok (SizedInt.wrap .int64 1) := by decide +kernel
      exact .int (by decide +kernel) decoded
    exact .mapping (.cons (.null (by decide +kernel))
      (.cons (.sequence (.cons number (.cons (.alias number) .nil))) .nil))
  exact ⟨json, yaml, formats_read_alike json yaml⟩

end FilterQuery
