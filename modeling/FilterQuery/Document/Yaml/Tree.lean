import FilterQuery.Document.Yaml.Scanner

/-!
# Trees of block documents

The first document of a text as a tree of scalars, sequences, mappings and aliases. Reading goes
down the tree and takes tokens from the scanner as it needs them, so what stands behind the first
document is not looked at beyond the next few tokens.
-/

namespace FilterQuery.Yaml

/-- A node of a block document. -/
inductive Tree where
  /-- A scalar with its tag, if one is written, and whether it is plain. -/
  | scalar (mark : Mark) (tag : Option String) (plain : Bool) (text : String)
  | sequence (mark : Mark) (items : List Tree)
  | mapping (mark : Mark) (entries : List (Tree × Tree))
  /-- Another node by its name; a node that contains the alias has no end and is left out. -/
  | alias (mark : Mark) (name : String) (target : Option Tree)

/-- Where a node starts. -/
def Tree.mark : Tree → Mark
  | .scalar m .. | .sequence m _ | .mapping m _ | .alias m .. => m

/-- The plain scalar without text, which stands where a node is left out. -/
def Tree.blank (mark : Mark) : Tree := .scalar mark none true ""

/-- What an anchor names: a node that is being read, known by its place, or a complete one. -/
inductive Anchored where
  | reading (place : Nat)
  | done (t : Tree)

structure ReadState where
  scanner : Scanner
  /-- What tag handles stand for. -/
  handles : List (String × String) := []
  anchors : List (String × Anchored) := []

/-- Reading with a scanner; a text that is no document has no result. -/
abbrev Reading := StateT ReadState Option

namespace Reading

/-- The next token, which stays. -/
def peek : Reading Token := fun st => do
  let (t, scanner) ← st.scanner.peek
  return (t, { st with scanner := scanner })

/-- Takes the next token. -/
def skip : Reading Unit := modify fun st => { st with scanner := st.scanner.drop }

def openAnchor (name? : Option String) (place : Nat) : Reading Unit :=
  match name? with
  | some name => modify fun st => { st with anchors := (name, .reading place) :: st.anchors }
  | none => pure ()

def closeAnchor (name? : Option String) (place : Nat) (t : Tree) : Reading Unit :=
  match name? with
  | some _ => modify fun st =>
    { st with
      anchors := st.anchors.map fun (name, a) =>
        match a with
        | .reading p => (name, if p = place then .done t else a)
        | .done _ => (name, a) }
  | none => pure ()

def aliasTarget (name : String) : Reading (Option Tree) := fun st => do
  match ← st.anchors.lookup name with
  | .reading _ => return (none, st)
  | .done t => return (some t, st)

def expandTag : TagText → Reading String
  | .full tag => pure tag
  | .short handle suffix => fun st => do
    let lead ← st.handles.lookup handle
    return (lead ++ suffix, st)

/-- What precedes the content of a node: an anchor and a tag, in either order. -/
structure Properties where
  anchor : Option String := none
  tag : Option TagText := none

def properties : Reading Properties := do
  match (← peek).kind with
  | .anchor name =>
    skip
    match (← peek).kind with
    | .tag t =>
      skip
      return { anchor := some name, tag := some t }
    | _ => return { anchor := some name }
  | .tag t =>
    skip
    match (← peek).kind with
    | .anchor name =>
      skip
      return { anchor := some name, tag := some t }
    | _ => return { tag := some t }
  | _ => return {}

mutual

/-- Reads a node. Block collections are read only if `block` says so, and a block sequence that is
not indented only if `flush` does. -/
def node : Nat → (block flush : Bool) → Reading Tree
  | 0, _, _ => failure
  | fuel + 1, block, flush => do
    let first ← peek
    match first.kind with
    | .alias name =>
      skip
      return .alias first.mark name (← aliasTarget name)
    | _ =>
      let props ← properties
      let tag ← props.tag.mapM expandTag
      let place := first.mark.index
      openAnchor props.anchor place
      let t ← content fuel block flush first.mark props.anchor.isSome tag
      closeAnchor props.anchor place t
      return t

def content : Nat → (block flush : Bool) → Mark → (named : Bool) → Option String → Reading Tree
  | 0, _, _, _, _, _ => failure
  | fuel + 1, block, flush, mark, named, tag => do
    let t ← peek
    match t.kind with
    | .scalar text plain =>
      skip
      return .scalar mark tag plain text
    | .flowSequenceStart =>
      skip
      return .sequence mark (← flowItems fuel true)
    | .flowMappingStart =>
      skip
      return .mapping mark (← flowEntries fuel true)
    | kind =>
      if flush && kind == .blockEntry then
        return .sequence mark (← flushItems fuel)
      else if block && kind == .blockSequenceStart then
        skip
        return .sequence mark (← blockItems fuel)
      else if block && kind == .blockMappingStart then
        skip
        return .mapping mark (← blockEntries fuel)
      else if named || tag.isSome then return .scalar mark tag true ""
      else failure

/-- Reads a node unless the next token is one of those before which a node is left out. -/
def nodeUnless : Nat → List TokenKind → (block flush : Bool) → Reading Tree
  | 0, _, _, _ => failure
  | fuel + 1, stops, block, flush => do
    let t ← peek
    if stops.contains t.kind then return .blank t.mark else node fuel block flush

def blockItems : Nat → Reading (List Tree)
  | 0 => failure
  | fuel + 1 => do
    match (← peek).kind with
    | .blockEntry =>
      skip
      let item ← nodeUnless fuel [.blockEntry, .blockEnd] true false
      return item :: (← blockItems fuel)
    | .blockEnd =>
      skip
      return []
    | _ => failure

/-- Reads the items of a block sequence that is not indented. -/
def flushItems : Nat → Reading (List Tree)
  | 0 => failure
  | fuel + 1 => do
    match (← peek).kind with
    | .blockEntry =>
      skip
      let item ← nodeUnless fuel [.blockEntry, .key, .value, .blockEnd] true false
      return item :: (← flushItems fuel)
    | _ => return []

def blockEntries : Nat → Reading (List (Tree × Tree))
  | 0 => failure
  | fuel + 1 => do
    match (← peek).kind with
    | .key =>
      skip
      let key ← nodeUnless fuel [.key, .value, .blockEnd] true true
      let t ← peek
      let value ←
        if t.kind == .value then do
          skip
          nodeUnless fuel [.key, .value, .blockEnd] true true
        else pure (.blank t.mark)
      return (key, value) :: (← blockEntries fuel)
    | .blockEnd =>
      skip
      return []
    | _ => failure

/-- Reads the items of a flow sequence; all but the first follow a comma. -/
def flowItems : Nat → (first : Bool) → Reading (List Tree)
  | 0, _ => failure
  | fuel + 1, first => do
    let t ← peek
    if t.kind == .flowSequenceEnd then
      skip
      return []
    unless first do
      if t.kind == .flowEntry then skip else failure
    let t ← peek
    match t.kind with
    | .flowSequenceEnd =>
      skip
      return []
    | .key =>
      skip
      let pair ← flowPair fuel
      return .mapping t.mark [pair] :: (← flowItems fuel false)
    | _ =>
      let item ← node fuel false false
      return item :: (← flowItems fuel false)

/-- Reads a pair that is an item of a flow sequence. -/
def flowPair : Nat → Reading (Tree × Tree)
  | 0 => failure
  | fuel + 1 => do
    let t ← peek
    let key ←
      if [TokenKind.value, .flowEntry, .flowSequenceEnd].contains t.kind then do
        -- the token behind a key that is left out is taken along
        skip
        pure (Tree.blank t.mark)
      else node fuel false false
    let t ← peek
    let value ←
      if t.kind == .value then do
        skip
        nodeUnless fuel [.flowEntry, .flowSequenceEnd] false false
      else pure (.blank t.mark)
    return (key, value)

/-- Reads the entries of a flow mapping; all but the first follow a comma. -/
def flowEntries : Nat → (first : Bool) → Reading (List (Tree × Tree))
  | 0, _ => failure
  | fuel + 1, first => do
    let t ← peek
    if t.kind == .flowMappingEnd then
      skip
      return []
    unless first do
      if t.kind == .flowEntry then skip else failure
    let t ← peek
    match t.kind with
    | .flowMappingEnd =>
      skip
      return []
    | .key =>
      skip
      let key ← nodeUnless fuel [.value, .flowEntry, .flowMappingEnd] false false
      let t ← peek
      let value ←
        if t.kind == .value then do
          skip
          nodeUnless fuel [.flowEntry, .flowMappingEnd] false false
        else pure (.blank t.mark)
      return (key, value) :: (← flowEntries fuel false)
    | _ =>
      let key ← node fuel false false
      let t ← peek
      return (key, .blank t.mark) :: (← flowEntries fuel false)

end

/-! ## Documents -/

/-- The handles that every document has, unless it gives them another meaning. -/
def defaultHandles : List (String × String) := [("!", "!"), ("!!", "tag:yaml.org,2002:")]

/-- Reads the directives of a document, none of which may be given twice. -/
def directives : Nat → (versioned : Bool) → Reading Unit
  | 0, _ => failure
  | fuel + 1, versioned => do
    match (← peek).kind with
    | .version major minor =>
      -- no other version than 1.1 is read
      if versioned || major != 1 || minor != 1 then failure
      skip
      directives fuel true
    | .tagDirective handle lead =>
      if (← get).handles.any (·.1 == handle) then failure
      modify fun st => { st with handles := st.handles ++ [(handle, lead)] }
      skip
      directives fuel versioned
    | _ => pure ()

/-- Whether a token belongs to the frame of a document and not to its content. -/
def isFrame : TokenKind → Bool
  | .version .. | .tagDirective .. | .documentStart | .documentEnd | .streamEnd => true
  | _ => false

def document (fuel : Nat) : Reading (Option Tree) := do
  let t ← peek
  if t.kind == .streamEnd then return none
  let framed := isFrame t.kind && t.kind != .documentEnd
  if framed then directives fuel false
  modify fun st => { st with handles := st.handles ++ defaultHandles }
  let tree ←
    if framed then do
      if (← peek).kind != .documentStart then failure
      skip
      let t ← peek
      if isFrame t.kind then pure (Tree.blank t.mark) else node fuel true false
    else node fuel true false
  -- The end of the document shows in the token behind it.
  discard peek
  return some tree

end Reading

/-- Reads the tree of the first document of a text: `none` if the text is malformed, and
`some none` if it holds no document. -/
def Tree.ofText? (text : List Char) : Option (Option Tree) := do
  let scanner ← Scanner.ofText? text
  let (tree?, _) ← (Reading.document (8 * text.length + 64)).run { scanner := scanner }
  return tree?

end FilterQuery.Yaml
