import FilterQuery.Config.Dotenv
import FilterQuery.Config.Json
import FilterQuery.Config.Toml
import FilterQuery.Config.Yaml
import FilterQuery.Decode.Source
import FilterQuery.Document.Format
import FilterQuery.Numeric.DecimalText

/-!
# Settings

Each setting has a key, which is a section and a name in it. Its value is taken from the first of
these that has one: the flag, the environment, the configuration file, the default.
-/

namespace FilterQuery.Config

/-! ## Configuration files -/

inductive FileError where
  | unsupported (kind : String)
  | missing (path : String)
  | json (e : JsonError)
  | yaml
  | toml (e : TomlError)
  | dotenv (e : DotenvError)
  /-- The kind is known, but there is no reader for it. -/
  | noReader
deriving DecidableEq, Repr

def FileError.message : FileError → String
  | .unsupported kind => "Unsupported Config Type " ++ Quoted.quote kind
  | .missing path => "open " ++ path ++ ": no such file or directory"
  | .json e => "While parsing config: " ++ e.message
  | .yaml => "While parsing config: malformed document"
  | .toml e => "While parsing config: " ++ e.message
  | .dotenv e => "While parsing config: " ++ e.message
  | .noReader => "While parsing config: decoder not found for this format"

def fileKinds : List String :=
  ["json", "toml", "yaml", "yml", "properties", "props", "prop", "hcl", "tfvars", "dotenv", "env",
    "ini"]

/-- The kind of a configuration file: its extension without the dot. -/
def fileKind (path : String) : String := String.ofList ((Format.extension path).toList.drop 1)

/-- The small letter of a character. Beside the capital letters of ASCII, only the dotted capital I
and the sign of the kelvin have a small letter that a key can have. -/
def lowerChar (c : Char) : Char :=
  if c = '\u0130' then 'i' else if c = '\u212A' then 'k' else c.toLower

def lowerKey (key : String) : String := String.ofList (key.toList.map lowerChar)

mutual

/-- A value in which the keys of maps have small letters. -/
def lowerKeys : Value → Value
  | .object t es => .object t (Value.sortEntries (lowerEntries es))
  | v => v

def lowerEntries : List (String × Value) → List (String × Value)
  | [] => []
  | (k, v) :: es => (lowerKey k, lowerKeys v) :: lowerEntries es

end

def readFile (env? : String → Option String) (path : String) (content : Option (List UInt8)) :
    Except FileError (List (String × Value)) := do
  let kind := fileKind path
  unless fileKinds.contains kind do throw (.unsupported kind)
  let some bytes := content | throw (.missing path)
  match kind with
  | "json" => return lowerEntries (← (ofJson bytes).mapError .json)
  | "yaml" | "yml" =>
    match ofYaml? bytes with
    | some es => return lowerEntries es
    | none => throw .yaml
  | "toml" => return lowerEntries (← (ofToml bytes).mapError .toml)
  -- the values of variables may refer to the environment
  | "dotenv" | "env" => return lowerEntries (← (ofDotenv env? bytes).mapError .dotenv)
  | _ => throw .noReader

/-! ## Keys -/

inductive Key where
  | sqlStyle
  | sqlBase
  | searchIndex
deriving DecidableEq, Repr

namespace Key

/-- Every key, in the order in which settings are checked. -/
def list : List Key := [.sqlStyle, .sqlBase, .searchIndex]

def sectionName : Key → String
  | .sqlStyle | .sqlBase => "sql"
  | .searchIndex => "search"

def name : Key → String
  | .sqlStyle => "style"
  | .sqlBase => "base"
  | .searchIndex => "index"

/-- The name of a key in messages. -/
def path (k : Key) : String := k.sectionName ++ "." ++ k.name

def flag (k : Key) : String := k.name

def default : Key → String
  | .sqlStyle => "question"
  | .sqlBase | .searchIndex => ""

end Key

def sections : List String := ["sql", "search"]

/-- What the environment variables of the program start with. -/
def envStart : String := "CRITERIUM"

def sectionVariable (sectionName : String) : String := envStart ++ "_" ++ sectionName.toUpper

def Key.variable (k : Key) : String := sectionVariable k.sectionName ++ "_" ++ k.name.toUpper

/-! ## Sources -/

structure Sources where
  /-- The flags that are given. -/
  flag? : String → Option String
  /-- The environment. -/
  env? : String → Option String
  /-- The entries of the configuration file. -/
  file : List (String × Value)

namespace Sources

/-- A variable of the environment; an empty one is as good as none. -/
def envText? (s : Sources) (name : String) : Option String := (s.env? name).filter (· != "")

/-- An entry, unless it is null. -/
def entry? (key : String) (es : List (String × Value)) : Option Value :=
  (es.lookup key).filter fun v => !v.isNull

/-- The value of a key in the configuration file: under both names with a dot between, or in the
section. -/
def fileValue? (s : Sources) (k : Key) : Option Value :=
  entry? k.path s.file <|>
    match entry? k.sectionName s.file with
    | some (.object _ es) => entry? k.name es
    | _ => none

/-- The value that the configuration file has instead of a section. -/
def misplaced? (s : Sources) (sectionName : String) : Option Value :=
  match entry? sectionName s.file with
  | some (.object ..) | none => none
  | some v => some v

/-- The value of a key: of its flag, its variable, the configuration file, or else its default. -/
def value? (s : Sources) (k : Key) : Option Value :=
  match s.flag? k.flag with
  | some v => some (.text v)
  | none =>
    match s.envText? k.variable with
    | some v => some (.text v)
    | none =>
      -- what has the name of the whole section hides all that would come next
      if (s.envText? (sectionVariable k.sectionName)).isSome then none
      else match s.fileValue? k with
        | some v => some v
        | none => if (s.misplaced? k.sectionName).isSome then none else some (.text k.default)

end Sources

/-! ## Settings -/

inductive Fault where
  /-- A section that is no map. -/
  | notSection (name kind : String)
  /-- A value that has no text. -/
  | notText (path typeName : String)
deriving DecidableEq, Repr

def Fault.message : Fault → String
  | .notSection name kind => "'" ++ name ++ "' expected a map or struct, got " ++ Quoted.quote kind
  | .notText path typeName =>
    "'" ++ path ++ "' expected type 'string', got unconvertible type '" ++ typeName ++ "'"

def scalarText? : Value → Option String
  | .text s => some s
  | .rawText bs => some (String.ofList (Utf8.decodeLossy bs))
  | .bool b => some (if b then "1" else "0")
  | .int n => some (toString n.val)
  | .double x => some (x.positional .double)
  | _ => none

structure Settings where
  style : String
  base : String
  index : String
deriving DecidableEq, Repr

def Sources.text (s : Sources) (k : Key) : Except Fault String :=
  match s.value? k with
  | none => .ok ""
  | some v =>
    match scalarText? v with
    | some t => .ok t
    | none => .error (.notText k.path v.typeName)

def Sources.sectionFaults (s : Sources) (sectionName : String) : List Fault :=
  match s.misplaced? sectionName with
  -- dates and times are taken for sections without settings
  | some (.time _) | some (.sealed _) => []
  | some v => [.notSection sectionName v.type.kindName]
  | none =>
    (Key.list.filter (·.sectionName == sectionName)).filterMap fun k =>
      match s.text k with
      | .ok _ => none
      | .error f => some f

/-- The settings, or everything that is wrong with them. -/
def Sources.settings (s : Sources) : Except (List Fault) Settings :=
  let text k := (s.text k).toOption.getD ""
  match sections.flatMap s.sectionFaults with
  | [] => .ok ⟨text .sqlStyle, text .sqlBase, text .searchIndex⟩
  | faults => .error faults

inductive Error where
  | file (e : FileError)
  | faults (fs : List Fault)
deriving DecidableEq, Repr

def Error.message : Error → String
  | .file e => "reading config: " ++ e.message
  | .faults fs =>
    "failed to unmarshal config: decoding failed due to the following error(s):\n\n" ++
      String.intercalate "\n" (fs.map Fault.message)

end FilterQuery.Config
