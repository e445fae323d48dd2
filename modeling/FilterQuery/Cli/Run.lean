import FilterQuery.Cli.Command
import FilterQuery.Compile.Log
import FilterQuery.Config.Settings
import FilterQuery.Query.Querier
import FilterQuery.Search.Command
import FilterQuery.Sql.Statement
import FilterQuery.Value.JsonText

/-!
# Carrying out commands

`Cli.run` is a function of everything that a command looks at, the `Surroundings`, to what it
leaves behind, the `Output`. Lines that were printed before an error stay printed.
-/

namespace FilterQuery.Cli

/-- What a command looks at. -/
structure Surroundings where
  args : List String
  stdin : List UInt8 := []
  /-- The content of a file. -/
  file? : String → Option (List UInt8) := fun _ => none
  /-- The value of an environment variable. -/
  env? : String → Option String := fun _ => none
  /-- Whether the command is called off. -/
  canceled : Bool := false
  /-- The name of a compilation in the log. -/
  compileId : String := ""

inductive Error where
  | usage (e : UsageError)
  | config (e : Config.Error)
  | style (e : Sql.Style.Unknown)
  | format (e : Format.Unknown)
  | missingFile (path : String)
  | read (e : ReadError)
  /-- A line of the records is no document. -/
  | record (line : Nat) (e : ReadError)
  /-- Query and records cannot both come from the standard input. -/
  | inputTwice
  | noIndex
  | compile (e : CompileError)
  | query (e : QueryError Incomparable)
  | encode (e : EncodeError)
  /-- The arguments of a statement cannot be written. -/
  | encodeArguments (e : EncodeError)

def Error.message : Error → String
  | .usage e => e.message
  | .config e => e.message
  | .style e => e.message
  | .format e => e.message
  | .missingFile path => "open " ++ path ++ ": no such file or directory"
  | .read e => e.message
  | .record line e => "line " ++ toString line ++ ": " ++ e.message
  | .inputTwice => "query and data cannot both be read from stdin"
  | .noIndex => "no index given, use --index or CRITERIUM_SEARCH_INDEX"
  | .compile e => e.message
  | .query e => e.message Incomparable.message
  | .encode e => e.message
  | .encodeArguments e => "encoding arguments: " ++ e.message

structure Output where
  /-- What is printed, as bytes; each of it ends a line. -/
  lines : List (List UInt8) := []
  log : List LogEntry := []

abbrev Job := ExceptT Error (StateM Output)

namespace Job

def printLine (line : List UInt8) : Job Unit :=
  modify fun o => { o with lines := o.lines ++ [line] }

def print (text : String) : Job Unit := printLine (Utf8.encode text)

def note (entries : List LogEntry) : Job Unit := modify fun o => { o with log := o.log ++ entries }

/-- The value of a computation, or its error. -/
def lift {ε α : Type} (wrap : ε → Error) : Except ε α → Job α
  | .ok a => return a
  | .error e => throw (wrap e)

end Job

/-! ## Input -/

def loadSettings (w : Surroundings) (flags : Parsed) : Job Config.Settings := do
  let path := (flags.value? "config").getD ""
  let file ← if path = "" then pure []
    else Job.lift (fun e => .config (.file e)) (Config.readFile w.env? path (w.file? path))
  let sources : Config.Sources := ⟨flags.value?, w.env?, file⟩
  let settings ← Job.lift (fun fs => .config (.faults fs)) sources.settings
  Job.note [⟨"configuration loaded", [("file", path)]⟩]
  return settings

/-- The content of a file, or of the standard input for a dash. -/
def open? (w : Surroundings) (path : String) : Option (List UInt8) :=
  if path = "-" then some w.stdin else w.file? path

/-- The format of a query: as the flag says, or else as its file name shows. -/
def queryFormat (flags : Parsed) (path : String) : Except Format.Unknown Format :=
  match flags.value? "format" with
  | some "" | none => .ok (if path = "-" then .json else .ofPath path)
  | some name => Format.ofName name

def readQuery (w : Surroundings) (c : Call) : Job Node := do
  let format ← Job.lift .format (queryFormat c.flags c.path)
  let some bytes := open? w c.path | throw (.missingFile c.path)
  Job.note [⟨"reading query", [("path", c.path), ("format", format.name)]⟩]
  Job.lift .read (Node.readUnless w.canceled format bytes)

/-- The lines of a text behind the start of a line, which is kept backwards. -/
def linesFrom (start : List UInt8) : List UInt8 → List (List UInt8)
  | [] => if start.isEmpty then [] else [start.reverse]
  | b :: bs => if b = 0x0A then start.reverse :: linesFrom [] bs else linesFrom (b :: start) bs

/-- A line without the carriage return at its end. -/
def dropReturn (line : List UInt8) : List UInt8 :=
  if line.getLast? = some 0x0D then line.dropLast else line

/-- The lines of a text; a text that ends with a line break has no line behind it. -/
def lines (bytes : List UInt8) : List (List UInt8) := (linesFrom [] bytes).map dropReturn

/-- Reads records, one from each line that is not empty; the first line has the given number. -/
def readRecords : Nat → List (List UInt8) → Except Error (List Value)
  | _, [] => .ok []
  | number, line :: rest =>
    if line.isEmpty then readRecords (number + 1) rest
    else match Node.ofJson line with
      | .error e => .error (.record number e)
      | .ok n => do return n.plain :: (← readRecords (number + 1) rest)

/-! ## Commands -/

/-- The log of the compilation of a query, if its modifiers let it come to one. -/
def compileLog {σ α β : Type} (w : Surroundings) (c : Compiler σ α β) (query : Node) :
    List LogEntry :=
  match query.split with
  | .ok (filter, _) => (c.run w.compileId filter).log
  | .error _ => []

def runSql (w : Surroundings) (c : Call) (s : Config.Settings) : Job Unit := do
  let style ← Job.lift .style (Sql.Style.ofName s.style)
  let query ← readQuery w c
  let compiler := Sql.compiler style
  Job.note (compileLog w compiler query)
  let statement ← Job.lift .compile (Sql.select style compiler s.base query {})
  let args ← Job.lift .encodeArguments (Value.anyList statement.args).jsonText
  Job.print (String.ofList (Unicode.trimSpace statement.text.toList))
  Job.print args

/-- A word of a search command, quoted if it is empty or has a blank, a quote or a backslash. -/
def shellWord (word : List UInt8) : List UInt8 :=
  if word.isEmpty || word.any [0x20, 0x22, 0x27, 0x5C].contains then
    Utf8.encode (Quoted.quoteBytes word)
  else word

def runSearch (w : Surroundings) (c : Call) (s : Config.Settings) : Job Unit := do
  if s.index = "" then throw .noIndex
  let query ← readQuery w c
  Job.note (compileLog w Search.compiler query)
  let command ← Job.lift .compile (Search.command Search.compiler s.index query {})
  Job.printLine ([0x20].intercalate (command.args.map shellWord))

def printAll : List Value → Job Unit
  | [] => return
  | v :: vs => do
    Job.print (← Job.lift .encode v.jsonText)
    printAll vs

def runFilter (w : Surroundings) (c : Call) : Job Unit := do
  let data := (c.flags.value? "data").getD "-"
  if c.path = "-" ∧ data = "-" then throw .inputTwice
  let query ← readQuery w c
  let some bytes := open? w data | throw (.missingFile data)
  let items ← Job.lift id (readRecords 1 (lines bytes))
  Job.note [⟨"records loaded", [("count", toString items.length)]⟩]
  let querier : Querier Incomparable := { engine := .standard }
  Job.note (compileLog w querier.compiler query)
  printAll (← Job.lift .query (querier.query items query {}))

def runCheck (w : Surroundings) (c : Call) : Job Unit := do
  let query ← readQuery w c
  let compiler := Predicate.compiler Engine.standard
  let (filter, _) ← Job.lift (fun v => .compile (.violation v)) query.split
  Job.note (compileLog w compiler query)
  discard (Job.lift .compile (compiler.compile filter))
  Job.print "valid"

def runCall (w : Surroundings) (c : Call) : Job Unit := do
  let settings ← loadSettings w c.flags
  match c.command with
  | .sql => runSql w c settings
  | .search => runSearch w c settings
  | .filter => runFilter w c
  | .check => runCheck w c

def usage : List String := [
  "Compile filter queries into SQL statements, search commands or in-memory matches.",
  "",
  "Usage:",
  "  criterium [flags] sql|search|match|check [flags] <query>",
  "",
  "Queries are read from a JSON or YAML file, or from stdin when the path is \"-\"."]

structure Result where
  output : Output
  error : Option Error

def run (w : Surroundings) : Result :=
  match Call.ofArgs w.args with
  | .error e => ⟨{}, some (.usage e)⟩
  | .ok none => ⟨{ lines := usage.map Utf8.encode }, none⟩
  | .ok (some c) =>
    let (result, output) := (runCall w c).run.run {}
    -- the log is shown only if that is asked for
    let output := if c.flags.isOn "verbose" then output else { output with log := [] }
    match result with
    | .ok _ => ⟨output, none⟩
    | .error e => ⟨output, some e⟩

end FilterQuery.Cli
