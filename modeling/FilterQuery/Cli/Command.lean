import FilterQuery.Cli.Flag

/-!
# Commands

The commands of the program, their flags, and how the command is found among the arguments: flags
may stand before it.
-/

namespace FilterQuery.Cli

inductive Command where
  /-- Print a query as SQL. -/
  | sql
  /-- Print a query as a search command. -/
  | search
  /-- Print the records that match a query. -/
  | filter
  /-- Say whether a query is valid. -/
  | check
deriving DecidableEq, Repr

namespace Command

def name : Command → String
  | .sql => "sql"
  | .search => "search"
  | .filter => "match"
  | .check => "check"

def list : List Command := [.sql, .search, .filter, .check]

def ofName? (name : String) : Option Command := list.find? (·.name == name)

end Command

def programName : String := "criterium"

def commonFlags : List Flag :=
  [⟨"verbose", some 'v', true⟩, ⟨"config", none, false⟩, ⟨"format", none, false⟩]

def helpFlag : Flag := ⟨"help", some 'h', true⟩

def Command.ownFlags : Command → List Flag
  | .sql => [⟨"style", none, false⟩, ⟨"base", none, false⟩]
  | .search => [⟨"index", none, false⟩]
  | .filter => [⟨"data", none, false⟩]
  | .check => []

def Command.flags (c : Command) : List Flag := c.ownFlags ++ helpFlag :: commonFlags

/-! ## Finding the command -/

/-- Whether the argument behind this one is its value. -/
def takesNext (arg : String) : Bool :=
  match arg.toList with
  -- a flag that is not known is taken to have one
  | '-' :: '-' :: body =>
    !body.contains '=' &&
      !commonFlags.any fun f => f.isSwitch && f.name == String.ofList body
  | ['-', c] =>
    c.toNat < 0x80 && c != '=' && !commonFlags.any fun f => f.isSwitch && f.short == some c
  | _ => false

def isDashed (arg : String) : Bool := arg.toList.head? == some '-'

/-- The arguments that are neither flags nor their values. -/
def words : List String → List String
  | [] => []
  | arg :: rest =>
    if arg == "--" then []
    else if takesNext arg then
      match rest with
      | _ :: next :: more => words (next :: more)
      -- a flag with a single argument behind it ends the search
      | _ => []
    else if arg.isEmpty || isDashed arg then words rest
    else arg :: words rest

/-- The arguments without the first one that is the given word. -/
def withoutWord (word : String) : List String → List String
  | [] => []
  | arg :: rest =>
    if arg == "--" then arg :: rest
    else if takesNext arg then
      match rest with
      | value :: more => arg :: value :: withoutWord word more
      | [] => [arg]
    else if arg == word then rest
    else arg :: withoutWord word rest

inductive Request where
  /-- A command with the rest of the arguments. -/
  | run (c : Command) (args : List String)
  /-- Help about a topic, or the start of a shell completion. -/
  | info
  /-- No command at all. -/
  | bare (args : List String)
  | unknown (word : String)
deriving DecidableEq, Repr

/-- Finds the command among the arguments. -/
def Request.ofArgs (args : List String) : Request :=
  match words args with
  | [] => .bare args
  | word :: _ =>
    match Command.ofName? word with
    | some c => .run c (withoutWord word args)
    | none => if word == "help" || word == "completion" then .info else .unknown word

/-! ## Suggestions -/

/-- The next row of the table of edit distances, for one more character `a`; `diagonal` and `left`
are the neighbours of its next cell. -/
def distanceRow (a : UInt8) : Nat → Nat → List UInt8 → List Nat → List Nat
  | diagonal, left, b :: bs, up :: ups =>
    let cell := min (min (left + 1) (up + 1)) (if a == b then diagonal else diagonal + 1)
    cell :: distanceRow a up cell bs ups
  | _, _, _, _ => []

def editDistance (as bs : List UInt8) : Nat :=
  let start := List.range (bs.length + 1)
  let last := as.foldl (fun row a =>
    match row with
    | first :: ups => (first + 1) :: distanceRow a first (first + 1) bs ups
    | [] => []) start
  last.getLast?.getD 0

/-- Whether a word may have been meant for a name: at most two letters differ, or it is a
beginning of the name. -/
def suggests (word name : String) : Bool :=
  let w := Utf8.encode word.toLower
  let n := Utf8.encode name.toLower
  editDistance w n ≤ 2 || w.isPrefixOf n

/-- The names that a word may have been meant for. -/
def suggestions (word : String) : List String :=
  (Command.list.map Command.name ++ ["completion"]).filter (suggests word)

inductive UsageError where
  | flag (e : FlagError)
  | unknownCommand (word : String)
  | argumentCount (expected received : Nat)
deriving DecidableEq, Repr

def UsageError.message : UsageError → String
  | .flag e => e.message
  | .unknownCommand word =>
    let hint := match suggestions word with
      | [] => ""
      | names => "\n\nDid you mean this?\n" ++ String.join (names.map fun n => "\t" ++ n ++ "\n")
    "unknown command " ++ Quoted.quote word ++ " for " ++ Quoted.quote programName ++ hint
  | .argumentCount expected received =>
    "accepts " ++ toString expected ++ " arg(s), received " ++ toString received

structure Call where
  command : Command
  flags : Parsed
  /-- Where the query stands. -/
  path : String

/-- Reads a call from the arguments; there is none if help is asked for. -/
def Call.ofArgs (args : List String) : Except UsageError (Option Call) :=
  match Request.ofArgs args with
  | .unknown word => .error (.unknownCommand word)
  | .info => .ok none
  | .bare args =>
    match parse (helpFlag :: commonFlags) args with
    | .ok _ => .ok none
    | .error e => .error (.flag e)
  | .run c args =>
    match parse c.flags args with
    | .error e => .error (.flag e)
    | .ok p =>
      if p.isOn "help" then .ok none
      else match p.args with
        | [path] => .ok (some ⟨c, p, path⟩)
        | paths => .error (.argumentCount 1 paths.length)

end FilterQuery.Cli
