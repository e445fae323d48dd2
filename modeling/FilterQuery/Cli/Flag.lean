import FilterQuery.Text.Quoted

/-!
# Command line flags

Reads flags and arguments: `--name value`, `--name=value`, clusters of one-letter flags, and two
dashes that end the flags. Flags and arguments may be mixed.
-/

namespace FilterQuery.Cli

structure Flag where
  name : String
  short : Option Char := none
  /-- Whether the flag is switched on by its name alone. -/
  isSwitch : Bool := false
deriving DecidableEq, Repr

def Flag.shown (f : Flag) : String :=
  match f.short with
  | some c => "-" ++ c.toString ++ ", --" ++ f.name
  | none => "--" ++ f.name

inductive FlagError where
  | malformed (arg : String)
  | unknown (name : String)
  | unknownShort (c : Char) (cluster : String)
  /-- The flag stands last and has no value. -/
  | noValue (shown : String)
  | badSwitch (value : String) (flag : Flag)
deriving DecidableEq, Repr

def FlagError.message : FlagError → String
  | .malformed arg => "bad flag syntax: " ++ arg
  | .unknown name => "unknown flag: --" ++ name
  | .unknownShort c cluster =>
    "unknown shorthand flag: " ++ Quoted.quoteChar c ++ " in -" ++ cluster
  | .noValue shown => "flag needs an argument: " ++ shown
  | .badSwitch value flag =>
    "invalid argument " ++ Quoted.quote value ++ " for " ++ Quoted.quote flag.shown ++
      " flag: strconv.ParseBool: parsing " ++ Quoted.quote value ++ ": invalid syntax"

structure Parsed where
  /-- The flags with their values, the last one first. -/
  flags : List (String × String) := []
  args : List String := []
deriving DecidableEq, Repr

namespace Parsed

def value? (p : Parsed) (name : String) : Option String := p.flags.lookup name

def isOn (p : Parsed) (name : String) : Bool := p.value? name == some "true"

end Parsed

/-- The truth value that a word stands for. -/
def switchValue? (s : String) : Option Bool :=
  if ["1", "t", "T", "TRUE", "true", "True"].contains s then some true
  else if ["0", "f", "F", "FALSE", "false", "False"].contains s then some false
  else none

def Parsed.set (p : Parsed) (f : Flag) (value : String) : Except FlagError Parsed :=
  if f.isSwitch then
    match switchValue? value with
    | some b => .ok { p with flags := (f.name, if b then "true" else "false") :: p.flags }
    | none => .error (.badSwitch value f)
  else .ok { p with flags := (f.name, value) :: p.flags }

/-- A flag that waits for its value, with the text by which messages name it. -/
abbrev Waiting := Option (Flag × String)

/-- The character that messages name for the first byte of a character. -/
def leadByte (c : Char) : Char :=
  match Utf8.encode c.toString with
  | b :: _ => Char.ofNat b.toNat
  | [] => c

def readCluster (flags : List Flag) (p : Parsed) : List Char → Except FlagError (Parsed × Waiting)
  | [] => .ok (p, none)
  | c :: cs =>
    match flags.find? (·.short == some c) with
    | none => .error (.unknownShort (leadByte c) (String.ofList (c :: cs)))
    | some f =>
      match f.isSwitch, cs with
      | _, '=' :: v :: vs => do return (← p.set f (String.ofList (v :: vs)), none)
      | true, cs => do readCluster flags (← p.set f "true") cs
      | false, [] => .ok (p, some (f, Quoted.quoteChar c ++ " in -" ++ c.toString))
      | false, cs => do return (← p.set f (String.ofList cs), none)

def readLong (flags : List Flag) (p : Parsed) (body : List Char) :
    Except FlagError (Parsed × Waiting) :=
  let name := String.ofList (body.takeWhile (· != '='))
  if name.isEmpty || body.head? == some '-' then .error (.malformed ("--" ++ String.ofList body))
  else match flags.find? (·.name == name) with
    | none => .error (.unknown name)
    | some f =>
      match body.dropWhile (· != '=') with
      | _ :: value => do return (← p.set f (String.ofList value), none)
      | [] =>
        if f.isSwitch then do return (← p.set f "true", none)
        else .ok (p, some (f, "--" ++ name))

/-- Reads arguments behind what was read before. -/
def parseFrom (flags : List Flag) : Waiting → Parsed → List String → Except FlagError Parsed
  | none, p, [] => .ok p
  | some (_, shown), _, [] => .error (.noValue shown)
  | some (f, _), p, value :: rest => do parseFrom flags none (← p.set f value) rest
  | none, p, arg :: rest =>
    match arg.toList with
    | ['-', '-'] => .ok { p with args := p.args ++ rest }
    | '-' :: '-' :: body => do
      let (p, waiting) ← readLong flags p body
      parseFrom flags waiting p rest
    | '-' :: c :: cs => do
      let (p, waiting) ← readCluster flags p (c :: cs)
      parseFrom flags waiting p rest
    | _ => parseFrom flags none { p with args := p.args ++ [arg] } rest

def parse (flags : List Flag) (args : List String) : Except FlagError Parsed :=
  parseFrom flags none {} args

end FilterQuery.Cli
