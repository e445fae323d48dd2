import FilterQuery.Cli.Run

/-!
# The program

Hands the arguments, the standard input, the files and the environment to `Cli.run`, and writes
what it leaves behind.
-/

namespace FilterQuery.Cli

/-- All bytes up to the end of a stream. -/
partial def readAll (stream : IO.FS.Stream) (before : ByteArray) : IO ByteArray := do
  let chunk ← stream.read 65536
  if chunk.isEmpty then return before else readAll stream (before ++ chunk)

def readFile? (path : String) : IO (Option (List UInt8)) := do
  try
    return some (← IO.FS.readBinFile path).data.toList
  catch _ => return none

def filesOf (args : List String) : List String :=
  match Call.ofArgs args with
  | .ok (some c) =>
    c.path :: (c.flags.flags.filter fun f => f.1 == "config" || f.1 == "data").map (·.2)
  | _ => []

def readsInput (args : List String) : Bool :=
  match Call.ofArgs args with
  | .ok (some c) =>
    c.path == "-" || (c.command == .filter && (c.flags.value? "data").getD "-" == "-")
  | _ => false

def settingVariables : List String :=
  Config.sections.map Config.sectionVariable ++ Config.Key.list.map Config.Key.variable

/-- The environment variables that the assignments in files may refer to. -/
def mentionedVariables (files : List (String × Option (List UInt8))) : List String :=
  files.flatMap fun (path, content?) =>
    if ["dotenv", "env"].contains (Config.fileKind path) then
      Config.Dotenv.mentioned (content?.getD [])
    else []

/-- An identifier of random hexadecimal digits in five groups. -/
def freshId : IO String := do
  let digits := (← IO.getRandomBytes 16).data.toList.flatMap fun b => Quoted.hex 2 b.toNat
  let groups := [(0, 8), (8, 4), (12, 4), (16, 4), (20, 12)].map fun (start, size) =>
    String.ofList ((digits.drop start).take size)
  return String.intercalate "-" groups

end FilterQuery.Cli

open FilterQuery FilterQuery.Cli in
/-- Runs the program; the exit code is one if a command fails. -/
def main (args : List String) : IO UInt32 := do
  let files ← (filesOf args).mapM fun path => return (path, ← readFile? path)
  let wanted := settingVariables ++ mentionedVariables files
  let env ← wanted.mapM fun name => return (name, ← IO.getEnv name)
  let stdin ← if readsInput args then readAll (← IO.getStdin) .empty else pure .empty
  let result := run {
    args := args
    stdin := stdin.data.toList
    file? := fun path => (files.lookup path).join
    env? := fun name => (env.lookup name).join
    compileId := ← freshId }
  for entry in result.output.log do
    IO.eprintln entry.line
  let stdout ← IO.getStdout
  for line in result.output.lines do
    stdout.write ⟨(line ++ [0x0A]).toArray⟩
  match result.error with
  | none => return 0
  | some e =>
    IO.eprintln ("error: " ++ e.message)
    return 1
