import FilterQuery.Document.Json
import FilterQuery.Document.Yaml

/-!
# Document formats

The two text formats of documents, by name, by file name, and reading in either.
-/

namespace FilterQuery

inductive Format where
  | json
  | yaml
deriving DecidableEq, Repr

namespace Format

def name : Format → String
  | .json => "json"
  | .yaml => "yaml"

structure Unknown where
  name : String
deriving DecidableEq, Repr

def Unknown.message (e : Unknown) : String := "unknown format " ++ Quoted.quote e.name

/-- The format with a name, in letters of either case. -/
def ofName (s : String) : Except Unknown Format :=
  match s.toLower with
  | "" | "json" => .ok .json
  | "yaml" | "yml" => .ok .yaml
  | _ => .error ⟨s⟩

/-- The extension of the last part of a file path, with its dot, or nothing. -/
def extension (path : String) : String :=
  let last := path.toList.reverse.takeWhile (· != '/')
  match last.span (· != '.') with
  | (ext, '.' :: _) => String.ofList ('.' :: ext.reverse)
  | _ => ""

/-- The format that a file path shows by its extension; JSON unless it is one of YAML. -/
def ofPath (path : String) : Format :=
  match (extension path).toLower with
  | ".yaml" | ".yml" => .yaml
  | _ => .json

end Format

def Node.read (format : Format) (bytes : List UInt8) : Except ReadError Node :=
  match format with
  | .json => Node.ofJson bytes
  | .yaml => Node.ofYaml bytes

def Node.readUnless (canceled : Bool) (format : Format) (bytes : List UInt8) :
    Except ReadError Node :=
  if canceled then .error .canceled else Node.read format bytes

end FilterQuery
