import FilterQuery.Numeric.DecimalText
import FilterQuery.Value.Basic

/-!
# Values in messages

The text by which messages show a value: lists in brackets, maps with their keys in order, records
in braces, and a reference to one of these with an ampersand in front.
-/

namespace FilterQuery

namespace Value

def spaced (texts : List String) : String := String.intercalate " " texts

mutual

/-- The text of a value inside of another one, which may be behind a hidden field. -/
def innerText (hidden : Bool) : Value → String
  | .null => "<nil>"
  | .bool b => if b then "true" else "false"
  | .text s | .numeral s => s
  | .rawText bs => String.ofList (Utf8.decodeLossy bs)
  | .int n => toString n.val
  | .double x => x.general .message .double
  | .single x => x.general .message .single
  | .time t =>
    if hidden then "\x7b" ++ spaced (t.words.map toString ++ ["<nil>"]) ++ "\x7d" else t.display
  | .regex re => re.source
  | .bytes bs => "[" ++ spaced (bs.map fun b => toString b.toNat) ++ "]"
  | .list _ items | .array _ items | .sequenceNode items =>
    "[" ++ spaced (itemTexts hidden items) ++ "]"
  | .mappingNode es => "[" ++ spaced (entryNodeTexts hidden es) ++ "]"
  | .object _ es => "map[" ++ spaced (entryTexts hidden es) ++ "]"
  | .intMap | .nilOf (.map _) => "map[]"
  | .nilOf (.list _) => "[]"
  | .nilOf _ => "<nil>"
  | .record fields => "\x7b" ++ spaced (fieldTexts hidden fields) ++ "\x7d"
  | .sealed _ => "\x7b\x7d"
  | .scalarNode v => "\x7b" ++ v.innerText hidden ++ "\x7d"
  | .entryNode k v => "\x7b" ++ k ++ " " ++ v.innerText hidden ++ "\x7d"
  | .ref t _ => "*" ++ t.name
  | .func => Ty.func.name
  | .undefined | .defined _ => Ty.getter.name

def itemTexts (hidden : Bool) : List Value → List String
  | [] => []
  | v :: vs => v.innerText hidden :: itemTexts hidden vs

def entryTexts (hidden : Bool) : List (String × Value) → List String
  | [] => []
  | (k, v) :: es => (k ++ ":" ++ v.innerText hidden) :: entryTexts hidden es

def entryNodeTexts (hidden : Bool) : List (String × Value) → List String
  | [] => []
  | (k, v) :: es =>
    ("\x7b" ++ k ++ " " ++ v.innerText hidden ++ "\x7d") :: entryNodeTexts hidden es

/-- The texts of record fields, hidden ones included. -/
def fieldTexts (hidden : Bool) : List (Field Ty × Value) → List String
  | [] => []
  | (f, v) :: fs => v.innerText (hidden || !f.isExported) :: fieldTexts hidden fs

end

def isComposite : Value → Bool
  | .list .. | .array .. | .bytes _ | .object .. | .intMap | .record _ | .sealed _
  | .sequenceNode _ | .mappingNode _ | .scalarNode _ | .entryNode .. => true
  | _ => false

/-- The text by which messages show a value. -/
def display : Value → String
  | .ref t v =>
    match v with
    | .time _ | .numeral _ => v.innerText false
    | v => if v.isComposite && !t.isAny then "&" ++ v.innerText false else "*" ++ t.name
  | .undefined => "&\x7b<nil> false\x7d"
  | .defined v => "&\x7b" ++ v.innerText true ++ " true\x7d"
  | v => v.innerText false

end Value

end FilterQuery
