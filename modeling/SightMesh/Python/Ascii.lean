import Mathlib.Data.List.Sort
import SightMesh.Python.Value

/-! Python on ASCII texts without dates. -/
namespace Python

mutual

/-- `json.dumps` with sorted keys and compact separators, of texts that need no escape. -/
def jsonText : Json → String
  | .null => "null"
  | .bool b => if b then "true" else "false"
  | .num (.int n) => toString n
  | .num (.finite q) => toString q
  | .num .nan => "NaN"
  | .num (.infinity negative) => if negative then "-Infinity" else "Infinity"
  | .str s => "\"" ++ s ++ "\""
  | .arr items => "[" ++ String.intercalate "," (jsonTexts items) ++ "]"
  | .obj fields => "\x7b" ++ String.intercalate "," (((jsonFields fields).insertionSort
      fun a b => a.1 ≤ b.1).map fun p => "\"" ++ p.1 ++ "\":" ++ p.2) ++ "\x7d"

def jsonTexts : List Json → List String
  | [] => []
  | value :: rest => jsonText value :: jsonTexts rest

def jsonFields : List (String × Json) → List (String × String)
  | [] => []
  | (name, value) :: rest => (name, jsonText value) :: jsonFields rest

end

def asciiLibrary : Library where
  fromisoformat _ := none
  strip s := String.ofList
    (((s.toList.dropWhile Char.isWhitespace).reverse.dropWhile Char.isWhitespace).reverse)
  lower s := String.ofList (s.toList.map Char.toLower)
  repr value := match value with
    | .null => "None"
    | .bool b => if b then "True" else "False"
    | value => jsonText value
  float value := match value with
    | .num n => some n
    | .bool b => some (.int (if b then 1 else 0))
    | _ => none
  dumps := jsonText
  sha256 s := s

end Python
