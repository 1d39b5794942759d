import AbiTypings.Json.Basic
import AbiTypings.Numeric.Shortest
import AbiTypings.Text.Quoted

/-!
# The text of a value

How a value is shown inside messages and generated documents. A text by itself is shown bare; inside
a sequence or an object it is quoted.
-/

namespace AbiTypings.Json

mutual

/-- The text of a value, with quotes around texts. -/
def quoted : Json → Text
  | null => "None"
  | bool b => if b then "True" else "False"
  | int n => toString n
  | float x => x.text
  | str s => Text.quote s
  | arr items => "[" ++ Text.intercalate ", " (quotedItems items) ++ "]"
  | obj members => "\x7b" ++ Text.intercalate ", " (quotedMembers members) ++ "\x7d"

def quotedItems : List Json → List Text
  | [] => []
  | v :: vs => quoted v :: quotedItems vs

def quotedMembers : List (Text × Json) → List Text
  | [] => []
  | (k, v) :: ms => (Text.quote k ++ ": " ++ quoted v) :: quotedMembers ms

end

/-- The text of a value, bare if it is a text itself. -/
def display : Json → Text
  | str s => s
  | v => v.quoted

end AbiTypings.Json
