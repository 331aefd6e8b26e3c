import ClientGen.Json.Basic
import ClientGen.Number.Shortest
import ClientGen.Text.Quoted

/-!
# JSON values in texts

How a JSON value is shown inside a message or a generated text. A text shows as itself at
the top and quoted inside a list or an object; everything else shows the same in both
places.
-/

namespace ClientGen.Json

mutual

/-- The text of a value, with texts quoted. -/
def quoted : Json → String
  | .null => "None"
  | .bool b => if b then "True" else "False"
  | .int n => toString n
  | .float x => x.text
  | .str s => Text.quoted s
  | .list xs => "[" ++ ", ".intercalate (quotedAll xs) ++ "]"
  | .object fs => "\x7b" ++ ", ".intercalate (quotedFields fs) ++ "\x7d"

/-- The quoted texts of the elements of a list. -/
def quotedAll : List Json → List String
  | [] => []
  | x :: xs => quoted x :: quotedAll xs

/-- The quoted texts of the fields of an object. -/
def quotedFields : List (String × Json) → List String
  | [] => []
  | (k, v) :: fs => (Text.quoted k ++ ": " ++ quoted v) :: quotedFields fs

end

/-- The text of a value: a text shows as it is. -/
def text : Json → String
  | .str s => s
  | v => v.quoted

end ClientGen.Json
