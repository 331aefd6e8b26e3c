import ClientGen.Issue
import ClientGen.Text.Blank

/-!
# Documentation comments

A comment is written as a summary: on one line if it has one line, else with a line for
each of its lines between the opening and the closing tag. The characters that XML gives a
meaning are written as entities.
-/

namespace ClientGen.CSharp

/-- A character inside XML text. -/
def entityChar (c : Char) : List Char :=
  if c = '&' then "&amp;".toList
  else if c = '<' then "&lt;".toList
  else if c = '>' then "&gt;".toList
  else [c]

/-- The lines of a comment: those of the text without the blanks around it, each without
the blanks around it and with entities. -/
def commentText (comment : List Char) : List (List Char) :=
  (Text.splitLines (Text.strip comment)).map fun line => (Text.strip line).flatMap entityChar

/-- The lines of the documentation comment for a text. -/
def commentLines (comment : String) : List String :=
  if Text.isAllBlank comment.toList then []
  else match commentText comment.toList with
    | [line] => ["/// <summary>" ++ String.ofList line ++ "</summary>"]
    | lines =>
      "/// <summary>" :: lines.map (fun line =>
        String.ofList (Text.stripEnd ("/// ".toList ++ line))) ++ ["/// </summary>"]

/-- The lines of the documentation comment for a value: none if it counts as absent. -/
def commentOf (comment : Json) : Outcome (List String) :=
  match comment with
  | .str s => .ok (commentLines s)
  | v => if v.truthy then Outcome.fault .noSuchPart else .ok []

end ClientGen.CSharp
