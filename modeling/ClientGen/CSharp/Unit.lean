import ClientGen.CSharp.Render

/-!
# Source units

A source unit has a comment on its generation, the using directives, and the declarations
inside a namespace. Each of the first three may be missing.
-/

namespace ClientGen.CSharp

/-- What a source unit has around its declarations. -/
structure UnitFrame where
  /-- The namespace; missing if it counts as absent. -/
  namespaceName : Json := .str ""
  /-- The namespaces used. -/
  usings : List Json := []
  /-- The comment at the top; missing if it is empty. -/
  comment : Json := .str ""

namespace UnitFrame

/-- What stands before the declarations. -/
def header (f : UnitFrame) : String :=
  let comment := if f.comment.truthy then f.comment.text ++ "\n" else ""
  let usings := String.join (f.usings.map fun u => "using " ++ u.text ++ ";\n")
  let gap := if f.usings.isEmpty then "" else "\n"
  let opening :=
    if f.namespaceName.truthy then "namespace " ++ f.namespaceName.text ++ "\n\x7b\n" else ""
  comment ++ usings ++ gap ++ opening

/-- What stands after the declarations. -/
def footer (f : UnitFrame) : String :=
  if f.namespaceName.truthy then "\x7d\n" else ""

/-- The lines of the text of a declaration, without the empty ones at its end. -/
def declarationLines (text : String) : List String :=
  (Text.splitOnChar '\n' (Text.dropEndWhile (· == '\n') text.toList)).map String.ofList

/-- The lines between the header and the footer. -/
def bodyLines (f : UnitFrame) (declarations : List String) : List String :=
  let lines := separated (declarations.map declarationLines)
  if f.namespaceName.truthy then indent lines else lines

/-- **The text of a source unit** with the given declarations. -/
def assemble (f : UnitFrame) (declarations : List String) : String :=
  let lines := f.bodyLines declarations
  let body := if lines.isEmpty then "" else "\n".intercalate lines ++ "\n"
  f.header ++ body ++ f.footer

end UnitFrame

end ClientGen.CSharp
