import ClientGen.Code.Model
import ClientGen.CSharp.Comment
import ClientGen.CSharp.Literal

/-!
# Declarations as C#

The lines of a declaration and of everything nested in it: braces on lines of their own,
four spaces of indentation, an empty line between members, attributes and the
documentation comment above. What C# cannot express is refused, with the qualified name of
the declaration as the location.

Classes are written by following the places of their members. In a model that was built by
additions to earlier classes this ends after at most as many levels as there are
declarations; the number of declarations is the fuel, and a class that is nested in itself
uses it up.
-/

namespace ClientGen.CSharp

open Outcome

/-! ### Lines -/

/-- Indent the lines that are not blank. -/
def indent (lines : List String) : List String :=
  lines.map fun line => if Text.isAllBlank line.toList then line else "    " ++ line

/-- Blocks of lines, one after the other, with an empty line between. -/
def separated : List (List String) → List String
  | [] => []
  | [block] => block
  | block :: rest => block ++ "" :: separated rest

/-! ### Expressions and statements -/

/-- Texts of a list, joined by commas. -/
def commaList (parts : List Json) : Outcome String := do
  return ", ".intercalate (← parts.mapM Json.asText)

mutual

/-- The text of an expression: a value that is no text only if it is given as one of the
target language. -/
def expression (location : String) : Expression → Outcome Json
  | .literal value => do return .str (← literal value location)
  | .snippet text => .ok text
  | .create type arguments => do
    let parts ← expressions location arguments
    let inner ← commaList parts
    return .str ("new " ++ (← type.written) ++ "(" ++ inner ++ ")")
  | .bare => issue .bareExpression location
  | .absent => issue .absentExpression location

/-- The texts of expressions. -/
def expressions (location : String) : List Expression → Outcome (List Json)
  | [] => .ok []
  | e :: rest => do
    let text ← expression location e
    let later ← expressions location rest
    return text :: later

end

/-- The text of a statement: a value that is no text only if it is given as one of the
target language. -/
def statement (location : String) : Statement → Outcome Json
  | .ret .absent => .ok (.str "return;")
  | .ret value => do return .str ("return " ++ (← (← expression location value).written) ++ ";")
  | .assign target value => do
    let target ← target.written
    return .str (target ++ " = " ++ (← (← expression location value).written) ++ ";")
  | .snippet text => .ok text
  | .bare => issue .bareStatement location

/-- The texts of statements. -/
def statements (location : String) (body : List Statement) : Outcome (List Json) :=
  body.mapM (statement location)

/-- The lines of statements, indented. -/
def block (body : List Json) : Outcome (List String) := do
  return indent (← body.mapM Json.asLine)

/-- The text of a parameter. -/
def argument (location : String) (a : Argument) : Outcome String := do
  let text := (← a.type.written) ++ " " ++ (← a.name.written)
  match a.default with
  | .absent => return text
  | value => return text ++ " = " ++ (← (← expression location value).written)

/-! ### Members -/

/-- The modifiers of a declaration, the access first. -/
def modifiers (d : Declaration) : String :=
  " ".intercalate (d.access.keyword :: d.modifiers.map Modifier.keyword)

/-- The lines of an accessor with statements: one line for one statement. -/
def accessor (keyword : String) (body : List Json) : Outcome (List String) := do
  match body with
  | [line] => return [keyword ++ " \x7b " ++ (← line.written) ++ " \x7d"]
  | lines => return keyword :: "\x7b" :: (← block lines) ++ ["\x7d"]

/-- What is wrong with the accessors of a property, if anything. -/
def accessorIssue? (p : PropertyBody) : Option Cause :=
  if !p.hasGet then some (if p.hasSet then .setterOnly else .noAccessor)
  else if !p.setter.isEmpty && !p.hasSet then some .setterBodyAlone
  else if p.hasSet && p.getter.isEmpty != p.setter.isEmpty then some .mixedAccessors
  else none

/-- The lines of an accessor inside a property. -/
def accessorLines (keyword : String) (body : List Statement) (location : String) :
    Outcome (List String) := do
  return indent (← accessor keyword (← statements location body))

/-- The lines of a property. -/
def property (d : Declaration) (p : PropertyBody) (location : String) : Outcome (List String) :=
  match accessorIssue? p with
  | some cause => issue cause location
  | none => do
    let head := modifiers d ++ " " ++ (← p.type.written) ++ " " ++ (← d.name.written)
    if p.getter.isEmpty then
      return [head ++ " \x7b " ++ (if p.hasSet then "get; set;" else "get;") ++ " \x7d"]
    else
      let getter ← accessorLines "get" p.getter location
      let setter ← if p.hasSet then accessorLines "set" p.setter location else .ok []
      return head :: "\x7b" :: getter ++ setter ++ ["\x7d"]

/-- The call of the constructor of the base class, if there is one. -/
def baseCall (location : String) : Option (List Expression) → Outcome String
  | none => .ok ""
  | some arguments => do
    return " : base(" ++ (← commaList (← expressions location arguments)) ++ ")"

/-- The lines of a method or a constructor. -/
def method (d : Declaration) (m : MethodBody) (location : String) : Outcome (List String) := do
  let parameters := "(" ++ ", ".intercalate (← m.parameters.mapM (argument location)) ++ ")"
  let call ← if m.isConstructor then baseCall location m.baseCall else .ok ""
  let name ← d.name.written
  let type ← if m.isConstructor then .ok "" else m.returnType.written
  let head :=
    if m.isConstructor then modifiers d ++ " " ++ name ++ parameters ++ call
    else modifiers d ++ " " ++ type ++ " " ++ name ++ parameters
  return head :: "\x7b" :: (← block (← statements location m.statements)) ++ ["\x7d"]

/-- The lines of a constant. -/
def constant (d : Declaration) (type value : Json) (location : String) :
    Outcome (List String) := do
  if !d.modifiers.isEmpty then issue (.modifiedConstant d.modifiers) location
  else
    let text ← literal value location
    let declared := (← type.written) ++ " " ++ (← d.name.written)
    return [d.access.keyword ++ " const " ++ declared ++ " = " ++ text ++ ";"]

/-- The line of an attribute. -/
def attributeLine (location : String) (a : Attribute) : Outcome String := do
  if a.arguments.isEmpty then return "[" ++ (← a.name.written) ++ "]"
  else
    let inner ← commaList (← expressions location a.arguments)
    return "[" ++ (← a.name.written) ++ "(" ++ inner ++ ")]"

/-! ### Classes -/

/-- The names of a declaration and of the classes around it, the outermost first. -/
def nameChain (m : CodeModel) : Nat → Int → Outcome (List Json)
  | 0, _ => fault .endlessSearch
  | fuel + 1, index => do
    let d ← m.get index
    match d.parent with
    | none => return [d.name]
    | some parent => return (← nameChain m fuel parent) ++ [d.name]

/-- The qualified name of a declaration. -/
def qualifiedName (m : CodeModel) (index : Int) : Outcome String := do
  return ".".intercalate (← (← nameChain m (m.size + 1) index).mapM Json.asText)

/-- The first line of a class. -/
def classHead (d : Declaration) (baseTypes : List Json) : Outcome String := do
  let head := modifiers d ++ " class " ++ (← d.name.written)
  if baseTypes.isEmpty then return head
  else return head ++ " : " ++ (← commaList baseTypes)

/-- The lines of a declaration, with those of a member given by `member`. -/
def declarationBody (member : Nat → Outcome (List String)) (d : Declaration) (location : String) :
    Outcome (List String) :=
  match d.body with
  | .bare => issue .bareDeclaration location
  | .ofClass baseTypes members => do
    let head ← classHead d baseTypes
    let blocks ← members.mapM member
    return head :: "\x7b" :: separated (blocks.map indent) ++ ["\x7d"]
  | .property p => property d p location
  | .method m => method d m location
  | .constant type value => constant d type value location

/-- **The lines of a declaration** and of everything nested in it. -/
def declaration (m : CodeModel) : Nat → Int → Outcome (List String)
  | 0, _ => fault .endlessNesting
  | fuel + 1, index => do
    let d ← m.get index
    let location ← qualifiedName m index
    let body ← declarationBody (fun place => declaration m fuel place) d location
    let comment ← commentOf d.comment
    let attributes ← d.attributes.mapM (attributeLine location)
    return comment ++ attributes ++ body

/-- **The text of a declaration** and of everything nested in it. -/
def render (m : CodeModel) (index : Int) : Outcome String := do
  return "\n".intercalate (← declaration m (m.size + 1) index) ++ "\n"

end ClientGen.CSharp
