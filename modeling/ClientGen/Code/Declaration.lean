import ClientGen.Code.Modifier
import ClientGen.Json.Access

/-!
# Declarations

What generated code consists of: classes, properties, methods and constants, with the few
statements and expressions that their bodies need. A declaration says nothing about how it
is written in the target language.

The names and types of declarations are values of any shape, since a name may come from a
configuration that does not look at it. Nearly always they are texts.

Declarations are kept in a `CodeModel`, and a class refers to its members by their places
there. A declaration, a statement or an expression may be **bare**: of no kind. Bare ones
can be kept and are refused only when they are to be written.
-/

namespace ClientGen

/-- An expression. -/
inductive Expression
  /-- A value written as a literal. -/
  | literal (value : Json) : Expression
  /-- A text of the target language. -/
  | snippet (text : Json) : Expression
  /-- A new object of a type. -/
  | create (type : Json) (arguments : List Expression) : Expression
  /-- An expression of no kind. -/
  | bare : Expression
  /-- No expression. -/
  | absent : Expression
  deriving Inhabited

/-- A statement. -/
inductive Statement
  /-- Return a value, or just return if it is absent. -/
  | ret (value : Expression) : Statement
  /-- Give a variable or a property a value. -/
  | assign (target : Json) (value : Expression) : Statement
  /-- A text of the target language. -/
  | snippet (text : Json) : Statement
  /-- A statement of no kind. -/
  | bare : Statement
  deriving Inhabited

/-- An attribute attached to a declaration. -/
structure Attribute where
  /-- The name of the attribute. -/
  name : Json
  /-- Its arguments. -/
  arguments : List Expression := []

/-- A parameter of a method or a constructor. -/
structure Argument where
  /-- The name of the parameter. -/
  name : Json
  /-- Its type. -/
  type : Json
  /-- Its default; absent if it has none. -/
  default : Expression := .absent

/-- A property. An accessor without statements is automatic. -/
structure PropertyBody where
  /-- The type. -/
  type : Json
  /-- Whether the property can be read. -/
  hasGet : Bool := true
  /-- Whether the property can be set. -/
  hasSet : Bool := true
  /-- The statements for reading it. -/
  getter : List Statement := []
  /-- The statements for setting it. -/
  setter : List Statement := []

/-- A method or a constructor. -/
structure MethodBody where
  /-- The type of the result. -/
  returnType : Json := .str "void"
  /-- The parameters. -/
  parameters : List Argument := []
  /-- The statements. -/
  statements : List Statement := []
  /-- Whether the method is a constructor. -/
  isConstructor : Bool := false
  /-- The arguments handed to the constructor of the base class, if it is called. -/
  baseCall : Option (List Expression) := none

/-- What kind of declaration a declaration is. -/
inductive DeclarationBody
  /-- Of no kind. -/
  | bare : DeclarationBody
  /-- A class: its base types, and the places of its members in order. -/
  | ofClass (baseTypes : List Json) (members : List Nat) : DeclarationBody
  /-- A property. -/
  | property (p : PropertyBody) : DeclarationBody
  /-- A method or a constructor. -/
  | method (m : MethodBody) : DeclarationBody
  /-- A constant. -/
  | constant (type value : Json) : DeclarationBody

/-- **A declaration.** -/
structure Declaration where
  /-- The name. -/
  name : Json
  /-- Who may use it. -/
  access : Access := .everyone
  /-- Its other modifiers. -/
  modifiers : List Modifier := []
  /-- Its attributes. -/
  attributes : List Attribute := []
  /-- Its documentation, as it was given. -/
  comment : Json := .null
  /-- The owner under which it was added; none at the top level. -/
  parent : Option Int := none
  /-- What kind of declaration it is. -/
  body : DeclarationBody

namespace Declaration

/-- A class without members. -/
def ofClass (name : Json) (baseTypes : List Json) (comment : Json) : Declaration :=
  { name, comment, body := .ofClass baseTypes [] }

/-- The members of a class; none for another declaration. -/
def members? (d : Declaration) : Option (List Nat) :=
  match d.body with
  | .ofClass _ members => some members
  | _ => none

/-- A class with its members changed; another declaration stays as it is. -/
def mapMembers (f : List Nat → List Nat) (d : Declaration) : Declaration :=
  match d.body with
  | .ofClass baseTypes members => { d with body := .ofClass baseTypes (f members) }
  | _ => d

/-- Whether a declaration is a constructor. -/
def isConstructor (d : Declaration) : Bool :=
  match d.body with
  | .method m => m.isConstructor
  | _ => false

/-- The property that a declaration is. -/
def property? (d : Declaration) : Option PropertyBody :=
  match d.body with
  | .property p => some p
  | _ => none

/-- The type of a property or a constant. -/
def type? (d : Declaration) : Option Json :=
  match d.body with
  | .property p => some p.type
  | .constant type _ => some type
  | _ => none

/-- The first attribute with a name. -/
def attribute? (d : Declaration) (name : String) : Option Attribute :=
  d.attributes.find? (·.name.isText name)

end Declaration

end ClientGen
