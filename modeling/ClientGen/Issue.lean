import ClientGen.Code.LiteralKind
import ClientGen.Code.Modifier
import ClientGen.Json.Text

/-!
# Issues and failures

An **issue** is something wrong with a document or with what was made of it. It has a cause
and a location, it is reported, and the rest of the document is still generated. The causes
are the constructors of `Cause`; their wording is in `Cause.message` and nowhere else.

A **fault** is an operation on a value of a shape that the operation does not know, such as
asking a number for its fields. A fault is never reported: it ends the whole generation.

A `Failure` is one or the other, and an `Outcome` is a result or a failure.
-/

namespace ClientGen

/-- The kinds of issues. -/
inductive IssueKind
  /-- No particular kind. -/
  | general : IssueKind
  /-- The document lacks required data or refers to unknown names. -/
  | malformedDocument : IssueKind
  /-- A member name is taken in spite of all disambiguation. -/
  | identifierCollision : IssueKind
  /-- A declaration has no form in the target language. -/
  | unsupportedConstruct : IssueKind
  /-- A source text fails the checks made before it is written. -/
  | outputValidation : IssueKind
  deriving DecidableEq, Repr

/-- The name under which a kind of issue is reported. -/
def IssueKind.label : IssueKind → String
  | .general => "GeneratorError"
  | .malformedDocument => "MalformedDocumentError"
  | .identifierCollision => "IdentifierCollisionError"
  | .unsupportedConstruct => "UnsupportedConstructError"
  | .outputValidation => "OutputValidationError"

/-- The parts of a document that have to be objects. -/
inductive DocumentPart
  | schema | property | resource | method | parameter
  deriving DecidableEq, Repr

/-- The word for a part of a document at the start of a sentence. -/
def DocumentPart.title : DocumentPart → String
  | .schema => "Schema"
  | .property => "Property"
  | .resource => "Resource"
  | .method => "Method"
  | .parameter => "Parameter"

/-- The two messages of a method. -/
inductive MessageRole
  | request | response
  deriving DecidableEq, Repr

/-- The word for a message of a method. -/
def MessageRole.word : MessageRole → String
  | .request => "request"
  | .response => "response"

/-- **What an issue is about.** -/
inductive Cause
  /-- The document is not an object. -/
  | documentNotObject : Cause
  /-- The document has no name. -/
  | noServiceName : Cause
  /-- A part of the document is not an object. -/
  | notObject (part : DocumentPart) : Cause
  /-- A method has no verb. -/
  | noHttpMethod : Cause
  /-- A method has no path. -/
  | noPath : Cause
  /-- A message of a method names no schema. -/
  | noReference (role : MessageRole) : Cause
  /-- A message of a method names a schema the document does not have. -/
  | unknownMessage (role : MessageRole) (target : Json) : Cause
  /-- The order of parameters names one the method does not have. -/
  | unknownOrdered (name : Json) : Cause
  /-- A parameter travels in no known place. -/
  | invalidLocation (value : Json) : Cause
  /-- A type has an unknown name. -/
  | unknownType (value : Json) : Cause
  /-- A type refers to a schema that there is not. -/
  | unknownSchema (target : Json) : Cause
  /-- A default is no literal of its type. -/
  | invalidDefault (value : String) (kind : LiteralKind) : Cause
  /-- A scope already has a declaration of the name. -/
  | alreadyDeclared (name scope : Json) : Cause
  /-- A member has the name of its class. -/
  | sameAsClass (name : Json) : Cause
  /-- A property can be set and not read. -/
  | setterOnly : Cause
  /-- A property can neither be read nor set. -/
  | noAccessor : Cause
  /-- A property that cannot be set has statements for setting it. -/
  | setterBodyAlone : Cause
  /-- One accessor of a property is automatic and the other is not. -/
  | mixedAccessors : Cause
  /-- A declaration of no kind. -/
  | bareDeclaration : Cause
  /-- A statement of no kind. -/
  | bareStatement : Cause
  /-- An expression of no kind. -/
  | bareExpression : Cause
  /-- No expression where one is needed. -/
  | absentExpression : Cause
  /-- A constant with modifiers. -/
  | modifiedConstant (modifiers : List Modifier) : Cause
  /-- An integer that no integer type holds. -/
  | integerOutOfRange (value : Int) : Cause
  /-- A number without a literal. -/
  | inexpressibleNumber (value : Binary64) : Cause
  /-- A list as a literal. -/
  | listLiteral : Cause
  /-- An object as a literal. -/
  | objectLiteral : Cause
  /-- A source text without a namespace. -/
  | noNamespace : Cause
  /-- A source text without a class. -/
  | noTypes : Cause
  /-- A source text whose braces do not match in number. -/
  | unbalancedBraces (opening closing : Nat) : Cause
  /-- A source text without a using directive. -/
  | noUsings : Cause
  /-- An issue that comes with its own wording. -/
  | reported (kind : IssueKind) (message : String) : Cause

namespace Cause

/-- The kind of a cause. -/
def kind : Cause → IssueKind
  | documentNotObject | noServiceName | notObject _ | noHttpMethod | noPath | noReference _
  | unknownMessage .. | unknownOrdered _ | invalidLocation _ | unknownType _ | unknownSchema _
  | invalidDefault .. => .malformedDocument
  | alreadyDeclared .. | sameAsClass _ => .identifierCollision
  | setterOnly | noAccessor | setterBodyAlone | mixedAccessors | bareDeclaration | bareStatement
  | bareExpression | absentExpression | modifiedConstant _ | integerOutOfRange _
  | inexpressibleNumber _ | listLiteral | objectLiteral => .unsupportedConstruct
  | noNamespace | noTypes | unbalancedBraces .. | noUsings => .outputValidation
  | reported k _ => k

/-- **The wording of a cause.** -/
def message : Cause → String
  | documentNotObject => "Discovery document must be a JSON object"
  | noServiceName => "Discovery document has no service name"
  | notObject part => part.title ++ " must be a JSON object"
  | noHttpMethod => "Method has no httpMethod"
  | noPath => "Method has no path"
  | noReference role => "Method " ++ role.word ++ " has no $ref"
  | unknownMessage role target =>
    "Method " ++ role.word ++ " references unknown schema '" ++ target.text ++ "'"
  | unknownOrdered name => "parameterOrder lists unknown parameter '" ++ name.text ++ "'"
  | invalidLocation value => "Parameter has invalid location " ++ value.quoted
  | unknownType value => "Unknown type " ++ value.quoted
  | unknownSchema target => "Reference to unknown schema '" ++ target.text ++ "'"
  | invalidDefault value kind =>
    "Default " ++ Text.quoted value ++ " is not a valid " ++ kind.word
  | alreadyDeclared name scope =>
    "'" ++ name.text ++ "' is already declared in " ++ scope.text
  | sameAsClass name => "Member '" ++ name.text ++ "' has the same name as its class"
  | setterOnly => "Setter-only properties are not supported, a getter is required"
  | noAccessor => "Property has neither a getter nor a setter"
  | setterBodyAlone => "Property has a setter body but no setter"
  | mixedAccessors => "Property mixes an automatic accessor with an explicit one"
  | bareDeclaration => "Cannot render declaration of type Declaration"
  | bareStatement => "Cannot render statement of type Statement"
  | bareExpression => "Cannot render expression of type Expression"
  | absentExpression => "Cannot render expression of type NoneType"
  | modifiedConstant modifiers =>
    "Constants cannot be " ++ ", ".intercalate (modifiers.map Modifier.keyword)
  | integerOutOfRange value => "Integer literal " ++ toString value ++ " is out of range"
  | inexpressibleNumber value => "Number literal " ++ value.text ++ " cannot be expressed"
  | listLiteral => "Literal of type list cannot be expressed"
  | objectLiteral => "Literal of type dict cannot be expressed"
  | noNamespace => "Generated C# code is missing namespace declaration"
  | noTypes => "Generated C# code has no type definitions"
  | unbalancedBraces opening closing =>
    "Generated C# code has unbalanced braces: " ++ toString opening ++ " open, "
      ++ toString closing ++ " close"
  | noUsings => "Generated C# code is missing using statements"
  | reported _ text => text

end Cause

/-- A cause with the place where it arose: a dotted path or the name of a declaration. A
location that counts as absent is not known. -/
structure Issue where
  /-- What is wrong. -/
  cause : Cause
  /-- Where it is wrong. -/
  location : Json := .str ""

namespace Issue

/-- The kind of an issue. -/
def kind (i : Issue) : IssueKind :=
  i.cause.kind

/-- The wording of an issue, without its location. -/
def message (i : Issue) : String :=
  i.cause.message

/-- The issue as one line: the location, if it is known, and the wording. -/
def text (i : Issue) : String :=
  if i.location.truthy then i.location.text ++ ": " ++ i.message else i.message

/-- Give an issue without a location the location of the step it arose in. -/
def orAt (i : Issue) (location : Json) : Issue :=
  if i.location.truthy then i else { i with location }

end Issue

/-- An operation on a value of a shape it does not know. -/
inductive Fault
  /-- A value has no part of the kind asked for. -/
  | noSuchPart : Fault
  /-- An operation does not take values of this kind. -/
  | wrongKind : Fault
  /-- A table has no entry of the name. -/
  | noEntry : Fault
  /-- An index lies outside its list. -/
  | outOfRange : Fault
  /-- A declaration is used as a class and is none. -/
  | notAClass (index : Int) (name : Json) : Fault
  /-- A code model is changed after it was frozen. -/
  | frozenModel : Fault
  /-- A declaration is removed from a list that does not hold it. -/
  | notListed : Fault
  /-- The configuration names a decorator that there is not. -/
  | unknownDecorator (kind : String) (name : Json) (available : List String) : Fault
  /-- A word is none of those of a closed set. -/
  | unknownWord (word : Json) (set : String) : Fault
  /-- Work is shared among fewer than one worker. -/
  | noWorkers : Fault
  /-- An integer is too large for a double-precision number. -/
  | tooLarge : Fault
  /-- An integer has more digits than are written. -/
  | tooManyDigits : Fault
  /-- Something is nested in itself, or too deeply. -/
  | endlessNesting : Fault
  /-- A search goes on for ever. -/
  | endlessSearch : Fault
  deriving Inhabited

/-- The wording for an integer with more digits than are written. -/
def digitLimitText : String :=
  "Exceeds the limit (4300 digits) for integer string conversion; "
    ++ "use sys.set_int_max_str_digits() to increase the limit"

/-- The wording of a fault, for those that are shown with one. -/
def Fault.message? : Fault → Option String
  | .notAClass index name =>
    some ("Declaration " ++ toString index ++ " (" ++ name.text ++ ") is not a class")
  | .frozenModel => some "Code model is frozen and can no longer be modified"
  | .notListed => some "list.remove(x): x not in list"
  | .unknownDecorator kind name available =>
    some ("Unknown " ++ kind ++ " decorator '" ++ name.text ++ "'. Available: "
      ++ ", ".intercalate available)
  | .unknownWord word set => some (word.quoted ++ " is not a valid " ++ set)
  | .noWorkers => some "max_workers must be greater than 0"
  | .tooManyDigits => some digitLimitText
  | _ => none

/-- An issue, which is reported, or a fault, which ends the generation. -/
inductive Failure
  /-- An issue. -/
  | issue (i : Issue) : Failure
  /-- A fault. -/
  | fault (f : Fault) : Failure

/-- A result or a failure. -/
abbrev Outcome : Type → Type := Except Failure

namespace Outcome

/-- Fail with an issue at a location. -/
def issue {α : Type} (cause : Cause) (location : Json) : Outcome α :=
  .error (.issue ⟨cause, location⟩)

/-- Fail with a fault. -/
def fault {α : Type} (f : Fault) : Outcome α :=
  .error (.fault f)

/-- A value that has to be there to have parts. -/
def required {α : Type} : Option α → Outcome α
  | some a => .ok a
  | none => fault .noSuchPart

end Outcome

end ClientGen
