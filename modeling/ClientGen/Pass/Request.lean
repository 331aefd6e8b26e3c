import ClientGen.Number.Reading
import ClientGen.Pass.Basic

/-!
# Decorators of request classes

A request class stands for one method of a resource. Its decorators take the method and the
context as they are given, which may be not at all; each then fails where it first needs
what is missing.
-/

namespace ClientGen

open Build Decorator

/-- The decorators of request classes. -/
inductive RequestPass
  /-- The description of the method. -/
  | documentation : RequestPass
  /-- The name, the verb and the path of the method. -/
  | fields : RequestPass
  /-- A property for each parameter. -/
  | parameters : RequestPass
  /-- The body of the request. -/
  | body : RequestPass
  /-- The constructor. -/
  | constructor : RequestPass
  /-- The method of the resource class that makes the request. -/
  | factory : RequestPass
  deriving DecidableEq, Repr

/-- What a request class stands for, and where it is. -/
structure RequestSite where
  /-- The resource. -/
  resource : Resource
  /-- The method, if it is known. -/
  method? : Option Method
  /-- The index of the request class. -/
  request : Int
  /-- The index of the resource class. -/
  owner : Int
  /-- The context, if there is one. -/
  context? : Option Context

namespace RequestSite

/-- The method. -/
def method (s : RequestSite) : Outcome Method :=
  Outcome.required s.method?

/-- The context. -/
def context (s : RequestSite) : Outcome Context :=
  Outcome.required s.context?

/-- The dotted path of a method of the resource. -/
def locationOf (s : RequestSite) (m : Method) : String :=
  s.resource.path ++ "." ++ m.name

end RequestSite

namespace RequestPass

/-- The decorators by name. -/
def registry : List (String × RequestPass) :=
  [("request_documentation", .documentation), ("request_fields", .fields),
   ("request_parameters", .parameters), ("request_body", .body),
   ("request_constructor", .constructor), ("resource_method", .factory)]

/-! ### Documentation, fields, parameters and body -/

/-- Describe the class by the description of the method, unless it has a comment. -/
def addDocumentation (s : RequestSite) : Build Unit := do
  let d ← look fun m => m.get s.request
  let method ← s.method
  if method.description.truthy && !d.comment.truthy then
    onModel (CodeModel.setComment s.request method.description)

/-- A property that overrides one of the base class with a literal. -/
def overriding (name : String) (value : Json) : Declaration :=
  constantProperty name value "string" [.override] .null

/-- Add the name, the verb and the path of the method. -/
def addFields (s : RequestSite) : Build Unit := do
  let method ← s.method
  addMember s.request (overriding "MethodName" (.str method.name))
  addMember s.request (overriding "HttpMethod" method.httpMethod)
  addMember s.request (overriding "RestPath" method.path)

/-- The type of the property for a parameter. -/
def parameterType (context : Context) (p : Parameter) (location : String) : Outcome Json := do
  let type ← TypeName.ofType context.schemaIndex location .null p.type
  if p.repeated then return .str (TypeName.listOf (← type.written)) else return type

/-- The attribute of the property for a parameter. -/
def parameterAttribute (p : Parameter) : Attribute :=
  ⟨requestParameter,
    [.literal (.str p.name), .snippet (requestParameterType ++ "." ++ p.location.title)]⟩

/-- Add a property for each parameter. -/
def addParameters (s : RequestSite) (method : Method) : List Parameter → Build Unit
  | [] => pure ()
  | p :: rest => do
    let context ← s.context
    let name ← safeName s.request (Identifier.pascal p.name) context.suffix requestBaseMembers
    let type ← parameterType context p (s.locationOf method ++ "." ++ p.name)
    addMember s.request {
      name, modifiers := [.virtual], attributes := [parameterAttribute p]
      comment := p.description, body := .property { type } }
    addParameters s method rest

/-- Add the body of the request and the method that returns it, if the method has one. -/
def addBody (s : RequestSite) : Build Unit := do
  let method ← s.method
  match method.request with
  | none => pure ()
  | some schema =>
    let context ← s.context
    let type ← context.schemaIndex.className schema (s.locationOf method)
    addMember s.request {
      name := "Body", modifiers := [.virtual]
      comment := .str "Gets or sets the body of this request.", body := .property { type } }
    addMember s.request {
      name := "GetBody", access := .derived, modifiers := [.override]
      comment := .str "Returns the body of the request."
      body := .method { returnType := "object", statements := [.ret (.snippet "Body")] } }

/-! ### The constructor -/

/-- The wire name that the property for a parameter carries: the first argument of its
attribute. -/
def wireName? (d : Declaration) : Outcome (Option String) :=
  match d.property?, d.attribute? requestParameter with
  | some _, some a => match a.arguments with
    | [] => .ok none
    | .literal v :: _ => v.keyText?
    | _ :: _ => Outcome.fault .noSuchPart
  | _, _ => .ok none

/-- The properties for parameters among some members, by wire name. The latest comes
first, so it is the one found. -/
def wireProperties : List Declaration → Outcome (List (String × Declaration))
  | [] => .ok []
  | d :: rest => do
    let own ← wireName? d
    let later ← wireProperties rest
    return later ++ (own.map (·, d)).toList

/-- The required parameters of a method: those that its order names, in that order, and
then the others. -/
def requiredParameters (m : Method) : List Parameter :=
  let ordered := m.parameterOrder.filterMap fun name =>
    (m.parameter? name).filter Parameter.required
  ordered ++ m.parameters.filter fun p => p.required && !m.parameterOrder.contains p.name

/-- A constructor in the making: its parameters and statements, and the names of its
parameters. -/
structure Signature where
  /-- The parameters. -/
  parameters : List Argument
  /-- The statements. -/
  statements : List Statement
  /-- The names in use. -/
  locals : List Json

/-- Take a value through a new parameter and assign it to a property. -/
def Signature.take (g : Signature) (wanted : String) (suffix : Json) (type : Outcome Json)
    (target : Json) : Outcome Signature := do
  let name ← Identifier.localName wanted suffix Identifier.keywordValues
  let name ← Identifier.fresh suffix g.locals name
  return {
    parameters := g.parameters ++ [⟨name, ← type, .absent⟩]
    statements := g.statements ++ [.assign target (.snippet name)]
    locals := g.locals ++ [name] }

/-- Take the required parameters that have a property. -/
def takeRequired (s : RequestSite) (properties : List (String × Declaration)) :
    List Parameter → Signature → Outcome Signature
  | [], g => .ok g
  | p :: rest, g =>
    match properties.lookup p.name with
    | none => takeRequired s properties rest g
    | some d => do
      let context ← s.context
      let g ← g.take p.name context.suffix (Outcome.required d.type?) d.name
      takeRequired s properties rest g

/-- **The literal for a default.** Documents write defaults as texts; a text becomes a
literal of the kind that the type of the property accepts. -/
def defaultLiteral (s : RequestSite) (p : Parameter) (value : Json) (location : String) :
    Outcome Json :=
  match p.type, value with
  | .primitive .., .str text => do
    let context ← s.context
    let kind ← TypeName.literalKind (← TypeName.ofType context.schemaIndex "" .null p.type)
    match kind with
    | .integer => match Number.readInt? text with
      | some n => return .int n
      | none => Outcome.issue (.invalidDefault text kind) location
    | .number => match Number.readNumber? text with
      | some x => return .float x
      | none => Outcome.issue (.invalidDefault text kind) location
    | .boolean =>
      if text = "true" then return .bool true
      else if text = "false" then return .bool false
      else Outcome.issue (.invalidDefault text kind) location
    | .string => return .str text
  | _, _ => .ok value

/-- Assign the defaults of the parameters that are not required and have a property. The
default of a parameter that may be given several times is passed over with a warning. -/
def assignDefaults (s : RequestSite) (location : String)
    (properties : List (String × Declaration)) :
    List Parameter → Signature → Build Signature
  | [], g => pure g
  | p :: rest, g =>
    match properties.lookup p.name, p.required, p.default? with
    | some d, false, some value => do
      let here := location ++ "." ++ p.name
      if p.repeated then
        write .warning (here ++ ": default of a repeated parameter is ignored")
        assignDefaults s location properties rest g
      else
        let literal ← defaultLiteral s p value here
        let statements := g.statements ++ [.assign d.name (.literal literal)]
        assignDefaults s location properties rest { g with statements }
    | _, _, _ => assignDefaults s location properties rest g

/-- Take the body of the request, if the class has one. -/
def takeBody (s : RequestSite) (g : Signature) : Build Signature := do
  match ← look fun m => m.findMember? s.request "Body" with
  | none => pure g
  | some place =>
    let context ← s.context
    let body ← look fun m => m.atPlace place
    g.take "body" context.suffix (Outcome.required body.type?) "Body"

/-- Add the constructor: it takes the service, the required parameters and the body, and
assigns them and the defaults to the properties of the class. -/
def addConstructor (s : RequestSite) : Build Unit := do
  let (own, _) ← look fun m => m.getClass s.request
  let method ← s.method
  let properties ← wireProperties (← look fun m => m.members s.request)
  let start : Signature := ⟨[⟨"service", clientService, .absent⟩], [], ["service"]⟩
  let g ← takeRequired s properties (requiredParameters method) start
  let g ← assignDefaults s (s.locationOf method) properties method.parameters g
  let g ← takeBody s g
  addMember s.request {
    name := own.name
    comment := .str ("Constructs a new " ++ Identifier.pascal method.name ++ " request.")
    body := .method {
      isConstructor := true, parameters := g.parameters, statements := g.statements
      baseCall := some [.snippet "service"] } }

/-! ### The factory -/

/-- The parameters of the first constructor among some members, without the first of
them. -/
def constructorArguments? (members : List Declaration) : Option (List Argument) :=
  members.findSome? fun d => match d.body with
    | .method m => if m.isConstructor then some (m.parameters.drop 1) else none
    | _ => none

/-- Add to the resource class the method that makes the request: it has the parameters of
the constructor, except for the service, and hands them on. -/
def addFactory (s : RequestSite) : Build Unit := do
  let (own, _) ← look fun m => m.getClass s.request
  let arguments? := constructorArguments? (← look fun m => m.members s.request)
  let taken := (arguments?.getD []).map fun a => Argument.mk a.name a.type .absent
  let given : List Expression := match arguments? with
    | some as => .snippet serviceMember :: as.map fun a => .snippet a.name
    | none => []
  let method ← s.method
  let context ← s.context
  let name ← safeName s.owner (Identifier.pascal method.name) context.suffix []
  addMember s.owner {
    name, modifiers := [.virtual], comment := method.description
    body := .method {
      returnType := own.name, parameters := taken
      statements := [.ret (.create own.name given)] } }
  let owner ← look fun m => m.get s.owner
  write .debug ("Added " ++ s.locationOf method ++ " as " ++ (← owner.name.written) ++ "."
    ++ (← name.written))

/-- **Decorate a request class.** -/
def run (p : RequestPass) (s : RequestSite) : Build Unit :=
  match p with
  | .documentation => addDocumentation s
  | .fields => addFields s
  | .parameters => do
    let method ← s.method
    addParameters s method method.parameters
  | .body => addBody s
  | .constructor => addConstructor s
  | .factory => addFactory s

end RequestPass

end ClientGen
