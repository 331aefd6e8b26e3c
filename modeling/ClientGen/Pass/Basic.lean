import ClientGen.Code.Model
import ClientGen.Config
import ClientGen.CSharp.TypeName
import ClientGen.Naming

/-!
# Decorating declarations

A **decorator** appends members to a declaration of the code model, on the strength of the
part of the service that the declaration stands for. Decorators know nothing of each other:
one that needs what another has added looks for it among the members.

This module has what the decorators share: the workbench they work on, the context they
work in, and the form of a property that returns a literal.
-/

namespace ClientGen

/-- What a generation works on: the code model and the ledger. -/
structure Workbench where
  /-- The declarations so far. -/
  model : CodeModel := {}
  /-- What there is to tell so far. -/
  ledger : Ledger := {}

/-- A step of a generation. -/
abbrev Build : Type → Type := Session Workbench

namespace Build

/-- A change of the code model as a step. -/
def onModel {α : Type} (change : CodeModel.Change α) : Build α := fun w =>
  match change w.model with
  | .ok a model => .ok a { w with model }
  | .error e model => .error e { w with model }

/-- A computation on the ledger as a step. -/
def onLedger {α : Type} (act : Session Ledger α) : Build α := fun w =>
  match act w.ledger with
  | .ok a ledger => .ok a { w with ledger }
  | .error e ledger => .error e { w with ledger }

/-- Read something off the code model. -/
def look {α : Type} (f : CodeModel → Outcome α) : Build α := do
  let w ← get
  f w.model

/-- Log a line. -/
def write (level : LogLevel) (text : String) : Build Unit :=
  modify fun w => { w with ledger := w.ledger.write level text }

/-- Add a member to a class. -/
def addMember (owner : Int) (d : Declaration) : Build Unit := do
  let _ ← onModel (CodeModel.insert (some owner) d)

/-- Add a class to a scope, and give its index. -/
def addClass (owner : Option Int) (d : Declaration) : Build Int := do
  let place ← onModel (CodeModel.insert owner d)
  return place

/-- A safe name for a new member of a class. -/
def safeName (owner : Int) (candidate : String) (suffix : Json) (extra : List Json) :
    Build Json :=
  look fun m => m.safeMemberName (some owner) candidate suffix extra

end Build

/-- What the decorators of one generation may look at. -/
structure Context where
  /-- The service. -/
  service : Service
  /-- The settings. -/
  config : Config
  /-- The names of the classes. -/
  naming : Naming

namespace Context

/-- The suffix that tells names apart. -/
def suffix (c : Context) : Json :=
  c.config.uniqueSuffix

/-- The schemas that types can refer to. -/
def schemaIndex (c : Context) : SchemaIndex :=
  ⟨c.service.schemas.map fun s => .str s.name, c.naming.schemas⟩

/-- The class of the resource with a path. -/
def resourceClass (c : Context) (path : String) : Outcome Json :=
  match c.naming.resources.find? path with
  | some name => .ok name
  | none => Outcome.fault .noEntry

/-- Whether the resource with a path is left out. -/
def ignoresResource (c : Context) (path : String) : Outcome Bool := do
  (← Outcome.required c.config.ignoreResources).holds path

/-- Whether the schema with a name is left out. -/
def ignoresSchema (c : Context) (name : String) : Outcome Bool := do
  (← Outcome.required c.config.ignoreSchemas).holds name

end Context

namespace Decorator

/-! ### Names of the client library -/

/-- The interface of services. -/
def clientService : String := "IClientService"

/-- The property that holds the service. -/
def serviceMember : String := "Service"

/-- The attribute of properties that are parameters. -/
def requestParameter : String := "RequestParameter"

/-- The type of the places where a parameter travels. -/
def requestParameterType : String := "RequestParameterType"

/-- The attribute of properties that are fields. -/
def jsonProperty : String := "JsonProperty"

/-- The members of the base class of services. -/
def serviceBaseMembers : List Json :=
  ["Name", "BaseUri", "BasePath", "Features", "Initializer", "HttpClient", "Serializer", "ApiKey"]

/-- The members of the base class of requests. -/
def requestBaseMembers : List Json :=
  ["MethodName", "HttpMethod", "RestPath", "Service", "Body", "GetBody", "RequestParameters",
   "Execute", "ExecuteAsync", "ExecuteAsStream", "CreateRequest"]

/-- The members of the interface of schemas. -/
def schemaBaseMembers : List Json :=
  ["ETag"]

/-! ### Properties that return a literal -/

/-- The type of a literal. -/
def literalType : Json → String
  | .bool _ => "bool"
  | .int _ => "int"
  | .float _ => "double"
  | .str _ => "string"
  | _ => "object"

/-- **A property that returns a literal**: public, with a getter of one statement and
without a setter. A type that counts as absent is replaced by that of the literal. -/
def constantProperty (name value type : Json) (modifiers : List Modifier) (comment : Json) :
    Declaration :=
  { name, modifiers, comment
    body := .property {
      type := if type.truthy then type else literalType value
      hasSet := false
      getter := [.ret (.literal value)] } }

/-- The constructor assignments for the child resources that a class already has a
property for: each property of the type of a child gets a new object. -/
def resourceAssignments (context : Context) (children : List Resource) (service : String) :
    List Declaration → Outcome (List Statement)
  | [] => .ok []
  | d :: rest =>
    match d.property? with
    | none => resourceAssignments context children service rest
    | some p => do
      let type ← p.type.asKey
      let classes := children.filterMap fun r => context.naming.resources.find? r.path
      let later ← resourceAssignments context children service rest
      if classes.any type.sameKey then
        return .assign d.name (.create p.type [.snippet service]) :: later
      else return later

end Decorator

end ClientGen
