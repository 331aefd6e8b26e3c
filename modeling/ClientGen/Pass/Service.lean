import ClientGen.Pass.Basic

/-!
# Decorators of the service class
-/

namespace ClientGen

open Build Decorator

/-- The decorators of the service class. -/
inductive ServicePass
  /-- The version, the name and the address of the service. -/
  | constants : ServicePass
  /-- A class of constants for the scopes. -/
  | scopes : ServicePass
  /-- A property for each top-level resource. -/
  | resources : ServicePass
  /-- The constructor. -/
  | constructor : ServicePass
  deriving DecidableEq, Repr

namespace ServicePass

/-- The decorators by name. -/
def registry : List (String × ServicePass) :=
  [("service_constants", .constants), ("service_scopes", .scopes),
   ("service_resources", .resources), ("service_constructor", .constructor)]

/-- Add the version, the name and, if there is one, the address of the service. -/
def addConstants (service : Service) (decl : Int) : Build Unit := do
  addMember decl {
    name := "Version", comment := .str "The API version."
    body := .constant "string" (.str service.version) }
  addMember decl
    (constantProperty "Name" (.str service.name) "" [.override] (.str "Gets the service name."))
  if service.baseUri.truthy then
    addMember decl
      (constantProperty "BaseUri" service.baseUri "" [.override]
        (.str "Gets the service base URI."))

/-- The last segment of the address of a scope. -/
def scopeWord (uri : String) : String :=
  let segments := Text.splitOnChar '/' (Text.dropEndWhile (· == '/') uri.toList)
  String.ofList (segments.getLast?.getD [])

/-- Add a constant for each scope. -/
def addScopeConstants (context : Context) (decl : Int) : List (String × Json) → Build Unit
  | [] => pure ()
  | (uri, description) :: rest => do
    let name ← safeName decl (Identifier.pascal (scopeWord uri)) context.suffix []
    addMember decl {
      name, comment := if description.truthy then description else .null
      body := .constant "string" (.str uri) }
    addScopeConstants context decl rest

/-- Add a class with a constant for each scope, if there are scopes. -/
def addScopes (service : Service) (decl : Int) (context : Context) : Build Unit := do
  if !service.scopes.isEmpty then
    let name ← safeName decl "Scope" context.suffix serviceBaseMembers
    let comment := "Available OAuth 2.0 scopes for use with the " ++ service.displayName.text ++ "."
    let scopeDecl ← addClass (some decl) (Declaration.ofClass name [] (.str comment))
    addScopeConstants context scopeDecl service.scopes

/-- The property for a child resource. -/
def resourceProperty (name type : Json) (resource : String) : Declaration :=
  { name, modifiers := [.virtual], comment := .str ("Gets the " ++ resource ++ " resource.")
    body := .property { type, hasSet := false } }

/-- Add a property for each top-level resource that has a class. -/
def addResources (decl : Int) (context : Context) : List Resource → Build Unit
  | [] => pure ()
  | r :: rest => do
    if !(← context.ignoresResource r.path) then
      let type ← context.resourceClass r.path
      if (← look fun m => m.memberNames none).any type.sameKey then
        let name ← safeName decl (Identifier.pascal r.name) context.suffix serviceBaseMembers
        addMember decl (resourceProperty name type r.name)
    addResources decl context rest

/-- Add the constructor, which creates every resource that has a property. -/
def addConstructor (service : Service) (decl : Int) (context : Context) : Build Unit := do
  let (own, _) ← look fun m => m.getClass decl
  let statements ← resourceAssignments context service.resources "this"
    (← look fun m => m.members decl)
  addMember decl {
    name := own.name, comment := .str "Constructs a new service."
    body := .method {
      isConstructor := true
      parameters :=
        [⟨"initializer", context.config.serviceBaseClass.text ++ ".Initializer", .absent⟩]
      statements
      baseCall := some [.snippet "initializer"] } }

/-- **Decorate the service class.** -/
def run (p : ServicePass) (service : Service) (decl : Int) (context : Context) : Build Unit :=
  match p with
  | .constants => addConstants service decl
  | .scopes => addScopes service decl context
  | .resources => addResources decl context service.resources
  | .constructor => addConstructor service decl context

end ServicePass

end ClientGen
