import ClientGen.Pass.Service

/-!
# Decorators of resource classes
-/

namespace ClientGen

open Build Decorator

/-- The decorators of resource classes. -/
inductive ResourcePass
  /-- The name of the resource on the wire. -/
  | wireName : ResourcePass
  /-- A property for each resource inside. -/
  | subresources : ResourcePass
  /-- The service and the constructor. -/
  | service : ResourcePass
  deriving DecidableEq, Repr

namespace ResourcePass

/-- The decorators by name. -/
def registry : List (String × ResourcePass) :=
  [("resource_name", .wireName), ("subresources", .subresources), ("resource_service", .service)]

/-- Add a private constant with the name of the resource on the wire. -/
def addWireName (resource : Resource) (decl : Int) : Build Unit :=
  addMember decl {
    name := "Resource", access := .ownClass
    body := .constant "string" (.str resource.name) }

/-- Add a property for each resource inside that has a class. -/
def addSubresources (decl : Int) (context : Context) : List Resource → Build Unit
  | [] => pure ()
  | r :: rest => do
    if !(← context.ignoresResource r.path) then
      let type ← context.resourceClass r.path
      if (← look fun m => m.memberNames (some decl)).any type.sameKey then
        let name ← safeName decl (Identifier.pascal r.name) context.suffix
          (serviceMember :: context.naming.resources.values)
        addMember decl (ServicePass.resourceProperty name type r.name)
    addSubresources decl context rest

/-- Add the property that holds the service, and the constructor, which sets it and creates
every resource inside that has a property. -/
def addService (resource : Resource) (decl : Int) (context : Context) : Build Unit := do
  let (own, _) ← look fun m => m.getClass decl
  addMember decl {
    name := serviceMember, comment := .str "The service which this resource belongs to."
    body := .property { type := clientService, hasSet := false } }
  let created ← resourceAssignments context resource.resources "service"
    (← look fun m => m.members decl)
  addMember decl {
    name := own.name, comment := .str "Constructs a new resource."
    body := .method {
      isConstructor := true
      parameters := [⟨"service", clientService, .absent⟩]
      statements := .assign serviceMember (.snippet "service") :: created } }

/-- **Decorate a resource class.** -/
def run (p : ResourcePass) (resource : Resource) (decl : Int) (context : Context) : Build Unit :=
  match p with
  | .wireName => addWireName resource decl
  | .subresources => addSubresources decl context resource.resources
  | .service => addService resource decl context

end ResourcePass

end ClientGen
