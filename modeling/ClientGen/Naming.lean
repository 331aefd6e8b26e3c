import ClientGen.Document.Service
import ClientGen.Identifier
import ClientGen.Table

/-!
# Names of classes

The classes of the service, of its schemas and of its top-level resources share one
namespace, so their names are chosen together: each is the Pascal-cased name of what it
stands for, made safe, and told apart from those chosen before it by the suffix. The class
of a nested resource is nested in the class of its parent and only has to differ from that
class and from its siblings.
-/

namespace ClientGen

/-- The names of the classes of a service. -/
structure Naming where
  /-- The class of the service. -/
  serviceClass : Json
  /-- The classes of the schemas, by the name of the schema. -/
  schemas : Table
  /-- The classes of the resources, by the path of the resource. -/
  resources : Table

namespace Naming

/-- The name wanted for the class of a service. -/
def serviceCandidate (name : String) : String :=
  Identifier.pascal name ++ "Service"

/-- The name wanted for the class of a schema. -/
def schemaCandidate (name : String) : String :=
  Identifier.upperFirst (Identifier.pascal name)

/-- The name wanted for the class of a resource. -/
def resourceCandidate (name : String) : String :=
  Identifier.pascal name ++ "Resource"

/-- A safe name for a candidate that is not among the names used. -/
def choose (suffix : Json) (used : List Json) (candidate : String) : Outcome Json := do
  let reserved := Identifier.asSet (Identifier.keywordValues ++ used)
  let name ← Identifier.safeWith candidate suffix reserved
  Identifier.fresh suffix used name

/-- Name the schemas in order. Gives the names used and the table. -/
def nameSchemas (suffix : Json) :
    List Schema → List Json → Table → Outcome (List Json × Table)
  | [], used, table => .ok (used, table)
  | s :: rest, used, table => do
    let name ← choose suffix used (schemaCandidate s.name)
    nameSchemas suffix rest (used ++ [name]) (table.set s.name name)

mutual

/-- Name a resource, and after it the resources inside it, which only have to differ from it
and from each other. Gives its name and the table. -/
def nameResource (suffix : Json) : Resource → List Json → Table → Outcome (Json × Table)
  | ⟨name, _, inner, path⟩, used, table => do
    let className ← choose suffix used (resourceCandidate name)
    let table ← nameResources suffix inner [className] (table.set path className)
    return (className, table)

/-- Name the resources in order, each followed by the resources inside it. -/
def nameResources (suffix : Json) : List Resource → List Json → Table → Outcome Table
  | [], _, table => .ok table
  | r :: rest, used, table => do
    let (className, table) ← nameResource suffix r used table
    nameResources suffix rest (used ++ [className]) table

end

/-- **The names of all classes of a service.** -/
def resolve (suffix : Json) (service : Service) : Outcome Naming := do
  let serviceClass ← choose suffix [] (serviceCandidate service.name)
  let (used, schemas) ← nameSchemas suffix service.schemas [serviceClass] []
  let resources ← nameResources suffix service.resources used []
  return { serviceClass, schemas, resources }

end Naming

end ClientGen
