import ClientGen.Pass.Request
import ClientGen.Pass.Resource
import ClientGen.Pass.Schema

/-!
# Pipelines of decorators

The decorators that a configuration asks for, in its order.
-/

namespace ClientGen

/-- The decorators of a generation, in the order in which they run. -/
structure Pipeline where
  /-- The decorators of the service class. -/
  service : List ServicePass
  /-- The decorators of resource classes. -/
  resource : List ResourcePass
  /-- The decorators of request classes. -/
  request : List RequestPass
  /-- The decorators of schema classes. -/
  schema : List SchemaPass

namespace Pipeline

/-- The decorator that a value of a configuration names. -/
def choose {α : Type} (kind : String) (registry : List (String × α)) (name : Json) : Outcome α := do
  let known := (← name.keyText?).bind fun s => registry.lookup s
  match known with
  | some pass => return pass
  | none => Outcome.fault (.unknownDecorator kind name (registry.map Prod.fst))

/-- The decorators that a setting of a configuration lists. -/
def chooseAll {α : Type} (kind : String) (registry : List (String × α)) (names : Option Json) :
    Outcome (List α) := do
  (← (← Outcome.required names).elements).mapM (choose kind registry)

/-- **The decorators that a configuration asks for.** -/
def ofConfig (c : Config) : Outcome Pipeline := do
  let service ← chooseAll "service" ServicePass.registry c.serviceDecorators
  let resource ← chooseAll "resource" ResourcePass.registry c.resourceDecorators
  let request ← chooseAll "request" RequestPass.registry c.requestDecorators
  let schema ← chooseAll "schema" SchemaPass.registry c.schemaDecorators
  return { service, resource, request, schema }

end Pipeline

end ClientGen
