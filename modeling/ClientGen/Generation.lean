import ClientGen.CSharp.Unit
import ClientGen.Document.Reader
import ClientGen.Pass.Pipeline

/-!
# Generating a service

A generation reads a document, names the classes, builds the code model and writes it as
source units.

The model is built in **guarded steps**: one for each resource, each method, the decoration
of the service class, and each schema. A step that meets an issue is taken back as a whole
and its issue is recorded; the steps after it go on. A step for a resource contains those
for its methods and for the resources inside it.
-/

namespace ClientGen

open Build

/-! ### Building the model -/

/-- **A guarded step**: when it meets an issue, what it added is taken back and the issue is
recorded, at the step's location if it has none of its own. -/
def guarded (location : String) (step : Build Unit) : Build Unit := fun w =>
  match step w with
  | .ok _ w' => .ok () w'
  | .error (.fault f) w' => .error (.fault f) w'
  | .error (.issue i) w' =>
    (do
      onModel (CodeModel.rollback w.model.mark)
      modify fun v => { v with ledger := v.ledger.record (i.orAt location) } : Build Unit) w'

/-- What the steps of a building work with. -/
structure Plan where
  /-- The decorators. -/
  pipeline : Pipeline
  /-- The context of the decorators. -/
  context : Context

namespace Plan

/-- Add the request class of a method to the class of its resource. -/
def buildMethod (plan : Plan) (resource : Resource) (owner : Int) (method : Method) :
    Build Unit := do
  let context := plan.context
  let location := resource.path ++ "." ++ method.name
  let response ← match method.response with
    | some schema => context.schemaIndex.className schema location
    | none => pure (.str "string")
  let name ← safeName owner (Identifier.pascal method.name ++ "Request") context.suffix []
  let base := context.config.requestBaseClass.text ++ "<" ++ (← response.written) ++ ">"
  let request ← addClass (some owner) (Declaration.ofClass name [.str base] .null)
  plan.pipeline.request.forM fun pass =>
    pass.run ⟨resource, some method, request, owner, some context⟩

mutual

/-- Add the class of a resource, with the classes of the resources inside it, its own
members and the request classes of its methods. -/
def buildResource (plan : Plan) (owner : Option Int) : Resource → Build Unit
  | resource@⟨name, methods, inner, path⟩ => do
    let className ← plan.context.resourceClass path
    let comment := "The \"" ++ name ++ "\" collection of methods."
    let decl ← addClass owner (Declaration.ofClass className [] (.str comment))
    buildResources plan (some decl) inner
    plan.pipeline.resource.forM fun pass => pass.run resource decl plan.context
    methods.forM fun method =>
      guarded (path ++ "." ++ method.name) (plan.buildMethod resource decl method)

/-- Add the classes of resources, each in a guarded step, except for those left out. -/
def buildResources (plan : Plan) (owner : Option Int) : List Resource → Build Unit
  | [] => pure ()
  | r :: rest => do
    if !(← plan.context.ignoresResource r.path) then
      guarded r.path (buildResource plan owner r)
    buildResources plan owner rest

end

/-- Add the class of a schema. -/
def buildSchema (plan : Plan) (schema : Schema) : Build Unit := do
  let context := plan.context
  let name ← match context.naming.schemas.find? schema.name with
    | some name => pure name
    | none => throw (.fault .noEntry)
  let interface := context.config.schemaBaseInterface
  let bases := if interface.truthy then [interface] else []
  let decl ← addClass none (Declaration.ofClass name bases .null)
  plan.pipeline.schema.forM fun pass => pass.run (some schema) decl context

/-- Add the classes of schemas, each in a guarded step, except for those left out. -/
def buildSchemas (plan : Plan) : List Schema → Build Unit
  | [] => pure ()
  | s :: rest => do
    if !(← plan.context.ignoresSchema s.name) then guarded s.path (plan.buildSchema s)
    buildSchemas plan rest

/-- **Build the model of a service**: its class, the classes of its resources, the members
of its class, which depend on the resources that were built, and the classes of its
schemas. -/
def build (plan : Plan) : Build Unit := do
  let service := plan.context.service
  let comment := "The " ++ service.displayName.text ++ " Service."
  let decl ← addClass none (Declaration.ofClass plan.context.naming.serviceClass
    [plan.context.config.serviceBaseClass] (.str comment))
  plan.buildResources none service.resources
  guarded service.name (plan.pipeline.service.forM fun pass => pass.run service decl plan.context)
  plan.buildSchemas service.schemas
  let w ← get
  write .debug ("Built " ++ toString w.model.size ++ " declarations for " ++ service.name)

end Plan

/-- Name the classes of a service. -/
def planFor (config : Config) (pipeline : Pipeline) (service : Service) : Outcome Plan := do
  let naming ← Naming.resolve config.uniqueSuffix service
  return ⟨pipeline, ⟨service, config, naming⟩⟩

/-- Read a document and build its model. -/
def buildDocument (config : Config) (pipeline : Pipeline) (document : Json) : Build Plan := do
  let service ← onLedger (Document.read document)
  let plan ← planFor config pipeline service
  plan.build
  return plan

/-- The workbench on which a document is built. -/
def Workbench.start (document : Json) : Workbench :=
  { ledger := { serviceName := Document.nameOf document } }

/-! ### Writing the model -/

/-- The using directives of every unit. -/
def defaultUsings : List String :=
  ["System", "System.Collections.Generic", "Newtonsoft.Json", "Google.Apis.Requests",
   "Google.Apis.Services", "Google.Apis.Util"]

namespace Context

/-- The version as a part of a namespace: characters that it cannot have become
underscores, and a first digit is put after a letter. -/
def versionPart (version : String) : String :=
  let cs := version.toList.map fun c => if c.isAlphanum || c == '_' then c else '_'
  match cs with
  | [] => ""
  | c :: _ => String.ofList (if c.isDigit then 'v' :: cs else cs)

/-- **The namespace of the generated code**: the one configured, or the root, the name of
the service and its version. -/
def namespaceName (c : Context) : Outcome Json :=
  if c.config.configuredNamespace.truthy then .ok c.config.configuredNamespace
  else
    let parts := [c.config.rootNamespace, .str (Identifier.pascal c.service.name),
      .str (versionPart c.service.version)]
    do
      let texts ← (parts.filter Json.truthy).mapM Json.asText
      return .str (".".intercalate texts)

/-- **The using directives**: the default ones and those configured, each once. -/
def usings (c : Context) : Outcome (List Json) := do
  let additional ← (← (← Outcome.required c.config.additionalUsings).elements).mapM Json.asKey
  return Json.distinctKeys (defaultUsings.map .str ++ additional)

/-- The comment on the generation. -/
def generationComment (c : Context) (commandLine : String) : String :=
  if c.config.generationComment.truthy then
    "// Generated by discovery_to_code v1.0.0 : " ++ commandLine
  else ""

/-- What the units of a generation have around their declarations. -/
def unitFrame (c : Context) (commandLine : String) : Outcome CSharp.UnitFrame := do
  let namespaceName ← c.namespaceName
  let usings ← c.usings
  return { namespaceName, usings, comment := .str (c.generationComment commandLine) }

end Context

/-- A source file to be: its name and its text. -/
structure SourceUnit where
  /-- The name of the file. -/
  fileName : String
  /-- The text. -/
  text : String
  deriving DecidableEq, Repr

/-- The name of the file for a type. -/
def fileNameOf (typeName : Json) : Outcome String := do
  return (← typeName.written) ++ ".cs"

/-- The units for declarations that are given with their names and texts: one for each, or
one for all of them. -/
def Context.units (c : Context) (commandLine : String) (rendered : List (Json × String)) :
    Outcome (List SourceUnit) := do
  if rendered.isEmpty then return []
  else
    let frame ← c.unitFrame commandLine
    if c.config.oneFilePerType.truthy then
      rendered.mapM fun r => do return ⟨← fileNameOf r.1, frame.assemble [r.2]⟩
    else
      return [⟨← fileNameOf c.naming.serviceClass, frame.assemble (rendered.map Prod.snd)⟩]

/-- The texts of declarations at some places, with their names. What cannot be expressed is
left out and its issue recorded. -/
def renderEach (m : CodeModel) : List Nat → Session Ledger (List (Json × String))
  | [] => pure []
  | place :: rest => do
    let d ← m.atPlace place
    let text ← match CSharp.render m place with
      | .error (.issue i) =>
        if i.kind = .unsupportedConstruct then do
          modify (·.record i)
          pure none
        else throw (.issue i)
      | .error (.fault f) => throw (.fault f)
      | .ok text => pure (some (d.name, text))
    let later ← renderEach m rest
    return text.toList ++ later

/-- What a generation gives: the source units and the ledger. -/
structure Generated where
  /-- The source units. -/
  units : List SourceUnit
  /-- What there is to tell. -/
  ledger : Ledger

/-- Write the model of a plan. -/
def Plan.write (plan : Plan) (commandLine : String) (m : CodeModel) :
    Session Ledger (List SourceUnit) := do
  let rendered ← renderEach m m.topLevel
  let units ← plan.context.units commandLine rendered
  let l ← get
  set (l.write .debug
    ("Generated " ++ toString units.length ++ " source unit(s) for " ++ l.serviceName))
  return units

/-- **Generate a document.** A document that cannot be read gives no units. -/
def generate (config : Config) (commandLine : String) (document : Json) : Outcome Generated := do
  let pipeline ← Pipeline.ofConfig config
  match buildDocument config pipeline document (Workbench.start document) with
  | .error (.issue i) w =>
    if i.kind = .malformedDocument then return ⟨[], w.ledger.record i⟩ else throw (.issue i)
  | .error (.fault f) _ => throw (.fault f)
  | .ok plan w =>
    match plan.write commandLine w.model.freeze w.ledger with
    | .ok units ledger => return ⟨units, ledger⟩
    | .error e _ => throw e

/-- **Generate several documents**, in order. A number of workers below one is refused
where the work would be shared: for two documents or more. -/
def generateAll (config : Config) (commandLine : String) (workers : Json)
    (documents : List Json) : Outcome (List Generated) := do
  if documents.length > 1 then
    match workers with
    | .null => pure ()
    | .bool b => if !b then Outcome.fault .noWorkers
    | .int n => if n ≤ 0 then Outcome.fault .noWorkers
    | .float x => if x.isZero || x.isNegative then Outcome.fault .noWorkers
    | _ => Outcome.fault .wrongKind
  documents.mapM (generate config commandLine)

end ClientGen
