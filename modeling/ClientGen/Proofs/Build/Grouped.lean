import ClientGen.Generation

/-!
# Building does not look at the grouping

A setting says whether every type gets a unit of its own. It is read when the units are put
together, and nowhere before: none of the decorators looks at it, nor does any step of a building,
so the model, the issues and the log are those of the settings without it
(`ClientGen.Plan.build_grouped`). Only the plan that a building hands on knows the difference
(`ClientGen.buildDocument_grouped`).

Each equation says this for one definition that takes the settings, from the decorators up.
-/

namespace ClientGen

open Build Decorator

/-- The settings with another grouping of the units. -/
def Config.grouped (config : Config) (grouping : Json) : Config :=
  { config with oneFilePerType := grouping }

/-- The context with another grouping of the units. -/
def Context.grouped (c : Context) (grouping : Json) : Context :=
  { c with config := c.config.grouped grouping }

/-- The site of a request class with another grouping of the units in its context. -/
def RequestSite.grouped (s : RequestSite) (grouping : Json) : RequestSite :=
  { s with context? := s.context?.map fun c => c.grouped grouping }

/-- The plan with another grouping of the units. -/
def Plan.grouped (plan : Plan) (grouping : Json) : Plan :=
  { plan with context := plan.context.grouped grouping }

variable (grouping : Json)

/-! ### The decorators -/

section Context

variable (c : Context)

theorem resourceAssignments_grouped (children : List Resource) (service : String) :
    ∀ ds : List Declaration,
      resourceAssignments (c.grouped grouping) children service ds =
        resourceAssignments c children service ds
  | [] => rfl
  | d :: rest => by
    rw [resourceAssignments, resourceAssignments, resourceAssignments_grouped children service rest]
    rfl

namespace ServicePass

theorem addScopeConstants_grouped (decl : Int) : ∀ scopes : List (String × Json),
    addScopeConstants (c.grouped grouping) decl scopes = addScopeConstants c decl scopes
  | [] => rfl
  | (uri, description) :: rest => by
    rw [addScopeConstants, addScopeConstants, addScopeConstants_grouped decl rest]
    rfl

theorem addResources_grouped (decl : Int) : ∀ rs : List Resource,
    addResources decl (c.grouped grouping) rs = addResources decl c rs
  | [] => rfl
  | r :: rest => by
    rw [addResources, addResources, addResources_grouped decl rest]
    rfl

theorem run_grouped (p : ServicePass) (service : Service) (decl : Int) :
    p.run service decl (c.grouped grouping) = p.run service decl c := by
  cases p with
  | constants => rfl
  | scopes =>
    simp only [run, addScopes, addScopeConstants_grouped]
    rfl
  | resources => exact addResources_grouped grouping c decl service.resources
  | constructor =>
    simp only [run, addConstructor, resourceAssignments_grouped]
    rfl

end ServicePass

namespace ResourcePass

theorem addSubresources_grouped (decl : Int) : ∀ rs : List Resource,
    addSubresources decl (c.grouped grouping) rs = addSubresources decl c rs
  | [] => rfl
  | r :: rest => by
    rw [addSubresources, addSubresources, addSubresources_grouped decl rest]
    rfl

theorem run_grouped (p : ResourcePass) (resource : Resource) (decl : Int) :
    p.run resource decl (c.grouped grouping) = p.run resource decl c := by
  cases p with
  | wireName => rfl
  | subresources => exact addSubresources_grouped grouping c decl resource.resources
  | service => simp only [run, addService, resourceAssignments_grouped]

end ResourcePass

namespace SchemaPass

-- along the fields and, for an object described on the spot, the fields of its class
mutual

theorem addFields_grouped (reserved : List Json) (decl : Int) : ∀ fields : List Field,
    addFields (c.grouped grouping) reserved decl fields = addFields c reserved decl fields
  | [] => rfl
  | ⟨wireName, type, description, required, path⟩ :: rest => by
    simp only [addFields, addFields_grouped reserved decl rest, addInline_grouped decl _ type]
    rfl

theorem addInline_grouped (decl : Int) (name : Json) : ∀ type : TypeRef,
    addInline (c.grouped grouping) decl name type = addInline c decl name type
  | .object _ ⟨_, description, fields, _⟩ => by
    simp only [addInline, addFields_grouped [] _ fields]
  | .array items => by rw [addInline, addInline, addInline_grouped decl name items]
  | .map values => by rw [addInline, addInline, addInline_grouped decl name values]
  | .primitive .. | .ref .. | .any .. => rfl

end

theorem run_grouped (p : SchemaPass) (schema? : Option Schema) (decl : Int) :
    p.run schema? decl (c.grouped grouping) = p.run schema? decl c := by
  cases p with
  | documentation => rfl
  | properties =>
    simp only [run, addProperties, addFields_grouped]
    rfl
  | etag => rfl

end SchemaPass

end Context

namespace RequestPass

variable (s : RequestSite)

-- a site without a context fails alike, so each definition is looked at with and without one

theorem addParameters_grouped (method : Method) : ∀ ps : List Parameter,
    addParameters (s.grouped grouping) method ps = addParameters s method ps
  | [] => rfl
  | p :: rest => by
    rw [addParameters, addParameters, addParameters_grouped method rest]
    obtain ⟨resource, method?, request, owner, _ | c⟩ := s <;> rfl

theorem takeRequired_grouped (properties : List (String × Declaration)) :
    ∀ (ps : List Parameter) (g : Signature),
      takeRequired (s.grouped grouping) properties ps g = takeRequired s properties ps g
  | [], _ => rfl
  | p :: rest, g => by
    simp only [takeRequired, takeRequired_grouped properties rest]
    obtain ⟨resource, method?, request, owner, _ | c⟩ := s <;> rfl

theorem defaultLiteral_grouped (p : Parameter) (value : Json) (location : String) :
    defaultLiteral (s.grouped grouping) p value location = defaultLiteral s p value location := by
  obtain ⟨resource, method?, request, owner, _ | c⟩ := s <;> rfl

theorem assignDefaults_grouped (location : String) (properties : List (String × Declaration)) :
    ∀ (ps : List Parameter) (g : Signature),
      assignDefaults (s.grouped grouping) location properties ps g =
        assignDefaults s location properties ps g
  | [], _ => rfl
  | p :: rest, g => by
    simp only [assignDefaults, assignDefaults_grouped location properties rest,
      defaultLiteral_grouped]

theorem run_grouped (p : RequestPass) : p.run (s.grouped grouping) = p.run s := by
  cases p with
  | documentation | fields => rfl
  | parameters =>
    simp only [run, addParameters_grouped]
    rfl
  | constructor =>
    simp only [run, addConstructor, takeRequired_grouped, assignDefaults_grouped]
    obtain ⟨resource, method?, request, owner, _ | c⟩ := s <;> rfl
  | body | factory => obtain ⟨resource, method?, request, owner, _ | c⟩ := s <;> rfl

end RequestPass

/-! ### The steps of a building -/

namespace Plan

variable (plan : Plan)

theorem buildMethod_grouped (resource : Resource) (owner : Int) (method : Method) :
    (plan.grouped grouping).buildMethod resource owner method =
      plan.buildMethod resource owner method := by
  have hrun (request : Int) (pass : RequestPass) :
      pass.run ⟨resource, some method, request, owner, some (plan.context.grouped grouping)⟩ =
        pass.run ⟨resource, some method, request, owner, some plan.context⟩ :=
    pass.run_grouped grouping ⟨resource, some method, request, owner, some plan.context⟩
  simp only [buildMethod, grouped, hrun]
  rfl

mutual

theorem buildResource_grouped : ∀ (r : Resource) (owner : Option Int),
    (plan.grouped grouping).buildResource owner r = plan.buildResource owner r
  | ⟨name, methods, inner, path⟩, owner => by
    simp only [buildResource, buildResources_grouped inner, buildMethod_grouped]
    simp only [grouped, ResourcePass.run_grouped]
    rfl

theorem buildResources_grouped : ∀ (rs : List Resource) (owner : Option Int),
    (plan.grouped grouping).buildResources owner rs = plan.buildResources owner rs
  | [], _ => rfl
  | r :: rest, owner => by
    simp only [buildResources, buildResource_grouped r, buildResources_grouped rest]
    rfl

end

theorem buildSchemas_grouped : ∀ schemas : List Schema,
    (plan.grouped grouping).buildSchemas schemas = plan.buildSchemas schemas
  | [] => rfl
  | s :: rest => by
    have hschema : (plan.grouped grouping).buildSchema s = plan.buildSchema s := by
      simp only [buildSchema, grouped, SchemaPass.run_grouped]
      rfl
    simp only [buildSchemas, hschema, buildSchemas_grouped rest]
    rfl

/-- **A building does not look at the grouping of the units.** -/
theorem build_grouped : (plan.grouped grouping).build = plan.build := by
  simp only [build, buildResources_grouped, buildSchemas_grouped]
  simp only [grouped, ServicePass.run_grouped]
  rfl

end Plan

/-! ### The whole of a building -/

variable (config : Config) (pipeline : Pipeline)

theorem planFor_grouped (service : Service) :
    planFor (config.grouped grouping) pipeline service =
      (planFor config pipeline service).map fun plan => plan.grouped grouping := by
  have hsuffix : (config.grouped grouping).uniqueSuffix = config.uniqueSuffix := rfl
  rw [planFor, planFor, hsuffix]
  cases Naming.resolve config.uniqueSuffix service <;> rfl

/-- **A document is built alike under every grouping**: only the plan tells which one it was. -/
theorem buildDocument_grouped (document : Json) :
    buildDocument (config.grouped grouping) pipeline document =
      (fun plan => plan.grouped grouping) <$> buildDocument config pipeline document := by
  rw [buildDocument, buildDocument, map_bind]
  refine bind_congr fun service => ?_
  rw [planFor_grouped]
  cases planFor config pipeline service with
  | error e => rfl
  | ok plan =>
    change ((plan.grouped grouping).build >>= fun _ => pure (plan.grouped grouping)) =
      (fun plan => plan.grouped grouping) <$> (plan.build >>= fun _ => pure plan)
    rw [plan.build_grouped grouping, map_bind]
    rfl

end ClientGen
