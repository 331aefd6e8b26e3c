import ClientGen.Proofs.Session
import ClientGen.Generation

/-!
# What the steps of a building depend on

A step for a resource, a method or a schema looks at the service and the configuration only
in part. The names of classes depend on the tree of resources but not on the methods in it;
the decorators ask resources for their names and paths; and the schemas to leave out matter
only where it is decided whether a schema is left out.

So a plan may have its methods and its list of schemas to leave out replaced
(`ClientGen.Plan.reduced`), and as long as the tree of resources stays the same
(`ClientGen.Resource.bare`) each step remains the very same step. This is said here by one
equation for each step.
-/

namespace ClientGen

open Build Decorator

/-! ### Trees of resources -/

namespace Resource

mutual

/-- A resource without methods, its own and those of the resources inside it. -/
def bare : Resource → Resource
  | ⟨name, _, inner, path⟩ => ⟨name, [], bareAll inner, path⟩

/-- Resources without methods. -/
def bareAll : List Resource → List Resource
  | [] => []
  | r :: rest => r.bare :: bareAll rest

end

theorem bare_name : ∀ r : Resource, r.bare.name = r.name
  | ⟨_, _, _, _⟩ => rfl

theorem bare_path : ∀ r : Resource, r.bare.path = r.path
  | ⟨_, _, _, _⟩ => rfl

theorem bareAll_eq_map (rs : List Resource) : bareAll rs = rs.map bare := by
  induction rs with
  | nil => rfl
  | cons r rest ih => rw [bareAll, ih, List.map_cons]

end Resource

namespace Naming

mutual

theorem nameResource_bare (suffix : Json) :
    ∀ (r : Resource) (used : List Json) (table : Table),
      nameResource suffix r.bare used table = nameResource suffix r used table
  | ⟨name, methods, inner, path⟩, used, table => by
    simp only [Resource.bare, nameResource, nameResources_bareAll suffix inner]

theorem nameResources_bareAll (suffix : Json) :
    ∀ (rs : List Resource) (used : List Json) (table : Table),
      nameResources suffix (Resource.bareAll rs) used table = nameResources suffix rs used table
  | [], _, _ => rfl
  | r :: rest, used, table => by
    simp only [Resource.bareAll, nameResources, nameResource_bare suffix r,
      nameResources_bareAll suffix rest]

end

/-- The names of classes do not depend on methods. -/
theorem resolve_congr (suffix : Json) (service : Service) {rs : List Resource}
    (h : Resource.bareAll rs = Resource.bareAll service.resources) :
    resolve suffix { service with resources := rs } = resolve suffix service := by
  have hnames : ∀ used table, nameResources suffix rs used table =
      nameResources suffix service.resources used table := by
    intro used table
    rw [← nameResources_bareAll, h, nameResources_bareAll]
  simp only [resolve, hnames]

end Naming

/-! ### Reduced contexts -/

namespace Context

/-- A context with other resources and other schemas to leave out. -/
def reduced (c : Context) (rs : List Resource) (ys : List Json) : Context :=
  { c with
    service := { c.service with resources := rs }
    config := { c.config with ignoreSchemas := some (.list ys) } }

variable (c : Context) (rs : List Resource) (ys : List Json)

@[simp] theorem reduced_naming : (c.reduced rs ys).naming = c.naming := rfl

@[simp] theorem reduced_suffix : (c.reduced rs ys).suffix = c.suffix := rfl

@[simp] theorem reduced_schemaIndex : (c.reduced rs ys).schemaIndex = c.schemaIndex := rfl

@[simp] theorem reduced_resourceClass (path : String) :
    (c.reduced rs ys).resourceClass path = c.resourceClass path := rfl

@[simp] theorem reduced_ignoresResource (path : String) :
    (c.reduced rs ys).ignoresResource path = c.ignoresResource path := rfl

@[simp] theorem reduced_requestBaseClass :
    (c.reduced rs ys).config.requestBaseClass = c.config.requestBaseClass := rfl

end Context

variable (c : Context) (rs : List Resource) (ys : List Json)

/-! ### Decorators of the service class and of resource classes -/

theorem resourceAssignments_reduced {children children' : List Resource}
    (h : Resource.bareAll children' = Resource.bareAll children) (service : String)
    (ds : List Declaration) :
    resourceAssignments (c.reduced rs ys) children' service ds =
      resourceAssignments c children service ds := by
  have hclasses : (children'.filterMap fun r => c.naming.resources.find? r.path) =
      children.filterMap fun r => c.naming.resources.find? r.path := by
    have hmap := congrArg (List.filterMap fun r => c.naming.resources.find? r.path) h
    simpa only [Resource.bareAll_eq_map, List.filterMap_map, Function.comp_def,
      Resource.bare_path] using hmap
  induction ds with
  | nil => rfl
  | cons d rest ih => simp only [resourceAssignments, Context.reduced_naming, hclasses, ih]

namespace ServicePass

theorem addScopeConstants_reduced (decl : Int) (scopes : List (String × Json)) :
    addScopeConstants (c.reduced rs ys) decl scopes = addScopeConstants c decl scopes := by
  induction scopes with
  | nil => rfl
  | cons scope rest ih => simp only [addScopeConstants, Context.reduced_suffix, ih]

theorem addResources_bareAll (decl : Int) (children : List Resource) :
    addResources decl c (Resource.bareAll children) = addResources decl c children := by
  induction children with
  | nil => rfl
  | cons r rest ih =>
    simp only [Resource.bareAll, addResources, Resource.bare_path, Resource.bare_name, ih]

theorem addResources_reduced (decl : Int) (children : List Resource) :
    addResources decl (c.reduced rs ys) children = addResources decl c children := by
  induction children with
  | nil => rfl
  | cons r rest ih =>
    simp only [addResources, Context.reduced_ignoresResource, Context.reduced_resourceClass,
      Context.reduced_suffix, ih]

/-- The decorators of the service class do not look at methods. -/
theorem run_reduced (h : Resource.bareAll rs = Resource.bareAll c.service.resources)
    (p : ServicePass) (decl : Int) :
    p.run { c.service with resources := rs } decl (c.reduced rs ys) = p.run c.service decl c := by
  cases p with
  | constants => rfl
  | scopes =>
    rw [run, run, addScopes, addScopes]
    simp only [addScopeConstants_reduced]
    rfl
  | resources =>
    rw [run, run, addResources_reduced, ← addResources_bareAll, h, addResources_bareAll]
  | constructor =>
    rw [run, run, addConstructor, addConstructor]
    simp only [resourceAssignments_reduced c rs ys h]
    rfl

end ServicePass

namespace ResourcePass

theorem addSubresources_bareAll (decl : Int) (children : List Resource) :
    addSubresources decl c (Resource.bareAll children) = addSubresources decl c children := by
  induction children with
  | nil => rfl
  | cons r rest ih =>
    simp only [Resource.bareAll, addSubresources, Resource.bare_path, Resource.bare_name, ih]

theorem addSubresources_reduced (decl : Int) (children : List Resource) :
    addSubresources decl (c.reduced rs ys) children = addSubresources decl c children := by
  induction children with
  | nil => rfl
  | cons r rest ih =>
    simp only [addSubresources, Context.reduced_ignoresResource, Context.reduced_resourceClass,
      Context.reduced_suffix, Context.reduced_naming, ih]

/-- The decorators of resource classes do not look at methods. -/
theorem run_reduced {r r' : Resource} (h : r'.bare = r.bare) (p : ResourcePass) (decl : Int) :
    p.run r' decl (c.reduced rs ys) = p.run r decl c := by
  obtain ⟨name, methods, inner, path⟩ := r
  obtain ⟨name', methods', inner', path'⟩ := r'
  simp only [Resource.bare, Resource.mk.injEq] at h
  obtain ⟨rfl, -, hinner, rfl⟩ := h
  cases p with
  | wireName => rfl
  | subresources =>
    rw [run, run, addSubresources_reduced, ← addSubresources_bareAll, hinner,
      addSubresources_bareAll]
  | service =>
    rw [run, run, addService, addService]
    simp only [resourceAssignments_reduced c rs ys hinner]

end ResourcePass

/-! ### Decorators of request classes -/

namespace RequestPass

theorem context_some (r : Resource) (method? : Option Method) (request owner : Int)
    (c : Context) : RequestSite.context ⟨r, method?, request, owner, some c⟩ = .ok c := rfl

section

variable {r r' : Resource} (method : Method) (request owner : Int)

theorem addParameters_reduced (h : r'.path = r.path) (ps : List Parameter) :
    addParameters ⟨r', some method, request, owner, some (c.reduced rs ys)⟩ method ps =
      addParameters ⟨r, some method, request, owner, some c⟩ method ps := by
  induction ps with
  | nil => rfl
  | cons p rest ih =>
    simp only [addParameters, ih, context_some, Session.lift_ok_bind, RequestSite.locationOf, h]
    rfl

theorem takeRequired_reduced (properties : List (String × Declaration)) (ps : List Parameter)
    (g : Signature) :
    takeRequired ⟨r', some method, request, owner, some (c.reduced rs ys)⟩ properties ps g =
      takeRequired ⟨r, some method, request, owner, some c⟩ properties ps g := by
  induction ps generalizing g with
  | nil => rfl
  | cons p rest ih =>
    simp only [takeRequired, ih]
    rfl

theorem assignDefaults_reduced (location : String) (properties : List (String × Declaration))
    (ps : List Parameter) (g : Signature) :
    assignDefaults ⟨r', some method, request, owner, some (c.reduced rs ys)⟩ location properties
        ps g =
      assignDefaults ⟨r, some method, request, owner, some c⟩ location properties ps g := by
  induction ps generalizing g with
  | nil => rfl
  | cons p rest ih =>
    simp only [assignDefaults, ih]
    rfl

/-- The decorators of request classes ask the resource for its path only. -/
theorem run_reduced (h : r'.path = r.path) (p : RequestPass) :
    p.run ⟨r', some method, request, owner, some (c.reduced rs ys)⟩ =
      p.run ⟨r, some method, request, owner, some c⟩ := by
  cases p with
  | documentation => rfl
  | fields => rfl
  | parameters =>
    exact addParameters_reduced c rs ys method request owner h method.parameters
  | body =>
    simp only [run, addBody, context_some, Session.lift_ok_bind, RequestSite.locationOf, h]
    rfl
  | constructor =>
    simp only [run, addConstructor, takeRequired_reduced (r := r) c rs ys method request owner,
      assignDefaults_reduced (r := r) c rs ys method request owner, RequestSite.locationOf, h]
    rfl
  | factory =>
    simp only [run, addFactory, context_some, Session.lift_ok_bind, RequestSite.locationOf, h]
    rfl

end

end RequestPass

/-! ### Decorators of schema classes -/

namespace SchemaPass

mutual

theorem addFields_reduced (reserved : List Json) (decl : Int) :
    ∀ fields : List Field,
      addFields (c.reduced rs ys) reserved decl fields = addFields c reserved decl fields
  | [] => rfl
  | ⟨wireName, type, description, _, path⟩ :: rest => by
    simp only [addFields, Context.reduced_suffix, Context.reduced_schemaIndex,
      addFields_reduced reserved decl rest, addInline_reduced decl _ type]

theorem addInline_reduced (decl : Int) (name : Json) :
    ∀ type : TypeRef, addInline (c.reduced rs ys) decl name type = addInline c decl name type
  | .object _ ⟨_, description, fields, _⟩ => by
    simp only [addInline, addFields_reduced [] _ fields]
  | .array items => by
    simp only [addInline, addInline_reduced decl name items]
  | .map values => by
    simp only [addInline, addInline_reduced decl name values]
  | .primitive .. => rfl
  | .ref _ => rfl
  | .any _ => rfl

end

theorem run_reduced (p : SchemaPass) (schema? : Option Schema) (decl : Int) :
    p.run schema? decl (c.reduced rs ys) = p.run schema? decl c := by
  cases p with
  | documentation => rfl
  | properties =>
    simp only [run, addProperties, addFields_reduced]
    rfl
  | etag => rfl

end SchemaPass

/-! ### Reduced plans -/

namespace Plan

/-- A plan with other resources and other schemas to leave out. -/
def reduced (plan : Plan) (rs : List Resource) (ys : List Json) : Plan :=
  { plan with context := plan.context.reduced rs ys }

variable (plan : Plan)

@[simp] theorem reduced_context : (plan.reduced rs ys).context = plan.context.reduced rs ys := rfl

@[simp] theorem reduced_pipeline : (plan.reduced rs ys).pipeline = plan.pipeline := rfl

theorem buildMethod_reduced {r r' : Resource} (h : r'.path = r.path) (owner : Int)
    (method : Method) :
    (plan.reduced rs ys).buildMethod r' owner method = plan.buildMethod r owner method := by
  simp only [buildMethod, reduced_context, reduced_pipeline, h,
    RequestPass.run_reduced _ _ _ _ _ _ h, Context.reduced_schemaIndex, Context.reduced_suffix,
    Context.reduced_requestBaseClass]

theorem buildSchema_reduced (schema : Schema) :
    (plan.reduced rs ys).buildSchema schema = plan.buildSchema schema := by
  simp only [buildSchema, reduced_context, reduced_pipeline, SchemaPass.run_reduced]
  rfl

end Plan

end ClientGen
