import ClientGen.Proofs.Build.Outline
import ClientGen.Proofs.Document.Coverage

/-!
# Nothing is lost in silence

A document whose model is built without any issue is in the model as a whole. After the class
of the service there is a class for each entry under the resources of the document and then
one for each entry under its schemas, in the order of the document, except for those that are
to be left out; and so on inside the classes of resources, where each entry under the methods
has a class and a factory (`ClientGen.MirrorsResources`, `ClientGen.MirrorsSchemas`). These
relations speak of the document itself and not of what was read from it.

With issues or without, the issues that the building records are those that its guarded steps
meet, one for each step that meets one, and such a step leaves the model as it found it.
-/

namespace ClientGen

open Build ClientGen.Tree Document

/-- The decorators of a configuration are the default ones. -/
structure Config.HasDefaultDecorators (config : Config) : Prop where
  service : config.serviceDecorators = ({} : Config).serviceDecorators
  resource : config.resourceDecorators = ({} : Config).resourceDecorators
  request : config.requestDecorators = ({} : Config).requestDecorators
  schema : config.schemaDecorators = ({} : Config).schemaDecorators

theorem Config.HasDefaultDecorators.ofConfig {config : Config} (h : config.HasDefaultDecorators) :
    Pipeline.ofConfig config = .ok .registered := by
  rw [Pipeline.ofConfig, h.service, h.resource, h.request, h.schema]
  rfl

/-- **What the default decorators build from a document**: after the class of the service come the
classes of the resources that are kept and those of the schemas that are kept. -/
theorem exists_forms_of_buildDocument {config : Config} {pipeline : Pipeline} {document : Json}
    {plan : Plan} {w : Workbench} (hconfig : config.HasDefaultDecorators)
    (hpipeline : Pipeline.ofConfig config = .ok pipeline)
    (h : buildDocument config pipeline document (Workbench.start document) = .ok plan w) :
    plan.context.config = config ∧
    ∃ l : Ledger, Document.read document (Workbench.start document).ledger =
        .ok plan.context.service l ∧
      ∃ (service : Tree) (resources schemas : List Tree),
        w.model.forest = service :: (resources ++ schemas) ∧
        ResourceForms plan.context (MethodForm plan.context) (plan.keptServiceResources ⟨{}, l⟩)
          resources ∧
        List.Forall₂ (SchemaForm plan.context) (plan.keptServiceSchemas ⟨{}, l⟩) schemas := by
  rw [hconfig.ofConfig] at hpipeline
  obtain rfl := Except.ok.inj hpipeline
  obtain ⟨service, l, hread, hplan, hbuild⟩ := exists_build_of_buildDocument h
  obtain ⟨rfl, hcontext⟩ := planFor_context hplan
  obtain ⟨top, resources, schemas, hforest, -, -, hresources, hschemas⟩ :=
    Plan.exists_forms (planFor_pipeline hplan) hbuild
  exact ⟨hcontext, l, hread, top, resources, schemas, hforest, hresources, hschemas⟩

/-! ### What mirrors a document -/

section Mirrors

variable (c : Context)

/-- **Members mirror entries under methods**: for each a class that tells the key, and then a
method that returns an object of the class. -/
inductive MirrorsMethods : Fields → List Tree → Prop
  | nil : MirrorsMethods [] []
  | cons {name : String} {value : Json} {rest : Fields} {request factory : Tree} {b : MethodBody}
    {ts : List Tree} (hclass : request.isClass = true)
    (hrequest : IsMadeSafe c (Identifier.pascal name ++ "Request") request.name)
    (hkey : leaf (RequestPass.overriding "MethodName" (.str name)) ∈ request.members)
    (hfactory : IsMadeSafe c (Identifier.pascal name) factory.name)
    (hmethod : factory.decl.body = .method b ∧ b.isConstructor = false)
    (hmakes : b.returnType = request.name) (hrest : MirrorsMethods rest ts) :
    MirrorsMethods ((name, value) :: rest) (request :: factory :: ts)

mutual

/-- **A class mirrors a value under resources**: it has the classes that mirror the entries
under its resources, members that are neither classes nor factories, among them one that tells
the key, and the members that mirror the entries under its methods. -/
inductive MirrorsResource : (name path : String) → Json → Tree → Prop
  | intro {name path : String} {fields : Fields} {d : Declaration} {inner own requests : List Tree}
    (hclass : d.isClass = true) (hname : c.resourceClass path = .ok d.name)
    (hinner : MirrorsResources (dotted path) (fields.objectAt "resources") inner)
    (hown : ∀ t ∈ own, t.IsAside)
    (hkey : ∃ t ∈ own, t.name = "Resource" ∧ t.decl.body = .constant "string" (.str name))
    (hrequests : MirrorsMethods c (fields.objectAt "methods") requests) :
    MirrorsResource name path (.object fields) (.node d (inner ++ own ++ requests))

/-- **Classes mirror entries under resources**: there is one for each, in order, except for
those whose paths are to be left out. -/
inductive MirrorsResources : (pathOf : String → String) → Fields → List Tree → Prop
  | nil {pathOf : String → String} : MirrorsResources pathOf [] []
  | ignored {pathOf : String → String} {name : String} {value : Json} {rest : Fields}
    {ts : List Tree} (h : c.ignoresResource (pathOf name) = .ok true)
    (hrest : MirrorsResources pathOf rest ts) : MirrorsResources pathOf ((name, value) :: rest) ts
  | kept {pathOf : String → String} {name : String} {value : Json} {rest : Fields} {t : Tree}
    {ts : List Tree} (h : c.ignoresResource (pathOf name) = .ok false)
    (ht : MirrorsResource name (pathOf name) value t) (hrest : MirrorsResources pathOf rest ts) :
    MirrorsResources pathOf ((name, value) :: rest) (t :: ts)

end

/-- **Classes mirror entries under schemas**: there is one for each, in order, except for those
to be left out. -/
inductive MirrorsSchemas : Fields → List Tree → Prop
  | nil : MirrorsSchemas [] []
  | ignored {name : String} {value : Json} {rest : Fields} {ts : List Tree}
    (h : c.ignoresSchema name = .ok true) (hrest : MirrorsSchemas rest ts) :
    MirrorsSchemas ((name, value) :: rest) ts
  | kept {name : String} {value : Json} {rest : Fields} {t : Tree} {ts : List Tree}
    (h : c.ignoresSchema name = .ok false) (hclass : t.isClass = true)
    (hname : c.naming.schemas.find? name = some t.name) (hrest : MirrorsSchemas rest ts) :
    MirrorsSchemas ((name, value) :: rest) (t :: ts)

end Mirrors

/-! ### From the outline to the document -/

variable {c : Context}

theorem mirrors_methods {lost : String → Prop} (hlost : ∀ location, ¬ lost location)
    {r : Resource} {ms : List Method} {ts : List Tree} (h : RequestTrees c lost r ms ts)
    {entries : Fields} (hnames : ms.map Method.name = entries.map Prod.fst) :
    MirrorsMethods c entries ts := by
  induction h generalizing entries with
  | nil =>
    obtain rfl : entries = [] := by simpa using hnames.symm
    exact .nil
  | failed h => exact (hlost _ h).elim
  | @built m ms request factory ts h hrest ih =>
    obtain _ | ⟨⟨name, value⟩, rest⟩ := entries
    · cases hnames
    · obtain ⟨rfl, hlater⟩ := List.cons.inj hnames
      obtain ⟨hrequest, b, hbody, hconstructor, hreturn, hname, -⟩ := h
      obtain ⟨hrequestName, -, -, -, -, -⟩ := hrequest
      exact .cons rfl hrequestName (by simp [headTrees]) hname ⟨hbody, hconstructor⟩ hreturn
        (ih hlater)

mutual

theorem mirrors_resource {lost : String → Prop} (hlost : ∀ location, ¬ lost location) :
    ∀ (r : Resource) {name path : String} {value : Json} {t : Tree},
      ResourceCovers name path value r → ResourceTree c lost r t →
      MirrorsResource c name path value t
  | ⟨_, _, inner, _⟩, _, _, _, _, .intro hmethods hresources,
      .intro hname hinner hown hrequests =>
    .intro rfl hname (mirrors_resources hlost inner hresources hinner) hown.aside hown.wireName
      (mirrors_methods hlost hrequests hmethods)

theorem mirrors_resources {lost : String → Prop} (hlost : ∀ location, ¬ lost location) :
    ∀ (rs : List Resource) {pathOf : String → String} {entries : Fields} {ts : List Tree},
      ResourcesCover pathOf entries rs → ResourceTrees c lost rs ts →
      MirrorsResources c pathOf entries ts
  | [], _, _, _, .nil, .nil => .nil
  | r :: rest, _, _, _, .cons hr hrest, htrees => by
    have hpath := hr.path_eq
    cases htrees with
    | ignored h hlater =>
      exact .ignored (hpath ▸ h) (mirrors_resources hlost rest hrest hlater)
    | failed h => exact (hlost _ h).elim
    | built h ht hlater =>
      exact .kept (hpath ▸ h) (mirrors_resource hlost r hr ht)
        (mirrors_resources hlost rest hrest hlater)

end

theorem mirrors_schemas {plan : Plan} {schemas : List Schema} {w w' : Workbench}
    (h : plan.buildSchemas schemas w = .ok () w')
    (hnone : ∀ a ∈ plan.schemaAttempts schemas w, a.issue? = none) {entries : Fields}
    (hnames : schemas.map Schema.name = entries.map Prod.fst) {ts : List Tree}
    (hts : List.Forall₂ (SchemaTree plan.context) (plan.keptSchemas schemas w) ts) :
    MirrorsSchemas plan.context entries ts := by
  induction schemas generalizing w entries ts with
  | nil =>
    obtain rfl : entries = [] := by simpa using hnames.symm
    cases hts
    exact .nil
  | cons s rest ih =>
    obtain _ | ⟨⟨name, value⟩, later⟩ := entries
    · cases hnames
    obtain ⟨rfl, hlater⟩ := List.cons.inj hnames
    rw [Plan.schemaAttempts] at hnone
    rw [Plan.keptSchemas] at hts
    cases hignored : plan.context.ignoresSchema s.name with
    | error e =>
      simp only [Plan.buildSchemas, hignored] at h
      cases h
    | ok ignored =>
      rw [hignored] at hnone hts
      cases ignored with
      | true =>
        rw [Plan.buildSchemas_cons_of_ignored hignored] at h
        exact .ignored hignored (ih h hnone hlater hts)
      | false =>
        rw [Plan.buildSchemas_cons_of_kept hignored] at h
        obtain ⟨_, v, hv, h⟩ := Session.bind_eq_ok.1 h
        dsimp only at hnone hts
        rw [attemptsAfter, hv] at hnone
        rw [Session.after_of_ok hv] at hts
        obtain ⟨hfirst, hnone⟩ := List.forall_mem_cons.1 hnone
        have hfine : (plan.buildSchema s).meetsIssue w = false := by
          rw [← Attempt.isSome_issue? ⟨s.path, _, w⟩, hfirst]
          rfl
        rw [hfine] at hts
        obtain _ | ⟨ht, hts⟩ := hts
        obtain ⟨hname, -, -⟩ := ht
        exact .kept hignored rfl hname (ih h hnone hlater hts)

/-! ### Documents -/

/-- **Nothing is lost in silence.** If no issue is recorded, the model mirrors the document.
In any case the building records the issues that its guarded steps meet, each step that meets
one leaves the model as it found it, and what is missing from the model is what such steps
were to add. -/
theorem mirrors_of_buildDocument {config : Config} {pipeline : Pipeline} {document : Json}
    {plan : Plan} {w : Workbench} (hconfig : config.HasDefaultDecorators)
    (hpipeline : Pipeline.ofConfig config = .ok pipeline)
    (h : buildDocument config pipeline document (Workbench.start document) = .ok plan w) :
    plan.context.config = config ∧
    (w.ledger.issues = [] → ∃ (fields : Fields) (service : Tree) (resources schemas : List Tree),
      document = .object fields ∧ w.model.forest = service :: (resources ++ schemas) ∧
      ServiceTree plan.context service ∧
      MirrorsResources plan.context id (fields.objectAt "resources") resources ∧
      MirrorsSchemas plan.context (fields.objectAt "schemas") schemas) ∧
    ∃ l : Ledger, Document.read document (Workbench.start document).ledger =
        .ok plan.context.service l ∧
      w.ledger.issues = l.issues ++ (plan.attempts ⟨{}, l⟩).filterMap Attempt.issue? ∧
      (∀ a ∈ plan.attempts ⟨{}, l⟩, ∀ i, a.issue? = some i →
        ∃ l', guarded a.location a.step a.start = .ok () ⟨a.start.model, l'⟩) ∧
      ∃ (service : Tree) (resources schemas : List Tree),
        w.model.forest = service :: (resources ++ schemas) ∧
        ServiceTree plan.context service ∧
        ResourceTrees plan.context (plan.Loses ⟨{}, l⟩) plan.context.service.resources resources ∧
        List.Forall₂ (SchemaTree plan.context)
          (plan.keptSchemas plan.context.service.schemas (plan.buildService.after ⟨{}, l⟩))
          schemas := by
  rw [hconfig.ofConfig] at hpipeline
  obtain rfl := Except.ok.inj hpipeline
  obtain ⟨service, l, hread, hplan, hbuild⟩ := exists_build_of_buildDocument h
  obtain ⟨rfl, hconfig⟩ := planFor_context hplan
  have hregistered : plan.pipeline = .registered := planFor_pipeline hplan
  have haccounts := plan.accounts_build (w := ⟨{}, l⟩) Over.nil
  have hissues := haccounts.issues
  rw [Session.after_of_ok hbuild] at hissues
  have houtline := Plan.exists_outline hregistered hbuild
  refine ⟨hconfig, fun hnone => ?_, l, hread, hissues,
    fun a ha i hi => (haccounts.sound a ha).model_guarded hi, houtline⟩
  -- without issues no attempt has met one, and nothing was left out by the reading
  rw [hissues, List.append_eq_nil_iff, List.filterMap_eq_nil_iff] at hnone
  obtain ⟨hl, hfine⟩ := hnone
  obtain ⟨fields, rfl, hcover, hnames⟩ := covers_read hread hl
  obtain ⟨top, resources, schemas, hforest, htop, hresources, hschemas⟩ := houtline
  refine ⟨fields, top, resources, schemas, rfl, hforest, htop, ?_, ?_⟩
  · refine mirrors_resources ?_ _ hcover hresources
    rintro location ⟨a, ha, -, hissue⟩
    rw [hfine a ha] at hissue
    cases hissue
  · rw [Plan.build_eq] at hbuild
    obtain ⟨_, v, hservice, hbuild⟩ := Session.bind_eq_ok.1 hbuild
    obtain ⟨_, u, hrun, hbuild⟩ := Session.bind_eq_ok.1 hbuild
    rw [Session.after_of_ok hservice] at hschemas
    exact mirrors_schemas hrun
      (fun a ha => hfine a (Plan.mem_attempts_of_mem_schemaAttempts hservice ha)) hnames hschemas

/-- A document with resources inside a resource. -/
def libraryDocument : Json :=
  .object [("name", "library"),
    ("schemas", .object [
      ("Book", .object [("properties", .object [("title", .object [("type", "string")])])]),
      ("Internal", .object [])]),
    ("resources", .object [
      ("books", .object [
        ("methods", .object [
          ("get", .object [("httpMethod", "GET"), ("path", "books"),
            ("response", .object [("$ref", "Book")])]),
          ("list", .object [("httpMethod", "GET"), ("path", "books")])]),
        ("resources", .object [("drafts", .object []), ("pages", .object [])])]),
      ("shelves", .object [])])]

/-- The default settings, but for a schema and two resources to be left out. -/
def libraryConfig : Config :=
  { ignoreSchemas := some (.list ["Internal"])
    ignoreResources := some (.list ["books.drafts", "shelves"]) }

/-- The model of the document above mirrors it. -/
theorem mirrors_libraryDocument :
    libraryConfig.HasDefaultDecorators ∧
    Pipeline.ofConfig libraryConfig = .ok .registered ∧
    ∃ (plan : Plan) (w : Workbench) (fields : Fields) (service : Tree)
      (resources schemas : List Tree),
      buildDocument libraryConfig .registered libraryDocument (Workbench.start libraryDocument) =
        .ok plan w ∧
      w.ledger.issues = [] ∧ libraryDocument = .object fields ∧
      w.model.forest = service :: (resources ++ schemas) ∧
      w.model.forest.map (fun t => t.name.text) = ["LibraryService", "BooksResource", "Book"] ∧
      MirrorsResources plan.context id (fields.objectAt "resources") resources ∧
      MirrorsSchemas plan.context (fields.objectAt "schemas") schemas := by
  have hconfig : libraryConfig.HasDefaultDecorators := ⟨rfl, rfl, rfl, rfl⟩
  have hrun : (match buildDocument libraryConfig .registered libraryDocument
      (Workbench.start libraryDocument) with
    | .ok _ w => (w.ledger.issues.isEmpty, w.model.forest.map fun t => t.name.text)
    | .error _ _ => (false, [])) = (true, ["LibraryService", "BooksResource", "Book"]) := by
    decide +kernel
  cases hbuild : buildDocument libraryConfig .registered libraryDocument
      (Workbench.start libraryDocument) with
  | error e w =>
    rw [hbuild] at hrun
    cases hrun
  | ok plan w =>
    rw [hbuild] at hrun
    obtain ⟨hissues, hnames⟩ := Prod.mk.inj hrun
    have hissues : w.ledger.issues = [] := List.isEmpty_iff.1 hissues
    obtain ⟨-, hmirrors, -⟩ := mirrors_of_buildDocument hconfig hconfig.ofConfig hbuild
    obtain ⟨fields, service, resources, schemas, hfields, hforest, -, hresources, hschemas⟩ :=
      hmirrors hissues
    exact ⟨hconfig, hconfig.ofConfig, plan, w, fields, service, resources, schemas, rfl, hissues,
      hfields, hforest, hnames, hresources, hschemas⟩

end ClientGen
