import ClientGen.Proofs.Build.Complete
import ClientGen.Proofs.Naming.Distinct

/-!
# Classes that find their names free

The names of classes are chosen before anything is built, and looked up again when the classes
are added: the class of the service, those of the resources at every level, and those of the
schemas. An **opening** is such an addition with the workbench on which it is run, and
`ClientGen.Plan.openings` follows a building through all of its openings, those inside steps that
are taken back later on included.

The main result is that every opening succeeds (`ClientGen.succeeds_openings`): the name is there,
and it is free in its scope, whatever was added and taken back before. What is in the scope of a
class when a class is added to it are the classes of resources that come earlier, under the names
looked up for them, so the names that are told apart when they are chosen are still apart.

This needs that no two resources of the service have one path. A path joins names by dots, and
names may have dots themselves: `a.b` is the path of a resource of that name and also of `b` inside
`a`. The names are kept in a table by paths, so that two such resources share one entry, which is
that of the later one, and at the end the class of the one can have the name of a sibling of the
other (`ClientGen.exists_collision_dottedDocument`).
-/

namespace ClientGen

open Build ClientGen.Tree Naming

/-! ### Openings -/

/-- **An opening**: the addition of a class, and the workbench on which it is run. -/
structure Opening where
  /-- The addition, which looks the name of the class up. -/
  step : Build Int
  /-- The workbench on which it is run. -/
  start : Workbench

/-- An opening succeeds when the name of the class is found and free. -/
def Opening.Succeeds (o : Opening) : Prop :=
  ∃ decl w, o.step o.start = .ok decl w

namespace Plan

section Openings

variable (plan : Plan)

/-- Add the class of a schema. -/
def openSchema (s : Schema) : Build Int := do
  let name ← match plan.context.naming.schemas.find? s.name with
    | some name => pure name
    | none => throw (.fault .noEntry)
  addClass none (Declaration.ofClass name plan.context.schemaBases .null)

theorem buildSchema_eq (s : Schema) :
    plan.buildSchema s = (do
      let decl ← plan.openSchema s
      plan.pipeline.schema.forM fun pass => pass.run (some s) decl plan.context) := by
  simp only [buildSchema, openSchema, Context.schemaBases]
  cases plan.context.naming.schemas.find? s.name <;> simp only [bind_assoc]

mutual

/-- The openings in the step for a resource: its own, and those of the resources inside it. -/
def resourceOpenings (owner : Option Int) : Resource → Workbench → List Opening
  | r@⟨_, _, inner, _⟩, w =>
    ⟨plan.openResource owner r, w⟩ ::
      match plan.openResource owner r w with
      | .ok decl v => resourcesOpenings (some decl) inner v
      | .error _ _ => []

/-- The openings for resources that are built in order. -/
def resourcesOpenings (owner : Option Int) : List Resource → Workbench → List Opening
  | [], _ => []
  | r :: rest, w =>
    match plan.context.ignoresResource r.path with
    | .error _ => []
    | .ok true => resourcesOpenings owner rest w
    | .ok false =>
      resourceOpenings owner r w ++
        match guarded r.path (plan.buildResource owner r) w with
        | .ok _ v => resourcesOpenings owner rest v
        | .error _ _ => []

end

/-- The openings for schemas that are built in order. -/
def schemaOpenings : List Schema → Workbench → List Opening
  | [], _ => []
  | s :: rest, w =>
    match plan.context.ignoresSchema s.name with
    | .error _ => []
    | .ok true => schemaOpenings rest w
    | .ok false =>
      ⟨plan.openSchema s, w⟩ ::
        match guarded s.path (plan.buildSchema s) w with
        | .ok _ v => schemaOpenings rest v
        | .error _ _ => []

/-- **The openings of a building**: the service class, the classes of resources at every level,
and the classes of schemas. -/
def openings (w : Workbench) : List Opening :=
  ⟨plan.openService, w⟩ ::
    ((match plan.openService w with
      | .ok _ v => plan.resourcesOpenings none plan.context.service.resources v
      | .error _ _ => []) ++
    match plan.buildService w with
      | .ok _ v => plan.schemaOpenings plan.context.service.schemas v
      | .error _ _ => [])

end Openings

end Plan

/-! ### Names that are told apart are free -/

namespace Plan

variable {plan : Plan} {w w' : Workbench} {front : List Declaration} {owner : Option Int}
  {f : List Tree}

/-- The class of a resource is added when the name found for it is not barred. -/
theorem exists_openResource (husable : EntriesHave IsUsable plan.context.naming.resources)
    (hw : w.Grown front owner f) (ho : HasOwner front owner) {r : Resource} {name : Json}
    (hname : plan.context.naming.resources.find? r.path = some name)
    (hfree : name ∉ barredNames front owner ++ f.map Tree.name) :
    ∃ decl v, plan.openResource owner r w = .ok decl v := by
  obtain ⟨text, rfl, -⟩ := husable r.path name hname
  rw [openResource, Context.resourceClass_eq_ok.2 hname]
  exact hw.exists_addClass ho rfl rfl hfree

/-- The class of a schema is added when the name found for it is not barred. -/
theorem exists_openSchema (husable : EntriesHave IsUsable plan.context.naming.schemas)
    (hw : w.Grown front none f) {s : Schema} {name : Json}
    (hname : plan.context.naming.schemas.find? s.name = some name)
    (hfree : name ∉ barredNames front none ++ f.map Tree.name) :
    ∃ decl v, plan.openSchema s w = .ok decl v := by
  obtain ⟨text, rfl, -⟩ := husable s.name name hname
  rw [openSchema, hname]
  exact hw.exists_addClass nofun rfl rfl hfree

/-- The class of a resource has the name that was found for it. -/
theorem name_of_resourceTree {c : Context} {lost : String → Prop} {r : Resource} {t : Tree}
    (h : ResourceTree c lost r t) : c.naming.resources.find? r.path = some t.name := by
  obtain ⟨hname, -, -, -⟩ := h
  exact Context.resourceClass_eq_ok.1 hname

mutual

theorem succeeds_resource (hplan : plan.pipeline = .registered)
    (husable : EntriesHave IsUsable plan.context.naming.resources) :
    ∀ (r : Resource) {w : Workbench} {front : List Declaration} {owner : Option Int}
      {f : List Tree} {name : Json}, w.Grown front owner f →
      Over (made plan.context) [] w.model → HasOwner front owner →
      plan.context.naming.resources.find? r.path = some name →
      name ∉ barredNames front owner ++ f.map Tree.name →
      (∀ q ∈ r.withNested, AreTold (family plan.context.naming.resources q)) →
      ∀ o ∈ plan.resourceOpenings owner r w, o.Succeeds
  | ⟨_, _, inner, _⟩, w, front, owner, f, name, hw, hover, ho, hname, hfree, htold => by
    obtain ⟨decl, v, hopen⟩ := exists_openResource husable hw ho hname hfree
    rw [resourceOpenings, hopen]
    refine List.forall_mem_cons.2 ⟨⟨decl, v, hopen⟩, ?_⟩
    have hoverOpen := (steady_openResource hw.counted _).over_of_ok hover hopen
    -- inside the class, only its own name is barred
    obtain ⟨className, _, hlift, hadd⟩ := Session.bind_eq_ok.1 hopen
    obtain ⟨hclass, rfl⟩ := Session.lift_eq_ok.1 hlift
    obtain rfl : name = className :=
      Option.some.inj (hname.symm.trans (Context.resourceClass_eq_ok.1 hclass))
    obtain ⟨rfl, hempty⟩ := hw.addClass rfl hadd
    have hlength : front.length + size f = (front ++ layout owner front.length f).length := by simp
    have hcoherent := hempty.coherent
    rw [layout, List.append_nil] at hcoherent
    rw [hlength] at hempty hopen ⊢
    obtain ⟨hinside, hbarred⟩ := barredNames_snoc rfl hcoherent
    rw [Resource.withNested] at htold
    obtain ⟨hfamily, htold⟩ := List.forall_mem_cons.1 htold
    obtain ⟨own, names, hown, hlater, hnodup⟩ := exists_of_family hfamily
    obtain rfl := Option.some.inj (hname.symm.trans hown)
    refine succeeds_resources hplan husable inner hempty hoverOpen hinside hlater ?_ htold
    rw [hbarred]
    exact hnodup

theorem succeeds_resources (hplan : plan.pipeline = .registered)
    (husable : EntriesHave IsUsable plan.context.naming.resources) :
    ∀ (rs : List Resource) {w : Workbench} {front : List Declaration} {owner : Option Int}
      {f : List Tree} {names : List Json}, w.Grown front owner f →
      Over (made plan.context) [] w.model → HasOwner front owner →
      (rs.map fun r => plan.context.naming.resources.find? r.path) = names.map some →
      (barredNames front owner ++ f.map Tree.name ++ names).Nodup →
      (∀ q ∈ Resource.allNested rs, AreTold (family plan.context.naming.resources q)) →
      ∀ o ∈ plan.resourcesOpenings owner rs w, o.Succeeds
  | [], _, _, _, _, _, _, _, _, _, _, _, o, hmem => by
    rw [resourcesOpenings] at hmem
    cases hmem
  | r :: rest, w, front, owner, f, names, hw, hover, ho, hnames, hnodup, htold, o, hmem => by
    obtain ⟨name, later, rfl, hname, hlater⟩ := List.map_eq_cons_iff.1 hnames.symm
    rw [Resource.allNested] at htold
    obtain ⟨htoldFirst, htold⟩ := List.forall_mem_append.1 htold
    have hnodupRest : (barredNames front owner ++ f.map Tree.name ++ later).Nodup :=
      hnodup.sublist ((List.sublist_cons_self name later).append_left _)
    rw [resourcesOpenings] at hmem
    split at hmem
    · cases hmem
    · exact succeeds_resources hplan husable rest hw hover ho hlater.symm hnodupRest htold o hmem
    · rcases List.mem_append.1 hmem with hmem | hmem
      · have hfree : name ∉ barredNames front owner ++ f.map Tree.name := fun h =>
          (List.nodup_append.1 hnodup).2.2 name h name List.mem_cons_self rfl
        exact succeeds_resource hplan husable r hw hover ho hname.symm hfree htoldFirst o hmem
      · have hsteady := plan.steady_buildResource hw.counted r
        split at hmem
        · next v hv =>
          have hoverNext := (Steady.guarded hsteady).over_of_ok hover hv
          rcases cases_of_guarded hsteady hover hv with hbuilt | ⟨hmodel, -⟩
          · -- the class is there, under the name that was found
            obtain ⟨t, ht, htree, -⟩ : ∃ t, v.Grown front owner (f ++ [t]) ∧
                ResourceTree plan.context (fun _ => True) r t ∧ _ :=
              exists_resource hplan r hw hover (fun _ _ _ => trivial) hbuilt
            obtain rfl := Option.some.inj (hname.trans (name_of_resourceTree htree))
            refine succeeds_resources hplan husable rest ht hoverNext ho hlater.symm ?_ htold o hmem
            simpa using hnodup
          · exact succeeds_resources hplan husable rest (hw.of_model hmodel) hoverNext ho
              hlater.symm hnodupRest htold o hmem
        · cases hmem

end

theorem succeeds_schemas (hplan : plan.pipeline = .registered)
    (husable : EntriesHave IsUsable plan.context.naming.schemas) (schemas : List Schema)
    {names : List Json} (hw : w.Grown front none f) (hover : Over (made plan.context) [] w.model)
    (hnames : (schemas.map fun s => plan.context.naming.schemas.find? s.name) = names.map some)
    (hnodup : (scopeNames front none ++ f.map Tree.name ++ names).Nodup) :
    ∀ o ∈ plan.schemaOpenings schemas w, o.Succeeds := by
  induction schemas generalizing w f names with
  | nil =>
    rintro o ⟨⟩
  | cons s rest ih =>
    intro o hmem
    obtain ⟨name, later, rfl, hname, hlater⟩ := List.map_eq_cons_iff.1 hnames.symm
    have hnodupRest : (scopeNames front none ++ f.map Tree.name ++ later).Nodup :=
      hnodup.sublist ((List.sublist_cons_self name later).append_left _)
    rw [schemaOpenings] at hmem
    split at hmem
    · cases hmem
    · exact ih hw hover hlater.symm hnodupRest o hmem
    · rcases List.mem_cons.1 hmem with rfl | hmem
      · have hfree : name ∉ barredNames front none ++ f.map Tree.name := fun h =>
          (List.nodup_append.1 hnodup).2.2 name h name List.mem_cons_self rfl
        exact exists_openSchema husable hw hname.symm hfree
      · have hsteady : ∀ base, SteadyStep (made plan.context) base (plan.buildSchema s) :=
          fun _ => plan.steady_buildSchema s
        split at hmem
        · next v hv =>
          have hoverNext := (Steady.guarded hsteady).over_of_ok hover hv
          rcases cases_of_guarded hsteady hover hv with hbuilt | ⟨hmodel, -⟩
          · obtain ⟨_, ht, t, rfl, hform⟩ := adds_buildSchema hplan s hw hbuilt
            obtain ⟨hfound, -, -, -⟩ := hform
            obtain rfl := Option.some.inj (hname.trans hfound)
            refine ih ht hoverNext hlater.symm ?_ o hmem
            simpa [Declaration.ofClass] using hnodup
          · exact ih (hw.of_model hmodel) hoverNext hlater.symm hnodupRest o hmem
        · cases hmem

/-- The classes of resources have some of the names that were found for the resources. -/
theorem sublist_of_resourceTrees {c : Context} {lost : String → Prop} {rs : List Resource}
    {ts : List Tree} {names : List Json} (h : ResourceTrees c lost rs ts)
    (hnames : (rs.map fun r => c.naming.resources.find? r.path) = names.map some) :
    (ts.map Tree.name).Sublist names := by
  induction rs generalizing ts names with
  | nil =>
    cases h
    exact List.nil_sublist names
  | cons r rest ih =>
    obtain ⟨name, later, rfl, hname, hlater⟩ := List.map_eq_cons_iff.1 hnames.symm
    cases h with
    | ignored _ hrest => exact (ih hrest hlater.symm).cons name
    | failed _ hrest => exact (ih hrest hlater.symm).cons name
    | built _ htree hrest =>
      obtain rfl := Option.some.inj (hname.trans (name_of_resourceTree htree))
      exact (ih hrest hlater.symm).cons_cons _

/-- **Every opening of a building succeeds** when the names of the classes are told apart. -/
theorem succeeds_openings (hplan : plan.pipeline = .registered)
    (htells : plan.context.naming.Tells plan.context.service) (l : Ledger) :
    ∀ o ∈ plan.openings ⟨{}, l⟩, o.Succeeds := by
  obtain ⟨schemas, resources, hschemas, hresources, hnodup⟩ := htells.exists_names
  -- at the top level, the classes of resources come right after the service class
  have hnodupResources : (plan.context.naming.serviceClass :: resources).Nodup :=
    hnodup.sublist ((List.sublist_append_right schemas resources).cons_cons _)
  have hstart : Workbench.Grown ⟨{}, l⟩ [] none [] := ⟨rfl, .nil, .nil, by simp⟩
  obtain ⟨text, htext, -⟩ := htells.serviceClass
  obtain ⟨decl, w₁, hopen⟩ : ∃ decl v, plan.openService ⟨{}, l⟩ = .ok decl v :=
    hstart.exists_addClass nofun rfl htext (by simp [barredNames, scopeNames])
  obtain ⟨-, hgrown, hover⟩ := grown_openService hopen
  rw [openings, hopen]
  refine List.forall_mem_cons.2 ⟨⟨decl, w₁, hopen⟩, List.forall_mem_append.2 ⟨?_, ?_⟩⟩
  · refine succeeds_resources hplan htells.resourceClasses _ hgrown hover nofun hresources ?_
      htells.nested
    exact hnodupResources
  · split
    · next w₃ hrun =>
      obtain ⟨w₁', w₂, hopen', hresourcesRun, -, hoverService, hdecorate⟩ :=
        parts_of_buildService hrun
      cases hopen.symm.trans hopen'
      obtain ⟨rs, hgrown, htrees, -⟩ : ∃ rs,
          w₂.Grown [] none ([leaf plan.serviceDeclaration] ++ rs) ∧
          ResourceTrees plan.context (fun _ => True) _ rs ∧ _ :=
        exists_resources hplan _ hgrown hover (fun _ _ _ => trivial) hresourcesRun
      have hinside := hgrown.restart (some 0) (by simp)
      obtain ⟨ms, hms⟩ : ∃ ms, w₃.Grown _ (some 0) ms := by
        rcases hdecorate with hbuilt | hmodel
        · rw [decorateService, hplan] at hbuilt
          obtain ⟨ms, hms, -⟩ := ServicePass.adds_registered _ hinside hbuilt
          exact ⟨ms, hms⟩
        · exact ⟨[], hinside.of_model hmodel⟩
      -- the members of the service class are not at the top level
      refine succeeds_schemas hplan htells.schemaClasses _ (hms.restart none (by simp)) hoverService
        hschemas ?_
      rw [scopeNames_append, scopeNames_append, scopeNames_layout_none,
        scopeNames_layout _ _ _ (by simp)]
      have hsublist := (sublist_of_resourceTrees htrees hresources).append_left schemas
      refine (List.Perm.nodup_iff ?_).1 (hnodup.sublist (hsublist.cons_cons _))
      simpa [scopeNames, Tree.name, serviceDeclaration, Declaration.ofClass] using
        List.perm_append_comm
    · rintro o ⟨⟩

/-! ### Steps that open with an opening -/

variable (plan) in
/-- **What a guarded step opens with**: it is the step of a method or the decoration of the service
class, which add no class of a resource or of a schema, or it opens with one of some openings. -/
def OpensWith (openings : List Opening) (a : Attempt) : Prop :=
  (∃ r decl m, a.step = plan.buildMethod r decl m) ∨ (∃ decl, a.step = plan.decorateService decl) ∨
    ∃ o ∈ openings, a.start = o.start ∧ ∃ rest : Int → Build Unit, a.step = o.step >>= rest

theorem OpensWith.mono {first later : List Opening} (h : first ⊆ later) {a : Attempt}
    (ha : plan.OpensWith first a) : plan.OpensWith later a :=
  ha.imp_right (Or.imp_right fun ⟨o, ho, hopens⟩ => ⟨o, h ho, hopens⟩)

theorem opensWith_methods {r : Resource} {decl : Int} (ms : List Method) {a : Attempt}
    (ha : a ∈ plan.methodAttempts r decl ms w) : plan.OpensWith [] a := by
  induction ms generalizing w with
  | nil => cases ha
  | cons m rest ih =>
    rw [methodAttempts, List.singleton_append, List.mem_cons, attemptsAfter] at ha
    rcases ha with rfl | ha
    · exact .inl ⟨r, decl, m, rfl⟩
    · split at ha
      · exact ih ha
      · cases ha

mutual

theorem opensWith_resource :
    ∀ (r : Resource) {owner : Option Int} {w : Workbench}, ∀ a ∈ plan.resourceAttempts owner r w,
      plan.OpensWith (plan.resourceOpenings owner r w) a
  | ⟨name, methods, inner, path⟩, owner, w, a, ha => by
    rw [resourceAttempts, attemptsAfter] at ha
    rw [resourceOpenings]
    split at ha
    · next decl v hopen =>
      rw [hopen]
      rcases List.mem_append.1 ha with ha | ha
      · exact (opensWith_resources inner a ha).mono (List.subset_cons_self _ _)
      · rw [attemptsAfter] at ha
        split at ha
        · exact (opensWith_methods methods ha).mono (List.nil_subset _)
        · cases ha
    · cases ha

theorem opensWith_resources :
    ∀ (rs : List Resource) {owner : Option Int} {w : Workbench},
      ∀ a ∈ plan.resourcesAttempts owner rs w, plan.OpensWith (plan.resourcesOpenings owner rs w) a
  | [], _, _, a, ha => by
    rw [resourcesAttempts] at ha
    cases ha
  | r :: rest, owner, w, a, ha => by
    rw [resourcesAttempts] at ha
    rw [resourcesOpenings]
    cases hignored : plan.context.ignoresResource r.path with
    | error e =>
      rw [hignored] at ha
      cases ha
    | ok ignored =>
      rw [hignored] at ha
      cases ignored with
      | true => exact opensWith_resources rest a ha
      | false =>
        simp only [List.mem_append, List.mem_singleton] at ha
        rcases ha with (ha | rfl) | ha
        · exact (opensWith_resource r a ha).mono (List.subset_append_left _ _)
        · refine .inr (.inr ⟨⟨plan.openResource owner r, w⟩, List.mem_append_left _ ?_, rfl, _,
            plan.buildResource_eq owner r⟩)
          obtain ⟨name, methods, inner, path⟩ := r
          rw [resourceOpenings]
          exact List.mem_cons_self
        · rw [attemptsAfter] at ha
          dsimp only
          cases hv : guarded r.path (plan.buildResource owner r) w with
          | ok u v =>
            rw [hv] at ha
            exact (opensWith_resources rest a ha).mono (List.subset_append_right _ _)
          | error e v =>
            rw [hv] at ha
            cases ha

end

theorem opensWith_schemas (schemas : List Schema) :
    ∀ a ∈ plan.schemaAttempts schemas w, plan.OpensWith (plan.schemaOpenings schemas w) a := by
  induction schemas generalizing w with
  | nil => rintro a ⟨⟩
  | cons s rest ih =>
    intro a ha
    rw [schemaAttempts] at ha
    rw [schemaOpenings]
    cases hignored : plan.context.ignoresSchema s.name with
    | error e =>
      rw [hignored] at ha
      cases ha
    | ok ignored =>
      rw [hignored] at ha
      cases ignored with
      | true => exact ih a ha
      | false =>
        simp only [List.singleton_append, List.mem_cons, attemptsAfter] at ha
        rcases ha with rfl | ha
        · exact .inr (.inr ⟨_, List.mem_cons_self, rfl, _, plan.buildSchema_eq s⟩)
        · dsimp only
          cases hv : guarded s.path (plan.buildSchema s) w with
          | ok u v =>
            rw [hv] at ha
            exact (ih a ha).mono (List.subset_cons_self _ _)
          | error e v =>
            rw [hv] at ha
            cases ha

/-- **Every guarded step of a building** that is for a resource or a schema opens with an
opening. -/
theorem opensWith_attempts (w : Workbench) :
    ∀ a ∈ plan.attempts w, plan.OpensWith (plan.openings w) a := by
  intro a ha
  rw [attempts, attemptsAfter] at ha
  rw [openings]
  split at ha
  · next decl v hopen =>
    rw [hopen]
    rcases List.mem_append.1 ha with ha | ha
    · refine (opensWith_resources _ a ha).mono fun o ho => ?_
      exact List.mem_cons_of_mem _ (List.mem_append_left _ ho)
    · rw [attemptsAfter] at ha
      split at ha
      · next u hresources =>
        rw [List.singleton_append, List.mem_cons, attemptsAfter] at ha
        rcases ha with rfl | ha
        · exact .inr (.inl ⟨decl, rfl⟩)
        · split at ha
          · next t hdecorate =>
            have hrun : plan.buildService w = .ok () t := by
              rw [buildService, Session.bind_run_of_ok hopen, Session.bind_run_of_ok hresources]
              exact hdecorate
            rw [hrun]
            refine (opensWith_schemas _ a ha).mono fun o ho => ?_
            exact List.mem_cons_of_mem _ (List.mem_append_right _ ho)
          · cases ha
      · cases ha
  · cases ha

end Plan

/-! ### Documents -/

/-- **The names looked up for classes are free when the classes are added.** When a document is
built by the default decorators, names are found for all classes; and if no two resources of the
service have one path, the addition of the service class, of every class of a resource at any
level and of every class of a schema succeeds, at whatever point of the building it is run. The
steps whose issues are reported begin with these additions, or they are for methods and for the
decoration of the service class. -/
theorem succeeds_of_read {config : Config} {pipeline : Pipeline} {suffix : String} {document : Json}
    {service : Service} {l : Ledger} (hconfig : config.HasDefaultDecorators)
    (hsuffix : config.uniqueSuffix = .str suffix) (hs : IsDisarming suffix)
    (hpipeline : Pipeline.ofConfig config = .ok pipeline)
    (hkeys : document.hasDistinctKeys = true)
    (hread : Document.read document (Workbench.start document).ledger = .ok service l)
    (hpaths : ((Resource.allNested service.resources).map Resource.path).Nodup) :
    ∃ plan, planFor config pipeline service = .ok plan ∧
      (∀ o ∈ plan.openings ⟨{}, l⟩, o.Succeeds) ∧
      ∀ a ∈ plan.attempts ⟨{}, l⟩, plan.OpensWith (plan.openings ⟨{}, l⟩) a := by
  rw [hconfig.ofConfig] at hpipeline
  obtain rfl := Except.ok.inj hpipeline
  obtain ⟨naming, hnaming⟩ := exists_resolve hs service
  have htells := tells_resolve hs (Document.nodup_schemaNames hkeys hread) hpaths hnaming
  refine ⟨⟨.registered, service, config, naming⟩, ?_, Plan.succeeds_openings rfl htells l,
    Plan.opensWith_attempts _⟩
  rw [planFor, hsuffix, hnaming]
  rfl

/-- A document whose names meet at several levels: a schema and two resources want one class name,
a resource has dots in its name, one is named like the resource it is in, and one cannot be built
because its class has the name of a member of it. -/
def crossroadsDocument : Json :=
  .object [("name", "roads"),
    ("schemas", .object [("RoadResource", .object []), ("RoadsService", .object [])]),
    ("resources", .object [
      ("road", .object [("resources", .object [
        ("road", .object []), ("Road", .object []), ("!!", .object [])])]),
      ("ROAD", .object []),
      ("road.lane", .object [])])]

/-- In the document above no two resources have one path, so all classes find their names free. -/
theorem succeeds_crossroadsDocument :
    ({} : Config).HasDefaultDecorators ∧ ({} : Config).uniqueSuffix = .str "Value" ∧
    IsDisarming "Value" ∧ Pipeline.ofConfig {} = .ok .registered ∧
    crossroadsDocument.hasDistinctKeys = true ∧
    ∃ (service : Service) (l : Ledger),
      Document.read crossroadsDocument (Workbench.start crossroadsDocument).ledger =
        .ok service l ∧
      (Resource.allNested service.resources).map Resource.path =
        ["road", "road.road", "road.Road", "road.!!", "ROAD", "road.lane"] ∧
      ((Resource.allNested service.resources).map Resource.path).Nodup ∧
      ∃ plan, planFor {} .registered service = .ok plan ∧
        (∀ o ∈ plan.openings ⟨{}, l⟩, o.Succeeds) ∧
        ∀ a ∈ plan.attempts ⟨{}, l⟩, plan.OpensWith (plan.openings ⟨{}, l⟩) a := by
  have hconfig : ({} : Config).HasDefaultDecorators := ⟨rfl, rfl, rfl, rfl⟩
  have hs : IsDisarming "Value" := by decide +kernel
  have hkeys : crossroadsDocument.hasDistinctKeys = true := by decide +kernel
  have hrun : Session.passes
      (fun (service : Service) _ => (Resource.allNested service.resources).map Resource.path ==
        ["road", "road.road", "road.Road", "road.!!", "ROAD", "road.lane"])
      (Document.read crossroadsDocument (Workbench.start crossroadsDocument).ledger) = true := by
    decide +kernel
  obtain ⟨service, l, hread, htest⟩ := Session.exists_of_passes hrun
  have hlist := eq_of_beq htest
  have hpaths : ((Resource.allNested service.resources).map Resource.path).Nodup := by
    rw [hlist]
    decide
  exact ⟨hconfig, rfl, hs, hconfig.ofConfig, hkeys, service, l, hread, hlist, hpaths,
    succeeds_of_read hconfig rfl hs hconfig.ofConfig hkeys hread hpaths⟩

/-- Whether an opening finds its name taken. -/
def Opening.collides (o : Opening) : Bool :=
  match o.step o.start with
  | .error (.issue i) _ => i.kind == .identifierCollision
  | _ => false

theorem Opening.exists_of_collides {o : Opening} (h : o.collides = true) :
    ∃ i w, o.step o.start = .error (.issue i) w ∧ i.kind = .identifierCollision := by
  rw [collides] at h
  split at h
  · next i w hrun => exact ⟨i, w, hrun, eq_of_beq h⟩
  · cases h

/-- A document with the path `a.b` twice: a resource of that name, and `b` inside `a`. -/
def dottedDocument : Json :=
  .object [("name", "x"), ("resources", .object [
    ("a.b", .object []), ("b", .object []),
    ("a", .object [("resources", .object [("b", .object [])])])])]

/-- The resource `a.b` gets the class that was named for `b` inside `a`, which is also that of the
resource `b`; so the class of the latter is refused, and the issue is reported. -/
theorem exists_collision_dottedDocument :
    ∃ (service : Service) (l : Ledger) (plan : Plan) (w : Workbench),
      Document.read dottedDocument (Workbench.start dottedDocument).ledger = .ok service l ∧
      planFor {} .registered service = .ok plan ∧ plan.build ⟨{}, l⟩ = .ok () w ∧
      w.ledger.issues.map Issue.kind = [.identifierCollision] ∧
      ∃ o ∈ plan.openings ⟨{}, l⟩, ∃ i v, o.step o.start = .error (.issue i) v ∧
        i.kind = .identifierCollision := by
  have hrun : Session.passes (fun (plan : Plan) (w : Workbench) =>
        (plan.openings ⟨{}, w.ledger⟩).any Opening.collides &&
        Session.passes (fun _ v => v.ledger.issues.map Issue.kind == [.identifierCollision])
          (plan.build ⟨{}, w.ledger⟩))
      ((do
        let service ← onLedger (Document.read dottedDocument)
        planFor {} .registered service : Build Plan) (Workbench.start dottedDocument)) = true := by
    decide +kernel
  obtain ⟨plan, w, hstart, htest⟩ := Session.exists_of_passes hrun
  obtain ⟨service, _, hreading, hplanning⟩ := Session.bind_eq_ok.1 hstart
  obtain ⟨l, hread, rfl⟩ := Build.onLedger_eq_ok.1 hreading
  obtain ⟨hplan, rfl⟩ := Session.lift_eq_ok.1 hplanning
  obtain ⟨hcollides, hbuild⟩ := (Bool.and_eq_true _ _).mp htest
  obtain ⟨_, w, hbuild, hissues⟩ := Session.exists_of_passes hbuild
  obtain ⟨o, ho, hcollides⟩ := List.any_eq_true.1 hcollides
  exact ⟨service, l, plan, w, hread, hplan, hbuild, eq_of_beq hissues, o, ho,
    Opening.exists_of_collides hcollides⟩

end ClientGen
