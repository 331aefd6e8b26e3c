import ClientGen.Proofs.Build.Attempts
import ClientGen.Proofs.Build.Requests

/-!
# The outline of a built model

The top level of a built model is the class of the service, then classes of resources, then
classes of schemas, and inside a class of a resource there are classes of the resources inside
it, its own members, and a class and a factory for each of its methods
(`ClientGen.Plan.exists_outline`). What met an issue is missing, and so is what was to be left
out.

The relation between resources and trees (`ClientGen.ResourceTrees`) has a parameter that
tells what may be missing without having been left out: it holds of the locations of the
attempts of the building that meet an issue. What is there is told exactly
(`ClientGen.Plan.exists_forms`): the resources and methods that are kept
(`ClientGen.Plan.keptResources`), each with its class in full (`ClientGen.ResourceForms`).
-/

namespace ClientGen

open Build ClientGen.Tree

/-! ### Outlines -/

section Outlines

variable (c : Context)

/-- The members of a resource class for its methods: a class and a factory for each. -/
inductive RequestTrees (lost : String → Prop) (r : Resource) : List Method → List Tree → Prop
  | nil : RequestTrees lost r [] []
  | failed {m : Method} {ms : List Method} {ts : List Tree} (h : lost (r.locationOf m))
    (hrest : RequestTrees lost r ms ts) : RequestTrees lost r (m :: ms) ts
  | built {m : Method} {ms : List Method} {request factory : Tree} {ts : List Tree}
    (h : MethodTrees c r m [request, factory]) (hrest : RequestTrees lost r ms ts) :
    RequestTrees lost r (m :: ms) (request :: factory :: ts)

mutual

/-- **The class of a resource**: the classes of the resources inside it, its own members, and
those for its methods. -/
inductive ResourceTree (lost : String → Prop) : Resource → Tree → Prop
  | intro {r : Resource} {name comment : Json} {inner own requests : List Tree}
    (hname : c.resourceClass r.path = .ok name)
    (hinner : ResourceTrees lost r.resources inner) (hown : OwnTrees r own)
    (hrequests : RequestTrees c lost r r.methods requests) :
    ResourceTree lost r
      (.node (Declaration.ofClass name [] comment) (inner ++ own ++ requests))

/-- **The classes of resources**, in order, without those left out. -/
inductive ResourceTrees (lost : String → Prop) : List Resource → List Tree → Prop
  | nil : ResourceTrees lost [] []
  | ignored {r : Resource} {rs : List Resource} {ts : List Tree}
    (h : c.ignoresResource r.path = .ok true) (hrest : ResourceTrees lost rs ts) :
    ResourceTrees lost (r :: rs) ts
  | failed {r : Resource} {rs : List Resource} {ts : List Tree} (h : lost r.path)
    (hrest : ResourceTrees lost rs ts) : ResourceTrees lost (r :: rs) ts
  | built {r : Resource} {rs : List Resource} {t : Tree} {ts : List Tree}
    (hkept : c.ignoresResource r.path = .ok false) (h : ResourceTree lost r t)
    (hrest : ResourceTrees lost rs ts) : ResourceTrees lost (r :: rs) (t :: ts)

end

section Forms

variable (R : String → Method → Tree → Tree → Prop)

/-- The members of a resource class for methods that were all kept: a class and a factory for each,
which are related to the location of the method and to the method. -/
inductive RequestForms (path : String) : List Method → List Tree → Prop
  | nil : RequestForms path [] []
  | cons {m : Method} {ms : List Method} {request factory : Tree} {ts : List Tree}
    (h : R (path ++ "." ++ m.name) m request factory) (hrest : RequestForms path ms ts) :
    RequestForms path (m :: ms) (request :: factory :: ts)

mutual

/-- **The class of a resource that was kept** with all its resources and methods. -/
inductive ResourceForm : Resource → Tree → Prop
  | intro {r : Resource} {name comment : Json} {inner own requests : List Tree}
    (hname : c.resourceClass r.path = .ok name) (hinner : ResourceForms r.resources inner)
    (hown : OwnTrees r own) (hrequests : RequestForms R r.path r.methods requests) :
    ResourceForm r (.node (Declaration.ofClass name [] comment) (inner ++ own ++ requests))

/-- **The classes of resources that were kept**, in order. -/
inductive ResourceForms : List Resource → List Tree → Prop
  | nil : ResourceForms [] []
  | cons {r : Resource} {rs : List Resource} {t : Tree} {ts : List Tree}
    (h : ResourceForm r t) (hrest : ResourceForms rs ts) : ResourceForms (r :: rs) (t :: ts)

end

end Forms

/-- **The class of the service.** -/
inductive ServiceTree : Tree → Prop
  | intro {comment : Json} {members : List Tree} (h : ∀ t ∈ members, IsServiceMember t) :
    ServiceTree (.node
      (Declaration.ofClass c.naming.serviceClass [c.config.serviceBaseClass] comment) members)

end Outlines

theorem RequestForms.imp {R R' : String → Method → Tree → Tree → Prop} {path : String}
    (h : ∀ {location m request factory}, R location m request factory →
      R' location m request factory) {ms : List Method} {ts : List Tree}
    (hforms : RequestForms R path ms ts) : RequestForms R' path ms ts := by
  induction hforms with
  | nil => exact .nil
  | cons hm _ ih => exact .cons (h hm) ih

mutual

theorem ResourceForm.imp {c : Context} {R R' : String → Method → Tree → Tree → Prop}
    (h : ∀ {location m request factory}, R location m request factory →
      R' location m request factory) :
    ∀ (r : Resource) {t : Tree}, ResourceForm c R r t → ResourceForm c R' r t
  | ⟨_, _, inner, _⟩, _, .intro hname hinner hown hrequests =>
    .intro hname (ResourceForms.imp h inner hinner) ⟨hown.aside, hown.wireName⟩ (hrequests.imp h)

/-- What is known of the classes and factories of methods can be weakened. -/
theorem ResourceForms.imp {c : Context} {R R' : String → Method → Tree → Tree → Prop}
    (h : ∀ {location m request factory}, R location m request factory →
      R' location m request factory) :
    ∀ (rs : List Resource) {ts : List Tree}, ResourceForms c R rs ts → ResourceForms c R' rs ts
  | [], _, .nil => .nil
  | r :: rest, _, .cons hr hrest => .cons (ResourceForm.imp h r hr) (ResourceForms.imp h rest hrest)

end

/-! ### Guarded steps on grown workbenches -/

variable {c : Context} {w w' : Workbench} {front : List Declaration} {owner : Option Int}
  {f : List Tree} {lost : String → Prop}

theorem Workbench.Grown.of_model {v : Workbench} (h : w.Grown front owner f)
    (hm : v.model = w.model) : v.Grown front owner f :=
  ⟨hm.trans h.model, h.coherent, h.detached, h.counted⟩

/-- What comes next may grow under another owner. -/
theorem Workbench.Grown.restart (h : w.Grown front owner f) (next : Option Int)
    (hnext : ∀ o, next = some o → 0 ≤ o) :
    w.Grown (front ++ layout owner front.length f) next [] where
  model := by rw [h.model, layout, List.append_nil]
  coherent := by rw [layout, List.append_nil]; exact h.coherent
  detached := .nil
  counted := hnext

/-- A guarded step that goes on has ended well, or is an attempt that met an issue and left the
model as it was. -/
theorem cases_of_guarded {location : String} {step : Build Unit}
    (hsteady : ∀ base, SteadyStep (made c) base step) (hover : Over (made c) [] w.model)
    (h : guarded location step w = .ok () w') :
    step w = .ok () w' ∨
      w'.model = w.model ∧ (Attempt.mk location step w).issue?.isSome = true ∧
        step.meetsIssue w = true := by
  cases hrun : step w with
  | ok u v =>
    rw [guarded, hrun] at h
    cases h
    exact .inl rfl
  | error e v =>
    cases e with
    | fault e =>
      rw [guarded, hrun] at h
      cases h
    | issue i =>
      have hissue : step.meetsIssue w = true := by simp [meetsIssue, hrun]
      obtain ⟨l, hguarded⟩ : ∃ l, guarded location step w = .ok () ⟨w.model, l⟩ :=
        guarded_of_meetsIssue hsteady hover hissue
      rw [hguarded] at h
      cases h
      exact .inr ⟨rfl, by simp [Attempt.issue?, hrun], hissue⟩

namespace Plan

/-! ### Resources and methods -/

section Kept

variable (plan : Plan)

mutual

/-- **What is kept of a resource** whose class is added: the methods whose steps meet no issue,
and what is kept of the resources inside it. -/
def keptResource (owner : Option Int) : Resource → Workbench → Resource
  | resource@⟨name, methods, inner, path⟩, w =>
    match plan.openResource owner resource w with
    | .error _ _ => resource
    | .ok decl w =>
      ⟨name, plan.survivors resource decl methods ((plan.fillResource decl resource).after w),
        keptResources (some decl) inner w, path⟩

/-- **What is kept of resources** when they are built in order: those that are not to be left out
and whose steps meet no issue. -/
def keptResources (owner : Option Int) : List Resource → Workbench → List Resource
  | [], _ => []
  | r :: rest, w =>
    match plan.context.ignoresResource r.path with
    | .ok false =>
      let later := keptResources owner rest ((guarded r.path (plan.buildResource owner r)).after w)
      if (plan.buildResource owner r).meetsIssue w then later
      else keptResource owner r w :: later
    | _ => keptResources owner rest w

end

end Kept

variable {plan : Plan}

theorem exists_methods (hplan : plan.pipeline = .registered) {r : Resource} {o : Int}
    (ho : 0 ≤ o) {ms : List Method} (hw : w.Grown front (some o) f)
    (hover : Over (made plan.context) [] w.model)
    (hlost : ∀ a ∈ plan.methodAttempts r o ms w, a.issue?.isSome = true → lost a.location)
    (h : ms.forM (plan.methodStep r o) w = .ok () w') :
    ∃ g, w'.Grown front (some o) (f ++ g) ∧ RequestTrees plan.context lost r ms g ∧
      RequestForms (MethodForm plan.context) r.path (plan.survivors r o ms w) g := by
  induction ms generalizing w f with
  | nil =>
    cases h
    exact ⟨[], by rwa [List.append_nil], .nil, .nil⟩
  | cons m rest ih =>
    obtain ⟨u, v, hv, h⟩ := Session.bind_eq_ok.1 h
    have hover' := (steady_methodStep r ho m).over_of_ok hover hv
    rw [methodAttempts, attemptsAfter, hv] at hlost
    have hrest : ∀ a ∈ plan.methodAttempts r o rest v, a.issue?.isSome = true → lost a.location :=
      fun a ha => hlost a (List.mem_append_right _ ha)
    rw [survivors_cons, Session.after_of_ok hv]
    rcases cases_of_guarded (fun _ => plan.steady_buildMethod r ho m) hover hv with
      hbuilt | ⟨hmodel, hissue, hmeets⟩
    · obtain ⟨g, hg, request, factory, rfl, hm⟩ := adds_buildMethod hplan r m hw hbuilt
      obtain ⟨g', hg', hrest, hforms⟩ := ih hg hover' hrest h
      have hfine : (plan.buildMethod r o m).meetsIssue w = false := by simp [meetsIssue, hbuilt]
      rw [hfine]
      exact ⟨_, by simpa using hg', .built hm.methodTrees hrest, .cons hm hforms⟩
    · obtain ⟨g, hg, hrest, hforms⟩ := ih (hw.of_model hmodel) hover' hrest h
      rw [hmeets]
      exact ⟨g, hg, .failed (hlost _ (List.mem_append_left _ (List.mem_singleton_self _)) hissue)
        hrest, hforms⟩

theorem keptResource_eq {owner : Option Int} {r : Resource} {decl : Int} {w w₁ : Workbench}
    (h : plan.openResource owner r w = .ok decl w₁) :
    plan.keptResource owner r w =
      ⟨r.name, plan.survivors r decl r.methods ((plan.fillResource decl r).after w₁),
        plan.keptResources (some decl) r.resources w₁, r.path⟩ := by
  obtain ⟨name, methods, inner, path⟩ := r
  simp only [keptResource, h]

mutual

theorem exists_resource (hplan : plan.pipeline = .registered) :
    ∀ (r : Resource) {w w' : Workbench} {front : List Declaration} {owner : Option Int}
      {f : List Tree}, w.Grown front owner f → Over (made plan.context) [] w.model →
      (∀ a ∈ plan.resourceAttempts owner r w, a.issue?.isSome = true → lost a.location) →
      plan.buildResource owner r w = .ok () w' →
      ∃ t, w'.Grown front owner (f ++ [t]) ∧ ResourceTree plan.context lost r t ∧
        ResourceForm plan.context (MethodForm plan.context) (plan.keptResource owner r w) t
  | ⟨name, methods, inner, path⟩, w, w', front, owner, f, hw, hover, hlost, h => by
    rw [buildResource_eq] at h
    obtain ⟨decl, v, hopen, h⟩ := Session.bind_eq_ok.1 h
    obtain ⟨_, u, hfill, hmethods⟩ := Session.bind_eq_ok.1 h
    rw [resourceAttempts, attemptsAfter, hopen] at hlost
    dsimp only at hlost
    rw [attemptsAfter, hfill] at hlost
    have hoverOpen := (steady_openResource hw.counted _).over_of_ok hover hopen
    obtain ⟨className, _, hclass, hadd⟩ := Session.bind_eq_ok.1 hopen
    obtain ⟨hname, rfl⟩ := Session.lift_eq_ok.1 hclass
    obtain ⟨rfl, hempty⟩ := hw.addClass rfl hadd
    have hdecl := hempty.counted _ rfl
    have hoverFill := (steady_fillResource _ hdecl).over_of_ok hoverOpen hfill
    -- inside the class: the resources, then the decorators, then the methods
    obtain ⟨_, t, hinner, hpasses⟩ := Session.bind_eq_ok.1 hfill
    obtain ⟨inside, hgrown, hinside, hinsideForms⟩ := exists_resources hplan inner hempty hoverOpen
      (fun a ha => hlost a (List.mem_append_left _ ha)) hinner
    rw [hplan] at hpasses
    obtain ⟨own, hgrown, hown⟩ := ResourcePass.adds_registered _ hgrown hpasses
    obtain ⟨requests, hgrown, hrequests, hforms⟩ := exists_methods hplan hdecl hgrown hoverFill
      (fun a ha => hlost a (List.mem_append_right _ ha)) hmethods
    refine ⟨_, .outside hw.detached rfl hw.counted hgrown, .intro hname hinside hown hrequests, ?_⟩
    rw [keptResource_eq hopen, Session.after_of_ok hfill]
    exact .intro hname hinsideForms ⟨hown.aside, hown.wireName⟩ hforms

theorem exists_resources (hplan : plan.pipeline = .registered) :
    ∀ (rs : List Resource) {w w' : Workbench} {front : List Declaration} {owner : Option Int}
      {f : List Tree}, w.Grown front owner f → Over (made plan.context) [] w.model →
      (∀ a ∈ plan.resourcesAttempts owner rs w, a.issue?.isSome = true → lost a.location) →
      plan.buildResources owner rs w = .ok () w' →
      ∃ g, w'.Grown front owner (f ++ g) ∧ ResourceTrees plan.context lost rs g ∧
        ResourceForms plan.context (MethodForm plan.context) (plan.keptResources owner rs w) g
  | [], w, w', front, owner, f, hw, _, _, h => by
    cases h
    exact ⟨[], by rwa [List.append_nil], .nil, .nil⟩
  | r :: rest, w, w', front, owner, f, hw, hover, hlost, h => by
    rw [resourcesAttempts] at hlost
    rw [keptResources]
    cases hignored : plan.context.ignoresResource r.path with
    | error e =>
      rw [buildResources_cons_of_error hignored] at h
      cases h
    | ok ignored =>
      rw [hignored] at hlost
      cases ignored with
      | true =>
        rw [buildResources_cons_of_ignored hignored] at h
        obtain ⟨g, hg, hrest, hforms⟩ := exists_resources hplan rest hw hover hlost h
        exact ⟨g, hg, .ignored hignored hrest, hforms⟩
      | false =>
        rw [buildResources_cons_of_kept hignored] at h
        obtain ⟨_, v, hv, h⟩ := Session.bind_eq_ok.1 h
        have hsteady := plan.steady_buildResource hw.counted r
        have hoverNext := (Steady.guarded hsteady).over_of_ok hover hv
        dsimp only at hlost
        rw [attemptsAfter, hv] at hlost
        have hnext : ∀ a ∈ plan.resourcesAttempts owner rest v, a.issue?.isSome = true →
            lost a.location :=
          fun a ha => hlost a (List.mem_append_right _ ha)
        dsimp only
        rw [Session.after_of_ok hv]
        rcases cases_of_guarded hsteady hover hv with hbuilt | ⟨hmodel, hissue, hmeets⟩
        · obtain ⟨t, ht, htree, hform⟩ := exists_resource hplan r hw hover
            (fun a ha => hlost a (List.mem_append_left _ (List.mem_append_left _ ha))) hbuilt
          obtain ⟨g, hg, hrest, hforms⟩ := exists_resources hplan rest ht hoverNext hnext h
          have hfine : (plan.buildResource owner r).meetsIssue w = false := by
            simp [meetsIssue, hbuilt]
          rw [hfine]
          exact ⟨t :: g, by simpa using hg, .built hignored htree hrest, .cons hform hforms⟩
        · obtain ⟨g, hg, hrest, hforms⟩ :=
            exists_resources hplan rest (hw.of_model hmodel) hoverNext hnext h
          rw [hmeets]
          exact ⟨g, hg, .failed (hlost _ (by simp) hissue) hrest, hforms⟩

end

/-! ### Schemas -/

variable (plan) in
/-- The schemas whose classes are added when they are built in order. -/
def keptSchemas : List Schema → Workbench → List Schema
  | [], _ => []
  | s :: rest, w =>
    match plan.context.ignoresSchema s.name with
    | .ok false =>
      let later := keptSchemas rest ((guarded s.path (plan.buildSchema s)).after w)
      if (plan.buildSchema s).meetsIssue w then later else s :: later
    | _ => keptSchemas rest w

theorem exists_schemas (hplan : plan.pipeline = .registered) {schemas : List Schema}
    (hw : w.Grown front none f) (hover : Over (made plan.context) [] w.model)
    (h : plan.buildSchemas schemas w = .ok () w') :
    ∃ g, w'.Grown front none (f ++ g) ∧
      List.Forall₂ (SchemaForm plan.context) (plan.keptSchemas schemas w) g := by
  induction schemas generalizing w f with
  | nil =>
    cases h
    exact ⟨[], by rwa [List.append_nil], .nil⟩
  | cons s rest ih =>
    rw [keptSchemas]
    cases hignored : plan.context.ignoresSchema s.name with
    | error e =>
      simp only [buildSchemas, hignored] at h
      cases h
    | ok ignored =>
      cases ignored with
      | true =>
        rw [buildSchemas_cons_of_ignored hignored] at h
        exact ih hw hover h
      | false =>
        rw [buildSchemas_cons_of_kept hignored] at h
        obtain ⟨_, v, hv, h⟩ := Session.bind_eq_ok.1 h
        have hsteady : ∀ base, SteadyStep (made plan.context) base (plan.buildSchema s) :=
          fun _ => plan.steady_buildSchema s
        have hoverNext := (Steady.guarded hsteady).over_of_ok hover hv
        dsimp only
        rw [Session.after_of_ok hv]
        rcases cases_of_guarded hsteady hover hv with hbuilt | ⟨hmodel, -, hissue⟩
        · obtain ⟨g, hg, t, rfl, htree⟩ := adds_buildSchema hplan s hw hbuilt
          obtain ⟨g, hg, hrest⟩ := ih hg hoverNext h
          have hfine : (plan.buildSchema s).meetsIssue w = false := by
            simp [meetsIssue, hbuilt]
          rw [hfine]
          exact ⟨t :: g, by simpa using hg, .cons htree hrest⟩
        · rw [hissue]
          exact ih (hw.of_model hmodel) hoverNext h

/-! ### The whole model -/

variable (plan) in
/-- An attempt with a location meets an issue when the service is built on a workbench. -/
def Loses (w : Workbench) (location : String) : Prop :=
  ∃ a ∈ plan.attempts w, a.location = location ∧ a.issue?.isSome = true

variable (plan) in
/-- **What is kept of the resources of the service** when it is built on a workbench. -/
def keptServiceResources (w : Workbench) : List Resource :=
  plan.keptResources none plan.context.service.resources (plan.openService.after w)

variable (plan) in
/-- **The schemas of the service that are kept** when it is built on a workbench. -/
def keptServiceSchemas (w : Workbench) : List Schema :=
  plan.keptSchemas plan.context.service.schemas (plan.buildService.after w)

variable (plan) in
/-- The class of the service, as it is added. -/
def serviceDeclaration : Declaration :=
  Declaration.ofClass plan.context.naming.serviceClass [plan.context.config.serviceBaseClass]
    (.str ("The " ++ plan.context.service.displayName.text ++ " Service."))

/-- The service class is the first declaration of a model. -/
theorem grown_openService {l : Ledger} {decl : Int} {w₁ : Workbench}
    (h : plan.openService ⟨{}, l⟩ = .ok decl w₁) :
    decl = 0 ∧ w₁.Grown [] none [leaf plan.serviceDeclaration] ∧
      Over (made plan.context) [] w₁.model := by
  have hover := plan.steady_openService.over_of_ok Over.nil h
  have hstart : Workbench.Grown ⟨{}, l⟩ [] none [] := ⟨rfl, .nil, .nil, by simp⟩
  obtain ⟨place, _, hinsert, hplace⟩ := Session.bind_eq_ok.1 h
  cases hplace
  obtain ⟨rfl, hgrown⟩ := hstart.insert rfl hinsert
  exact ⟨rfl, hgrown, hover⟩

/-- **The parts of building everything but the schemas**: the service class is added, then the
resources, and then the class is decorated. -/
theorem parts_of_buildService {l : Ledger} {w₃ : Workbench}
    (h : plan.buildService ⟨{}, l⟩ = .ok () w₃) :
    ∃ w₁ w₂, plan.openService ⟨{}, l⟩ = .ok 0 w₁ ∧
      plan.buildResources none plan.context.service.resources w₁ = .ok () w₂ ∧
      Over (made plan.context) [] w₂.model ∧ Over (made plan.context) [] w₃.model ∧
      (plan.decorateService 0 w₂ = .ok () w₃ ∨ w₃.model = w₂.model) := by
  obtain ⟨decl, w₁, hopen, h⟩ := Session.bind_eq_ok.1 h
  obtain ⟨_, w₂, hresources, hdecorate⟩ := Session.bind_eq_ok.1 h
  obtain ⟨rfl, -, hover⟩ := grown_openService hopen
  have hover := (plan.steady_buildResources (by simp) _ []).over_of_ok hover hresources
  have hsteady : ∀ base, SteadyStep (made plan.context) base (plan.decorateService 0) :=
    fun _ => plan.steady_service _ (Int.le_refl 0)
  refine ⟨w₁, w₂, hopen, hresources, hover, (Steady.guarded hsteady).over_of_ok hover hdecorate, ?_⟩
  exact (cases_of_guarded hsteady hover hdecorate).imp_right And.left

/-- The top level of a model: the service class with its members, then the classes of resources,
then those of schemas. The members come after the classes of resources. -/
theorem forest_of_grown {w : Workbench} {rs ms ss : List Tree}
    (hrs : Detached (leaf plan.serviceDeclaration :: rs)) (hms : Detached ms)
    (h : w.Grown ([] ++ layout none 0 (leaf plan.serviceDeclaration :: rs) ++
      layout (some 0) ([] ++ layout none 0 (leaf plan.serviceDeclaration :: rs)).length ms)
      none ss) :
    w.model.forest = .node plan.serviceDeclaration ms :: (rs ++ ss) := by
  obtain ⟨hd, hdetached⟩ := Detached.of_append (f := [leaf plan.serviceDeclaration]) hrs
  rw [h.model]
  refine CodeModel.forest_layout ?_ h.coherent rfl hdetached hms h.detached
  have hfirst : size rs + 1 = 1 + size rs := by omega
  have hsecond : size rs + (size ms + 1) = 1 + (size rs + size ms) := by omega
  rw [leaf, layout_cons]
  simp [layout, size, Nat.add_assoc, hfirst, hsecond]

/-- **A built model in full**: the class of the service, the classes of what is kept of the
resources, and the classes of the schemas that are kept. -/
theorem exists_forms (hplan : plan.pipeline = .registered) {l : Ledger} {w : Workbench}
    (h : plan.build ⟨{}, l⟩ = .ok () w) :
    ∃ service resources schemas, w.model.forest = service :: (resources ++ schemas) ∧
      ServiceTree plan.context service ∧
      ResourceTrees plan.context (plan.Loses ⟨{}, l⟩) plan.context.service.resources resources ∧
      ResourceForms plan.context (MethodForm plan.context) (plan.keptServiceResources ⟨{}, l⟩)
        resources ∧
      List.Forall₂ (SchemaForm plan.context) (plan.keptServiceSchemas ⟨{}, l⟩) schemas := by
  rw [keptServiceResources, keptServiceSchemas]
  rw [build_eq] at h
  obtain ⟨_, w₃, hservice, h⟩ := Session.bind_eq_ok.1 h
  obtain ⟨_, w₄, hschemas, h⟩ := Session.bind_eq_ok.1 h
  have hmodel : w.model = w₄.model := by
    cases h
    rfl
  rw [Session.after_of_ok hservice, hmodel]
  obtain ⟨w₁, w₂, hopen, hresources, -, hoverService, hdecorate⟩ := parts_of_buildService hservice
  rw [Session.after_of_ok hopen]
  have hlost : ∀ a ∈ plan.attempts ⟨{}, l⟩, a.issue?.isSome = true →
      plan.Loses ⟨{}, l⟩ a.location := fun a ha hissue => ⟨a, ha, rfl, hissue⟩
  nth_rewrite 1 [attempts] at hlost
  rw [attemptsAfter, hopen] at hlost
  -- the class of the service, and after it the resources
  obtain ⟨-, hgrown, hoverOpen⟩ := grown_openService hopen
  obtain ⟨rs, hgrown, hrs, hforms⟩ := exists_resources hplan _ hgrown hoverOpen
    (fun a ha => hlost a (List.mem_append_left _ ha)) hresources
  -- the members of the class
  have hinside := hgrown.restart (some 0) (by simp)
  obtain ⟨ms, hms, hmembers⟩ : ∃ ms, w₃.Grown _ (some 0) ms ∧ ∀ t ∈ ms, IsServiceMember t := by
    rcases hdecorate with hbuilt | hmodel
    · rw [decorateService, hplan] at hbuilt
      exact ServicePass.adds_registered _ hinside hbuilt
    · exact ⟨[], hinside.of_model hmodel, by simp⟩
  -- the schemas
  obtain ⟨ss, hss, htrees⟩ :=
    exists_schemas hplan (hms.restart none (by simp)) hoverService hschemas
  exact ⟨_, rs, ss, forest_of_grown hgrown.detached hms.detached hss, .intro hmembers, hrs, hforms,
    htrees⟩

/-- **The outline of a built model**: the class of the service, classes of resources, classes of
schemas. What is missing from it was lost by an attempt, or it was to be left out. -/
theorem exists_outline (hplan : plan.pipeline = .registered) {l : Ledger} {w : Workbench}
    (h : plan.build ⟨{}, l⟩ = .ok () w) :
    ∃ service resources schemas, w.model.forest = service :: (resources ++ schemas) ∧
      ServiceTree plan.context service ∧
      ResourceTrees plan.context (plan.Loses ⟨{}, l⟩) plan.context.service.resources resources ∧
      List.Forall₂ (SchemaTree plan.context)
        (plan.keptSchemas plan.context.service.schemas (plan.buildService.after ⟨{}, l⟩))
        schemas := by
  obtain ⟨service, resources, schemas, hforest, hservice, hresources, -, hschemas⟩ :=
    exists_forms hplan h
  exact ⟨service, resources, schemas, hforest, hservice, hresources,
    hschemas.imp fun _ _ => SchemaForm.schemaTree⟩

end Plan

end ClientGen
