import ClientGen.Proofs.Build.Passes
import ClientGen.Proofs.Build.Reduced
import ClientGen.Proofs.Document.Accounting

/-!
# Failure equals absence

A method or a schema whose guarded step meets an issue leaves no trace in the code model:
the model is the one that is built when the method is not in its resource, or when the
schema is left out. This module makes the comparison exact. It follows the building of a
service and takes from it the methods that met an issue
(`ClientGen.Plan.survivingResources`) and the schemas that did
(`ClientGen.Plan.failedSchemas`), and it shows that the building without them
ends with the same model (`ClientGen.model_of_survivors`).

The two buildings run side by side. A step that meets an issue changes only the ledger,
so the building without it can stand still; every other step is the same step in both, and
the steps are blind to the ledger, in which alone the two differ.
-/

namespace ClientGen

open Build

/-- Whether a step meets an issue on a workbench. -/
def Build.meetsIssue {α : Type} (x : Build α) (w : Workbench) : Bool :=
  match x w with
  | .error (.issue _) _ => true
  | _ => false

theorem Build.exists_of_meetsIssue {α : Type} {x : Build α} {w : Workbench}
    (h : x.meetsIssue w = true) : ∃ i w', x w = .error (.issue i) w' := by
  rw [meetsIssue] at h
  split at h
  · exact ⟨_, _, by assumption⟩
  · cases h

/-- A guarded step that meets an issue changes only the ledger. -/
theorem guarded_of_meetsIssue {T : Trait} {base : List Declaration} {location : String}
    {step : Build Unit} {w : Workbench} (hstep : ∀ base, SteadyStep T base step)
    (ho : Over T base w.model) (h : step.meetsIssue w = true) :
    ∃ l, guarded location step w = .ok () ⟨w.model, l⟩ := by
  obtain ⟨i, w', hrun⟩ := Build.exists_of_meetsIssue h
  obtain ⟨ds, hds, -, hTs, hw⟩ := ho
  have hagree := hstep ds w w rfl ⟨ds, hds, List.prefix_rfl, hTs, hw⟩
  rw [hrun] at hagree
  cases hagree with
  | error _ ho' => exact ⟨_, guarded_of_issue hw hrun ho'⟩

/-- A run that agrees with one that ends well ends well, with the same model. -/
theorem Agree.exists_ok {α : Type} {T : Trait} {base : List Declaration} {Q : α → Prop}
    {r s : EStateM.Result Failure Workbench α} (h : Agree T base Q r s) {a : α} {w : Workbench}
    (hr : r = .ok a w) : ∃ v, s = .ok a v ∧ v.model = w.model := by
  cases h with
  | ok hm =>
    cases hr
    exact ⟨_, rfl, hm.symm⟩
  | error => cases hr

namespace Plan

variable (plan : Plan)

/-! ### What meets an issue -/

/-- The step for a method. -/
def methodStep (resource : Resource) (owner : Int) (method : Method) : Build Unit :=
  guarded (resource.path ++ "." ++ method.name) (plan.buildMethod resource owner method)

/-- **The methods that survive**: those among the methods of a resource whose steps meet no
issue when all the steps are run in order. -/
def survivors (resource : Resource) (owner : Int) : List Method → Workbench → List Method
  | [], _ => []
  | method :: rest, w =>
    let later := survivors resource owner rest ((plan.methodStep resource owner method).after w)
    if (plan.buildMethod resource owner method).meetsIssue w then later else method :: later

theorem survivors_cons (resource : Resource) (owner : Int) (method : Method)
    (rest : List Method) (w : Workbench) :
    plan.survivors resource owner (method :: rest) w =
      let later :=
        plan.survivors resource owner rest ((plan.methodStep resource owner method).after w)
      if (plan.buildMethod resource owner method).meetsIssue w then later
      else method :: later := rfl

/-- Add the class of a resource. -/
def openResource (owner : Option Int) (resource : Resource) : Build Int := do
  let className ← plan.context.resourceClass resource.path
  addClass owner (Declaration.ofClass className []
    (.str ("The \"" ++ resource.name ++ "\" collection of methods.")))

/-- Add the classes inside the class of a resource, and its own members. -/
def fillResource (decl : Int) (resource : Resource) : Build Unit := do
  plan.buildResources (some decl) resource.resources
  plan.pipeline.resource.forM fun pass => pass.run resource decl plan.context

mutual

/-- **A resource without the methods that meet an issue** when it is built, its own and those
of the resources inside it. Where the resource itself meets an issue, what comes after
the issue is not run and stays. -/
def surviving (owner : Option Int) : Resource → Workbench → Resource
  | resource@⟨name, methods, inner, path⟩, w =>
    match plan.openResource owner resource w with
    | .error _ _ => resource
    | .ok decl w =>
      let inner' := survivingAll (some decl) inner w
      match plan.fillResource decl resource w with
      | .error _ _ => ⟨name, methods, inner', path⟩
      | .ok _ w => ⟨name, plan.survivors resource decl methods w, inner', path⟩

/-- Resources without the methods that meet an issue when they are built in order. -/
def survivingAll (owner : Option Int) : List Resource → Workbench → List Resource
  | [], _ => []
  | r :: rest, w =>
    match plan.context.ignoresResource r.path with
    | .ok false =>
      surviving owner r w ::
        survivingAll owner rest ((guarded r.path (plan.buildResource owner r)).after w)
    | _ => r :: survivingAll owner rest w

end

/-- The names of the schemas that meet an issue when they are built in order. -/
def failing : List Schema → Workbench → List String
  | [], _ => []
  | s :: rest, w =>
    match plan.context.ignoresSchema s.name with
    | .ok false =>
      let later := failing rest ((guarded s.path (plan.buildSchema s)).after w)
      if (plan.buildSchema s).meetsIssue w then s.name :: later else later
    | _ => failing rest w

/-- Add the class of the service. -/
def openService : Build Int :=
  addClass none (Declaration.ofClass plan.context.naming.serviceClass
    [plan.context.config.serviceBaseClass]
    (.str ("The " ++ plan.context.service.displayName.text ++ " Service.")))

/-- Build everything but the schemas. -/
def buildService : Build Unit := do
  let decl ← plan.openService
  plan.buildResources none plan.context.service.resources
  guarded plan.context.service.name
    (plan.pipeline.service.forM fun pass => pass.run plan.context.service decl plan.context)

/-- **The resources of the service without the methods that meet an issue** when the service
is built on a workbench. -/
def survivingResources (w : Workbench) : List Resource :=
  match plan.openService w with
  | .error _ _ => plan.context.service.resources
  | .ok _ w => plan.survivingAll none plan.context.service.resources w

/-- **The names of the schemas that meet an issue** when the service is built on a
workbench. -/
def failedSchemas (w : Workbench) : List String :=
  plan.failing plan.context.service.schemas (plan.buildService.after w)

/-! ### The parts of a building -/

theorem buildResource_eq (owner : Option Int) (resource : Resource) :
    plan.buildResource owner resource = (do
      let decl ← plan.openResource owner resource
      plan.fillResource decl resource
      resource.methods.forM (plan.methodStep resource decl)) := by
  obtain ⟨name, methods, inner, path⟩ := resource
  simp only [buildResource, openResource, fillResource, bind_assoc]
  rfl

theorem build_eq : plan.build = (do
    plan.buildService
    plan.buildSchemas plan.context.service.schemas
    let w ← get
    Build.write .debug ("Built " ++ toString w.model.size ++ " declarations for "
      ++ plan.context.service.name)) := by
  simp only [build, buildService, bind_assoc]
  rfl

/-! ### The tree of resources stays -/

mutual

theorem bare_surviving (owner : Option Int) :
    ∀ (r : Resource) (w : Workbench), (plan.surviving owner r w).bare = r.bare
  | ⟨name, methods, inner, path⟩, w => by
    rw [surviving]
    split
    · rfl
    · rename_i decl w₁ _
      have hinner := bareAll_survivingAll (some decl) inner w₁
      dsimp only
      split <;> simp only [Resource.bare, hinner]

theorem bareAll_survivingAll (owner : Option Int) :
    ∀ (rs : List Resource) (w : Workbench),
      Resource.bareAll (plan.survivingAll owner rs w) = Resource.bareAll rs
  | [], _ => rfl
  | r :: rest, w => by
    rw [survivingAll]
    split
    · rw [Resource.bareAll, Resource.bareAll, bare_surviving owner r,
        bareAll_survivingAll owner rest]
    · rw [Resource.bareAll, Resource.bareAll, bareAll_survivingAll owner rest]

end

theorem bareAll_survivingResources (w : Workbench) :
    Resource.bareAll (plan.survivingResources w) =
      Resource.bareAll plan.context.service.resources := by
  rw [survivingResources]
  split
  · rfl
  · exact plan.bareAll_survivingAll none _ _

theorem path_surviving (owner : Option Int) (r : Resource) (w : Workbench) :
    (plan.surviving owner r w).path = r.path := by
  rw [← Resource.bare_path, bare_surviving, Resource.bare_path]

/-- A resource whose class was added keeps the methods that survive after it was filled. -/
theorem surviving_eq {owner : Option Int} {r : Resource} {decl : Int} {w w₁ : Workbench}
    (h : plan.openResource owner r w = .ok decl w₁) :
    (plan.surviving owner r w).resources = plan.survivingAll (some decl) r.resources w₁ ∧
      ∀ w₂, plan.fillResource decl r w₁ = .ok () w₂ →
        (plan.surviving owner r w).methods = plan.survivors r decl r.methods w₂ := by
  obtain ⟨name, methods, inner, path⟩ := r
  simp only [surviving, h]
  constructor
  · split <;> rfl
  · intro w₂ hfill
    rw [hfill]

/-! ### Buildings side by side -/

section SideBySide

variable {plan} {base : List Declaration} {rs : List Resource} {ys : List Json}
variable {w v : Workbench}

theorem methodStep_reduced {r r' : Resource} (h : r'.path = r.path) (owner : Int)
    (method : Method) :
    (plan.reduced rs ys).methodStep r' owner method = plan.methodStep r owner method := by
  rw [methodStep, methodStep, buildMethod_reduced rs ys plan h, h]

theorem steady_methodStep (r : Resource) {owner : Int} (ho : 0 ≤ owner) (method : Method) :
    SteadyStep (made plan.context) base (plan.methodStep r owner method) :=
  .guarded fun _ => plan.steady_buildMethod r ho method

theorem agree_methods {r r' : Resource} (hpath : r'.path = r.path) {owner : Int} (ho : 0 ≤ owner)
    (methods : List Method) (hm : w.model = v.model)
    (hover : Over (made plan.context) base w.model) :
    Agree (made plan.context) base (fun _ => True)
      (methods.forM (plan.methodStep r owner) w)
      ((plan.survivors r owner methods w).forM ((plan.reduced rs ys).methodStep r' owner) v) := by
  induction methods generalizing w v with
  | nil => exact .ok hm hover trivial
  | cons method rest ih =>
    rw [survivors_cons]
    split
    · rename_i hissue
      obtain ⟨l, hrun⟩ : ∃ l, plan.methodStep r owner method w = .ok () ⟨w.model, l⟩ :=
        guarded_of_meetsIssue (fun _ => plan.steady_buildMethod r ho method) hover hissue
      have hcons : (method :: rest).forM (plan.methodStep r owner) w =
          rest.forM (plan.methodStep r owner) ⟨w.model, l⟩ :=
        Session.bind_run_of_ok hrun _
      rw [Session.after_of_ok hrun, hcons]
      exact ih hm hover
    · refine Agree.bind (x := plan.methodStep r owner method) (Q := fun _ => True) ?_ ?_
      · rw [methodStep_reduced hpath]
        exact steady_methodStep r ho method w v hm hover
      · intro _ w' v' hrun _ hm' hover'
        rw [Session.after_of_ok hrun]
        exact ih hm' hover'

theorem openResource_reduced {r r' : Resource} (h : r'.bare = r.bare) (owner : Option Int) :
    (plan.reduced rs ys).openResource owner r' = plan.openResource owner r := by
  have hname : r'.name = r.name := by rw [← Resource.bare_name, h, Resource.bare_name]
  have hpath : r'.path = r.path := by rw [← Resource.bare_path, h, Resource.bare_path]
  rw [openResource, openResource, hname, hpath]
  rfl

theorem steady_openResource {owner : Option Int} (ho : ∀ o, owner = some o → 0 ≤ o)
    (r : Resource) :
    Steady (made plan.context) base (fun decl => (base.length : Int) ≤ decl)
      (plan.openResource owner r) :=
  .bind (.lift fun _ => isName_resourceClass) fun _ hname => steady_class ho hname (by simp)

theorem buildResources_cons_of_kept {owner : Option Int} {r : Resource} {rest : List Resource}
    (h : plan.context.ignoresResource r.path = .ok false) :
    plan.buildResources owner (r :: rest) = (do
      guarded r.path (plan.buildResource owner r)
      plan.buildResources owner rest) := by
  simp only [buildResources, h, Session.lift_ok_bind]
  rfl

theorem buildResources_cons_of_ignored {owner : Option Int} {r : Resource} {rest : List Resource}
    (h : plan.context.ignoresResource r.path = .ok true) :
    plan.buildResources owner (r :: rest) = plan.buildResources owner rest := by
  simp only [buildResources, h, Session.lift_ok_bind]
  rfl

theorem buildResources_cons_of_error {owner : Option Int} {r : Resource} {rest : List Resource}
    {e : Failure} (h : plan.context.ignoresResource r.path = .error e) (w : Workbench) :
    plan.buildResources owner (r :: rest) w = .error e w := by
  simp only [buildResources, h]
  rfl

mutual

theorem agree_resource {owner : Option Int} (ho : ∀ o, owner = some o → 0 ≤ o) :
    ∀ (r : Resource) (base : List Declaration) {w v : Workbench}, w.model = v.model →
      Over (made plan.context) base w.model →
      Agree (made plan.context) base (fun _ => True) (plan.buildResource owner r w)
        ((plan.reduced rs ys).buildResource owner (plan.surviving owner r w) v)
  | ⟨name, methods, inner, path⟩, base, w, v, hm, hover => by
    have hbare := plan.bare_surviving owner ⟨name, methods, inner, path⟩ w
    rw [buildResource_eq, buildResource_eq, openResource_reduced hbare]
    refine (steady_openResource ho _ w v hm hover).bind fun {decl w₁ v₁} hopen hd hm₁ hover₁ => ?_
    obtain ⟨hinner, hmethods⟩ := plan.surviving_eq hopen
    have hd' : 0 ≤ decl := by omega
    -- the resources inside and the decorators first, then the methods
    refine Agree.bind (Q := fun _ => True) ?_ fun {_ w₂ v₂} hfill _ hm₂ hover₂ => ?_
    · rw [fillResource, fillResource, hinner]
      refine (agree_resources (by simpa using hd') inner base hm₁ hover₁).bind
        fun {_ w₂ v₂} _ _ hm₂ hover₂ => ?_
      simp only [reduced_pipeline, reduced_context, ResourcePass.run_reduced _ _ _ hbare]
      exact Steady.forM (fun pass _ => pass.steady_run _ hd') w₂ v₂ hm₂ hover₂
    · rw [hmethods w₂ hfill]
      exact agree_methods (plan.path_surviving owner _ w) hd' methods hm₂ hover₂

theorem agree_resources {owner : Option Int} (ho : ∀ o, owner = some o → 0 ≤ o) :
    ∀ (children : List Resource) (base : List Declaration) {w v : Workbench},
      w.model = v.model → Over (made plan.context) base w.model →
      Agree (made plan.context) base (fun _ => True) (plan.buildResources owner children w)
        ((plan.reduced rs ys).buildResources owner (plan.survivingAll owner children w) v)
  | [], _, _, _, hm, hover => .ok hm hover trivial
  | r :: rest, base, w, v, hm, hover => by
    cases h : plan.context.ignoresResource r.path with
    | error e =>
      have hs : plan.survivingAll owner (r :: rest) w = r :: plan.survivingAll owner rest w := by
        simp only [survivingAll, h]
      have h' : (plan.reduced rs ys).context.ignoresResource r.path = .error e := h
      rw [hs, buildResources_cons_of_error h, buildResources_cons_of_error h']
      exact .error hm hover
    | ok ignored =>
      cases ignored with
      | true =>
        have hs : plan.survivingAll owner (r :: rest) w = r :: plan.survivingAll owner rest w := by
          simp only [survivingAll, h]
        have h' : (plan.reduced rs ys).context.ignoresResource r.path = .ok true := h
        rw [hs, buildResources_cons_of_ignored h, buildResources_cons_of_ignored h']
        exact agree_resources ho rest base hm hover
      | false =>
        have h' : (plan.reduced rs ys).context.ignoresResource
            (plan.surviving owner r w).path = .ok false := by
          rw [path_surviving]
          exact h
        have hs : plan.survivingAll owner (r :: rest) w = plan.surviving owner r w ::
            plan.survivingAll owner rest
              ((guarded r.path (plan.buildResource owner r)).after w) := by
          simp only [survivingAll, h]
        rw [hs, buildResources_cons_of_kept h, buildResources_cons_of_kept h', path_surviving]
        refine (Agree.guarded hm hover fun base hover => agree_resource ho r base hm hover).bind
          fun {_ w₁ v₁} hrun _ hm₁ hover₁ => ?_
        rw [Session.after_of_ok hrun]
        exact agree_resources ho rest base hm₁ hover₁

end

theorem openService_reduced : (plan.reduced rs ys).openService = plan.openService := rfl

theorem steady_openService :
    Steady (made plan.context) base (fun decl => (base.length : Int) ≤ decl) plan.openService :=
  steady_class nofun .service (by simpa using .service)

theorem agree_buildService (hm : w.model = v.model)
    (hover : Over (made plan.context) base w.model) :
    Agree (made plan.context) base (fun _ => True) (plan.buildService w)
      ((plan.reduced (plan.survivingResources w) ys).buildService v) := by
  have hbare := plan.bareAll_survivingResources w
  rw [buildService, buildService, openService_reduced]
  refine (steady_openService w v hm hover).bind fun {decl w₁ v₁} hopen hd hm₁ hover₁ => ?_
  have hsurviving : plan.survivingResources w =
      plan.survivingAll none plan.context.service.resources w₁ := by
    rw [survivingResources, hopen]
  have hresources : (plan.reduced (plan.survivingResources w) ys).context.service.resources =
      plan.survivingAll none plan.context.service.resources w₁ := hsurviving
  rw [hresources]
  have howner : ∀ o, (none : Option Int) = some o → 0 ≤ o := nofun
  refine (agree_resources howner _ base hm₁ hover₁).bind fun {_ w₂ v₂} _ _ hm₂ hover₂ => ?_
  have hpasses : ∀ pass : ServicePass,
      pass.run (plan.reduced (plan.survivingResources w) ys).context.service decl
        (plan.reduced (plan.survivingResources w) ys).context =
      pass.run plan.context.service decl plan.context :=
    fun pass => pass.run_reduced plan.context _ ys hbare decl
  simp only [hpasses]
  exact Steady.guarded (fun _ => plan.steady_service _ (by omega)) w₂ v₂ hm₂ hover₂

/-! ### Schemas -/

variable {xs : List Json}

theorem ignoresSchema_eq {c : Context} (h : c.config.ignoreSchemas = some (.list xs))
    (name : String) : c.ignoresSchema name = .ok (xs.any (·.isText name)) := by
  rw [Context.ignoresSchema, h]
  rfl

theorem any_isText_texts (names : List String) (name : String) :
    (names.map Json.str).any (·.isText name) = decide (name ∈ names) := by
  induction names with
  | nil => rfl
  | cons n rest ih =>
    rw [List.map_cons, List.any_cons, ih, Bool.eq_iff_iff]
    simp only [Json.isText, Bool.or_eq_true, beq_iff_eq, decide_eq_true_eq, List.mem_cons]
    exact or_congr_left eq_comm

theorem buildSchemas_cons_of_kept {s : Schema} {rest : List Schema}
    (h : plan.context.ignoresSchema s.name = .ok false) :
    plan.buildSchemas (s :: rest) = (do
      guarded s.path (plan.buildSchema s)
      plan.buildSchemas rest) := by
  simp only [buildSchemas, h, Session.lift_ok_bind]
  rfl

theorem buildSchemas_cons_of_ignored {s : Schema} {rest : List Schema}
    (h : plan.context.ignoresSchema s.name = .ok true) :
    plan.buildSchemas (s :: rest) = plan.buildSchemas rest := by
  simp only [buildSchemas, h, Session.lift_ok_bind]
  rfl

theorem failing_cons_of_kept {s : Schema} {rest : List Schema}
    (h : plan.context.ignoresSchema s.name = .ok false) :
    plan.failing (s :: rest) w =
      let later := plan.failing rest ((guarded s.path (plan.buildSchema s)).after w)
      if (plan.buildSchema s).meetsIssue w then s.name :: later else later := by
  simp only [failing, h]

theorem failing_cons_of_ignored {s : Schema} {rest : List Schema}
    (h : plan.context.ignoresSchema s.name = .ok true) :
    plan.failing (s :: rest) w = plan.failing rest w := by
  simp only [failing, h]

theorem name_mem_of_mem_failing {schemas : List Schema} {name : String}
    (h : name ∈ plan.failing schemas w) : name ∈ schemas.map Schema.name := by
  induction schemas generalizing w with
  | nil => cases h
  | cons s rest ih =>
    rw [List.map_cons, List.mem_cons]
    rw [failing] at h
    split at h
    · dsimp only at h
      split at h
      · rcases List.mem_cons.1 h with rfl | h
        · exact .inl rfl
        · exact .inr (ih h)
      · exact .inr (ih h)
    · exact .inr (ih h)

/-- The building that leaves out the schemas that met an issue. The names among `failed`
matter only as far as they are names of the schemas at hand. -/
theorem agree_schemas (hx : plan.context.config.ignoreSchemas = some (.list xs))
    {failed : List String} (schemas : List Schema) (hnodup : (schemas.map Schema.name).Nodup)
    (hfailed : ∀ s ∈ schemas, s.name ∈ failed ↔ s.name ∈ plan.failing schemas w)
    (hm : w.model = v.model) (hover : Over (made plan.context) base w.model) :
    Agree (made plan.context) base (fun _ => True) (plan.buildSchemas schemas w)
      ((plan.reduced rs (xs ++ failed.map .str)).buildSchemas schemas v) := by
  induction schemas generalizing w v with
  | nil => exact .ok hm hover trivial
  | cons s rest ih =>
    rw [List.map_cons, List.nodup_cons] at hnodup
    have hignores := ignoresSchema_eq hx s.name
    have hignores' : (plan.reduced rs (xs ++ failed.map .str)).context.ignoresSchema s.name =
        .ok (xs.any (·.isText s.name) || decide (s.name ∈ failed)) := by
      rw [ignoresSchema_eq rfl, List.any_append, any_isText_texts]
    cases h : xs.any (·.isText s.name) with
    | true =>
      rw [h] at hignores hignores'
      rw [buildSchemas_cons_of_ignored hignores, buildSchemas_cons_of_ignored hignores']
      refine ih hnodup.2 (fun s' hs' => ?_) hm hover
      rw [hfailed s' (List.mem_cons_of_mem s hs'), failing_cons_of_ignored hignores]
    | false =>
      rw [h] at hignores
      rw [h, Bool.false_or] at hignores'
      rw [buildSchemas_cons_of_kept hignores]
      have hself := hfailed s List.mem_cons_self
      rw [failing_cons_of_kept hignores] at hself
      cases hissue : (plan.buildSchema s).meetsIssue w with
      | true =>
        -- the building without the schema stands still
        rw [hissue] at hself
        have hmem : s.name ∈ failed := hself.2 List.mem_cons_self
        rw [decide_eq_true hmem] at hignores'
        obtain ⟨l, hrun⟩ : ∃ l, guarded s.path (plan.buildSchema s) w = .ok () ⟨w.model, l⟩ :=
          guarded_of_meetsIssue (fun _ => plan.steady_buildSchema s) hover hissue
        rw [Session.bind_run_of_ok hrun, buildSchemas_cons_of_ignored hignores']
        refine ih hnodup.2 (fun s' hs' => ?_) hm hover
        rw [hfailed s' (List.mem_cons_of_mem s hs'), failing_cons_of_kept hignores, hissue,
          Session.after_of_ok hrun]
        have hne : s'.name ≠ s.name := fun he => hnodup.1 (he ▸ List.mem_map_of_mem hs')
        simp [hne]
      | false =>
        rw [hissue] at hself
        have hmem : s.name ∉ failed := fun hin =>
          hnodup.1 (name_mem_of_mem_failing (hself.1 hin))
        rw [decide_eq_false hmem] at hignores'
        rw [buildSchemas_cons_of_kept hignores', buildSchema_reduced]
        refine (Steady.guarded (fun _ => plan.steady_buildSchema s) w v hm hover).bind
          fun {_ w₁ v₁} hrun _ hm₁ hover₁ => ?_
        refine ih hnodup.2 (fun s' hs' => ?_) hm₁ hover₁
        rw [hfailed s' (List.mem_cons_of_mem s hs'), failing_cons_of_kept hignores, hissue,
          Session.after_of_ok hrun]
        rfl

end SideBySide

/-! ### The whole building -/

/-- The building without what met an issue goes along with the building. -/
theorem agree_build {xs : List Json} (hx : plan.context.config.ignoreSchemas = some (.list xs))
    (hnodup : (plan.context.service.schemas.map Schema.name).Nodup) {w v : Workbench}
    (hm : w.model = v.model) (hover : Over (made plan.context) [] w.model) :
    Agree (made plan.context) [] (fun _ => True) (plan.build w)
      ((plan.reduced (plan.survivingResources w)
        (xs ++ (plan.failedSchemas w).map .str)).build v) := by
  rw [build_eq, build_eq]
  refine (agree_buildService hm hover).bind fun {_ w₁ v₁} hservice _ hm₁ hover₁ => ?_
  have hfailed : plan.failedSchemas w = plan.failing plan.context.service.schemas w₁ := by
    rw [failedSchemas, Session.after_of_ok hservice]
  refine (agree_schemas hx _ hnodup (fun s _ => by rw [hfailed]) hm₁ hover₁).bind
    fun {_ w₂ v₂} _ _ hm₂ hover₂ => ?_
  exact .ok hm₂ hover₂ trivial

end Plan

theorem planFor_reduced {config : Config} {pipeline : Pipeline} {service : Service} {plan : Plan}
    (h : planFor config pipeline service = .ok plan) {rs : List Resource}
    (hrs : Resource.bareAll rs = Resource.bareAll service.resources) (ys : List Json) :
    planFor { config with ignoreSchemas := some (.list ys) } pipeline
      { service with resources := rs } = .ok (plan.reduced rs ys) := by
  obtain ⟨naming, hnaming, h⟩ := Outcome.bind_eq_ok.1 h
  cases h
  rw [planFor, Naming.resolve_congr config.uniqueSuffix service hrs, hnaming]
  rfl

/-- **Failure equals absence.** When a document is built, the model is the one that is built
from the service that was read, without the methods that met an issue, and with the schemas
that met an issue among those to leave out. -/
theorem model_of_survivors {config : Config} {pipeline : Pipeline} {document : Json}
    {plan : Plan} {w : Workbench} {xs : List Json}
    (hx : config.ignoreSchemas = some (.list xs)) (hd : document.hasDistinctKeys = true)
    (h : buildDocument config pipeline document (Workbench.start document) = .ok plan w) :
    ∃ (service : Service) (l : Ledger) (plan' : Plan) (w' : Workbench),
      Document.read document (Workbench.start document).ledger = .ok service l ∧
      planFor config pipeline service = .ok plan ∧
      planFor
        { config with
          ignoreSchemas := some (.list (xs ++ (plan.failedSchemas ⟨{}, l⟩).map .str)) }
        pipeline { service with resources := plan.survivingResources ⟨{}, l⟩ } = .ok plan' ∧
      plan'.build ⟨{}, l⟩ = .ok () w' ∧ w'.model = w.model := by
  obtain ⟨service, l, hread, hplan, hbuild⟩ := exists_build_of_buildDocument h
  obtain ⟨hservice, hconfig⟩ := planFor_context hplan
  have hnames := Document.nodup_schemaNames hd hread
  have hbare := plan.bareAll_survivingResources ⟨{}, l⟩
  rw [← hservice] at hnames
  rw [hservice] at hbare
  have hagree := plan.agree_build (w := ⟨{}, l⟩) (v := ⟨{}, l⟩) (by rw [hconfig, hx]) hnames rfl
    Over.nil
  obtain ⟨w', hrun, hmodel⟩ := hagree.exists_ok hbuild
  have hreduced := planFor_reduced hplan hbare (xs ++ (plan.failedSchemas ⟨{}, l⟩).map .str)
  exact ⟨service, l, _, w', hread, hplan, hreduced, hrun, hmodel⟩

/-- A document with a method whose default cannot be read, and with a schema that refers to
a schema that there is not. -/
def shopDocument : Json :=
  .object [("name", "shop"),
    ("schemas", .object [
      ("Item", .object [("properties", .object [("id", .object [("type", "string")])])]),
      ("Broken", .object [("properties", .object [("part", .object [("$ref", "Nothing")])])])]),
    ("resources", .object [
      ("items", .object [("methods", .object [
        ("get", .object [("httpMethod", "GET"), ("path", "items"),
          ("response", .object [("$ref", "Item")])]),
        ("list", .object [("httpMethod", "GET"), ("path", "items"),
          ("parameters", .object [("limit", .object [("type", "integer"), ("location", "query"),
            ("default", "many")])])])])])])]

/-- All decorators, in the order of the registries. -/
def Pipeline.registered : Pipeline :=
  ⟨ServicePass.registry.map Prod.snd, ResourcePass.registry.map Prod.snd,
    RequestPass.registry.map Prod.snd, SchemaPass.registry.map Prod.snd⟩

/-- The model of the document above is that of its service without the method and the
schema. -/
theorem model_of_shop_survivors :
    shopDocument.hasDistinctKeys = true ∧
    ∃ (plan : Plan) (w : Workbench) (service : Service) (l : Ledger) (plan' : Plan)
      (w' : Workbench),
      buildDocument {} Pipeline.registered shopDocument (Workbench.start shopDocument) =
        .ok plan w ∧
      plan.failedSchemas ⟨{}, l⟩ = ["Broken"] ∧
      (plan.survivingResources ⟨{}, l⟩).map (fun r => r.methods.map Method.name) = [["get"]] ∧
      planFor { ignoreSchemas := some (.list ([] ++ (plan.failedSchemas ⟨{}, l⟩).map .str)) }
        Pipeline.registered { service with resources := plan.survivingResources ⟨{}, l⟩ } =
          .ok plan' ∧
      plan'.build ⟨{}, l⟩ = .ok () w' ∧ w'.model = w.model := by
  have hkeys : shopDocument.hasDistinctKeys = true := by decide
  have hfails : (match Document.read shopDocument (Workbench.start shopDocument).ledger with
      | .ok service l => match planFor {} Pipeline.registered service with
        | .ok plan => (plan.failedSchemas ⟨{}, l⟩,
            (plan.survivingResources ⟨{}, l⟩).map fun r => r.methods.map Method.name)
        | .error _ => ([], [])
      | .error _ _ => ([], [])) = (["Broken"], [["get"]]) := by decide +kernel
  have hreturns : (match buildDocument {} Pipeline.registered shopDocument
      (Workbench.start shopDocument) with
    | .ok _ _ => true
    | .error _ _ => false) = true := by decide +kernel
  cases hbuild : buildDocument {} Pipeline.registered shopDocument
      (Workbench.start shopDocument) with
  | error e w =>
    rw [hbuild] at hreturns
    cases hreturns
  | ok plan w =>
    obtain ⟨service, l, plan', w', hread, hplan, hreduced, hrun, hmodel⟩ :=
      model_of_survivors rfl hkeys hbuild
    rw [hread] at hfails
    dsimp only at hfails
    rw [hplan] at hfails
    obtain ⟨hschemas, hmethods⟩ := Prod.mk.inj hfails
    exact ⟨hkeys, plan, w, service, l, plan', w', rfl, hschemas, hmethods, hreduced, hrun, hmodel⟩

end ClientGen
