import ClientGen.Proofs.Build.Raised

/-!
# Where the issues of a building are located

Each guarded step of a building belongs to a part of the document and has its path: a resource,
a method of a resource, the service, or a schema (`ClientGen.Plan.IsStep`). The issue that is
recorded for a step that fails says where it arose (`ClientGen.located_build`):

* an issue of a malformed document is located at the path of the step or at a dotted extension of
  it, down to a parameter of a method or a field of an object described on the spot;
* an issue about a taken name is located at the scope that has the name, or at the name if it is
  that of the class around it. The path of the step then does not occur in it
  (`ClientGen.not_within_bangDocument`).
-/

namespace ClientGen

open Build Decorator Document

/-! ### Steps and their paths -/

namespace Plan

/-- **A guarded step and its path.** -/
inductive IsStep (plan : Plan) : String → Build Unit → Prop
  /-- The step for a resource, at any depth. -/
  | resource {r : Resource} (owner : Option Int)
      (hr : r ∈ Resource.allNested plan.context.service.resources) :
      IsStep plan r.path (plan.buildResource owner r)
  /-- The step for a method of a resource. -/
  | method {r : Resource} {m : Method} (owner : Int)
      (hr : r ∈ Resource.allNested plan.context.service.resources) (hm : m ∈ r.methods) :
      IsStep plan (dotted r.path m.name) (plan.buildMethod r owner m)
  /-- The step that decorates the class of the service. -/
  | service (decl : Int) : IsStep plan plan.context.service.name (plan.decorateService decl)
  /-- The step for a schema. -/
  | schema {s : Schema} (hs : s ∈ plan.context.service.schemas) :
      IsStep plan (dotted "schemas" s.name) (plan.buildSchema s)

variable {plan : Plan} {w : Workbench}

theorem mem_attemptsAfter {α : Type} {x : Build α} {next : α → Workbench → List Attempt}
    {a : Attempt} (h : a ∈ x.attemptsAfter w next) : ∃ b v, x w = .ok b v ∧ a ∈ next b v := by
  rw [attemptsAfter] at h
  split at h
  · exact ⟨_, _, ‹_›, h⟩
  · cases h

theorem isStep_of_mem_methodAttempts {r : Resource}
    (hr : r ∈ Resource.allNested plan.context.service.resources) {owner : Int} {ms : List Method}
    (hms : ms ⊆ r.methods) {a : Attempt} (ha : a ∈ plan.methodAttempts r owner ms w) :
    plan.IsStep a.location a.step := by
  induction ms generalizing w with
  | nil => cases ha
  | cons m rest ih =>
    rw [methodAttempts] at ha
    rcases List.mem_append.1 ha with ha | ha
    · rw [List.mem_singleton.1 ha]
      exact .method owner hr (hms List.mem_cons_self)
    · obtain ⟨_, _, -, ha⟩ := mem_attemptsAfter ha
      exact ih (fun m' hm' => hms (List.mem_cons_of_mem m hm')) ha

mutual

theorem isStep_of_mem_resourceAttempts {a : Attempt} :
    ∀ (r : Resource) {owner : Option Int} {w : Workbench},
      r.withNested ⊆ Resource.allNested plan.context.service.resources →
      a ∈ plan.resourceAttempts owner r w → plan.IsStep a.location a.step
  | ⟨name, methods, inner, path⟩, owner, w, hr, ha => by
    rw [Resource.withNested] at hr
    rw [resourceAttempts] at ha
    obtain ⟨decl, v, -, ha⟩ := mem_attemptsAfter ha
    rcases List.mem_append.1 ha with ha | ha
    · exact isStep_of_mem_resourcesAttempts inner (fun q hq => hr (List.mem_cons_of_mem _ hq)) ha
    · obtain ⟨_, _, -, ha⟩ := mem_attemptsAfter ha
      exact isStep_of_mem_methodAttempts (hr List.mem_cons_self) (List.Subset.refl _) ha

theorem isStep_of_mem_resourcesAttempts {a : Attempt} :
    ∀ (rs : List Resource) {owner : Option Int} {w : Workbench},
      Resource.allNested rs ⊆ Resource.allNested plan.context.service.resources →
      a ∈ plan.resourcesAttempts owner rs w → plan.IsStep a.location a.step
  | [], _, _, _, ha => by cases ha
  | r :: rest, owner, w, hrs, ha => by
    rw [Resource.allNested, List.append_subset] at hrs
    rw [resourcesAttempts] at ha
    split at ha
    · cases ha
    · exact isStep_of_mem_resourcesAttempts rest hrs.2 ha
    · rcases List.mem_append.1 ha with ha | ha
      · rcases List.mem_append.1 ha with ha | ha
        · exact isStep_of_mem_resourceAttempts r hrs.1 ha
        · rw [List.mem_singleton.1 ha]
          refine .resource owner (hrs.1 ?_)
          cases r
          rw [Resource.withNested]
          exact List.mem_cons_self
      · obtain ⟨_, _, -, ha⟩ := mem_attemptsAfter ha
        exact isStep_of_mem_resourcesAttempts rest hrs.2 ha

end

theorem isStep_of_mem_schemaAttempts {schemas : List Schema}
    (hschemas : schemas ⊆ plan.context.service.schemas)
    (hpath : ∀ s ∈ schemas, s.path = dotted "schemas" s.name) {a : Attempt}
    (ha : a ∈ plan.schemaAttempts schemas w) : plan.IsStep a.location a.step := by
  induction schemas generalizing w with
  | nil => cases ha
  | cons s rest ih =>
    obtain ⟨hs, hrest⟩ := List.forall_mem_cons.1 hpath
    obtain ⟨hmem, hsub⟩ := List.cons_subset.1 hschemas
    rw [schemaAttempts] at ha
    split at ha
    · cases ha
    · exact ih hsub hrest ha
    · rcases List.mem_append.1 ha with ha | ha
      · rw [List.mem_singleton.1 ha]
        dsimp only
        rw [hs]
        exact .schema hmem
      · obtain ⟨_, _, -, ha⟩ := mem_attemptsAfter ha
        exact ih hsub hrest ha

/-- **Every attempt of a building is a guarded step with its path.** -/
theorem isStep_of_mem_attempts
    (hpath : ∀ s ∈ plan.context.service.schemas, s.path = dotted "schemas" s.name) {a : Attempt}
    (ha : a ∈ plan.attempts w) : plan.IsStep a.location a.step := by
  rw [attempts] at ha
  obtain ⟨decl, v, -, ha⟩ := mem_attemptsAfter ha
  rcases List.mem_append.1 ha with ha | ha
  · exact isStep_of_mem_resourcesAttempts _ (List.Subset.refl _) ha
  · obtain ⟨_, u, -, ha⟩ := mem_attemptsAfter ha
    rcases List.mem_append.1 ha with ha | ha
    · rw [List.mem_singleton.1 ha]
      exact .service decl
    · obtain ⟨_, t, -, ha⟩ := mem_attemptsAfter ha
      exact isStep_of_mem_schemaAttempts (List.Subset.refl _) hpath ha

/-! ### What the steps raise -/

theorem raises_buildMethod {path : String} (r : Resource) (owner : Int) (m : Method)
    (hpath : path = dotted r.path m.name) :
    Session.Raises (StepIssue path) (plan.buildMethod r owner m) := by
  subst hpath
  rw [buildMethod]
  dsimp only
  have hrest (response : Json) : Session.Raises (StepIssue (dotted r.path m.name)) (do
      let name ← safeName owner (Identifier.pascal m.name ++ "Request") plan.context.suffix []
      let base := plan.context.config.requestBaseClass.text ++ "<" ++ (← response.written) ++ ">"
      let request ← addClass (some owner) (Declaration.ofClass name [.str base] .null)
      plan.pipeline.request.forM fun pass =>
        pass.run ⟨r, some m, request, owner, some plan.context⟩) := by
    refine .bind (raises_safeName _ _ _ _) fun _ => .bind (.lift (.written _)) fun _ =>
      .bind (raises_addClass _ _) fun request => .forM fun pass _ => ?_
    exact RequestPass.raises_run rfl pass
  split
  · exact .bind (.lift (raises_className _ (RequestPass.stepIssue_self rfl))) hrest
  · exact .bind .pure hrest

theorem raises_buildResources (owner : Option Int) (rs : List Resource) {P : Issue → Prop} :
    Session.Raises P (plan.buildResources owner rs) := by
  induction rs with
  | nil => exact .pure
  | cons r rest ih =>
    rw [buildResources]
    refine .bind (.lift (raises_ignoresResource _)) fun ignored => ?_
    dsimp only
    exact .ite (.bind (raises_guarded _ _) fun _ => ih) ih

theorem raises_buildResource {path : String} (owner : Option Int) (r : Resource) :
    Session.Raises (StepIssue path) (plan.buildResource owner r) := by
  rw [buildResource_eq]
  refine .bind (.bind (.lift (raises_resourceClass _)) fun _ => raises_addClass _ _) fun decl =>
    .bind (.bind (raises_buildResources _ _) fun _ => ?_) fun _ => ?_
  · exact .forM fun pass _ => pass.raises_run r
  · exact .forM fun m _ => raises_guarded _ _

theorem raises_buildSchema {path : String} {s : Schema} {properties : Fields}
    (h : FieldsRead path properties s.fields) :
    Session.Raises (StepIssue path) (plan.buildSchema s) := by
  rw [buildSchema]
  dsimp only
  split
  · exact .bind .pure fun _ => .bind (raises_addClass _ _) fun _ =>
      .forM fun pass _ => SchemaPass.raises_run h pass
  · exact .fault_bind

/-- **A guarded step raises issues of its part of the document.** -/
theorem IsStep.raises {path : String} {step : Build Unit} (h : plan.IsStep path step)
    (hschemas : ∀ s ∈ plan.context.service.schemas,
      ∃ properties, FieldsRead (dotted "schemas" s.name) properties s.fields) :
    Session.Raises (StepIssue path) step := by
  cases h with
  | resource owner hr => exact raises_buildResource owner _
  | method owner hr hm => exact raises_buildMethod _ owner _ rfl
  | service decl => exact .forM fun pass _ => pass.raises_run _
  | schema hs =>
    obtain ⟨properties, hread⟩ := hschemas _ hs
    exact raises_buildSchema hread

end Plan

/-! ### Documents -/

namespace Document

/-- Every schema of a service was read at the path of its key. -/
theorem schemaReads_of_read {document : Json} {l l' : Ledger} {service : Service}
    (h : read document l = .ok service l') {s : Schema} (hs : s ∈ service.schemas) :
    ∃ value, SchemaReads (dotted "schemas" s.name) s.name value s := by
  obtain ⟨fields, l₀, l₁, -, -, hschemas, -⟩ := exists_of_read h
  obtain ⟨issues, -, haccounted⟩ := (ends_readSchemas _).of_ok hschemas
  obtain ⟨key, value, hread⟩ := haccounted.exists_reads hs
  exact ⟨value, by rwa [hread.name_eq]⟩

end Document

/-- **Where an issue recorded for a step is located**: within the path of the step if the document
is malformed there; at the scope, or the class, that a taken name belongs to, and at the path of
the step only where that one has no name. -/
inductive LocatedFor (path : String) (i : Issue) : Prop
  | malformed (kind : i.kind = .malformedDocument) (location : IsWithin path i.location) :
      LocatedFor path i
  | taken {j : Issue} (h : j.Taken) (hi : i = j.orAt path) : LocatedFor path i

theorem StepIssue.locatedFor {path : String} {i : Issue} (h : StepIssue path i) :
    LocatedFor path (i.orAt path) := by
  cases h with
  | taken h => exact .taken h rfl
  | malformed kind location =>
    rw [Issue.orAt]
    split
    · exact .malformed kind location
    · exact .malformed kind (.self path)

/-- **Every recorded issue says where it arose.** A building records the issues of its guarded
steps and no others; every step belongs to a part of the document and has its path; and the issue
of a step is located within that path, unless it is one about a taken name. -/
theorem located_build {config : Config} {pipeline : Pipeline} {document : Json} {l l' : Ledger}
    {service : Service} {plan : Plan} (hread : Document.read document l = .ok service l')
    (hplan : planFor config pipeline service = .ok plan) :
    (plan.build.after ⟨{}, l'⟩).ledger.issues =
        l'.issues ++ (plan.attempts ⟨{}, l'⟩).filterMap Attempt.issue? ∧
      ∀ a ∈ plan.attempts ⟨{}, l'⟩, plan.IsStep a.location a.step ∧
        ∀ i, a.issue? = some i → LocatedFor a.location i := by
  obtain ⟨rfl, -⟩ := planFor_context hplan
  refine ⟨(plan.accounts_build (w := ⟨{}, l'⟩) Over.nil).issues, fun a ha => ?_⟩
  have hstep := Plan.isStep_of_mem_attempts (fun s hs => ?_) ha
  · refine ⟨hstep, fun i hi => ?_⟩
    have hraises := hstep.raises fun s hs => ?_
    · rw [Attempt.issue?] at hi
      split at hi
      · rename_i j v hrun
        cases hi
        exact (hraises _ _ _ hrun).locatedFor
      · cases hi
    · obtain ⟨value, hs⟩ := schemaReads_of_read hread hs
      obtain ⟨fields, -, hfields⟩ := hs.fields
      exact ⟨_, hfields⟩
  · obtain ⟨value, hs⟩ := schemaReads_of_read hread hs
    exact hs.path_eq

/-- A document with a default that is no number, a parameter and a field deep inside a schema that
refer to nothing, and a resource whose class gets the name of one of its members. -/
def strayDocument : Json :=
  .object [("name", "stray"),
    ("schemas", .object [
      ("Page", .object [("properties", .object [
        ("notes", .object [("type", "array"), ("items", .object [
          ("properties", .object [("by", .object [("$ref", "Nobody")])])])])])])]),
    ("resources", .object [
      ("pages", .object [("methods", .object [
        ("get", .object [("httpMethod", "GET"), ("path", "pages"), ("parameters", .object [
          ("count", .object [("type", "integer"), ("location", "query"), ("default", "one")])])]),
        ("put", .object [("httpMethod", "PUT"), ("path", "pages"), ("parameters", .object [
          ("of", .object [("$ref", "Nothing"), ("location", "query")])])])])]),
      ("!!", .object [])])]

/-- Four steps of the building of that document meet an issue. -/
theorem located_strayDocument :
    ∃ (service : Service) (l : Ledger) (plan : Plan),
      Document.read strayDocument {} = .ok service l ∧
      planFor {} .registered service = .ok plan ∧
      (plan.build.after ⟨{}, l⟩).ledger.issues.map (fun i => i.location.text) =
        ["pages.get.count", "pages.put.of", "Resource", "schemas.Page.notes.items.by"] ∧
      (plan.build.after ⟨{}, l⟩).ledger.issues =
          l.issues ++ (plan.attempts ⟨{}, l⟩).filterMap Attempt.issue? ∧
        ∀ a ∈ plan.attempts ⟨{}, l⟩, plan.IsStep a.location a.step ∧
          ∀ i, a.issue? = some i → LocatedFor a.location i := by
  have hrun : Session.passes (fun (service : Service) l =>
      match planFor {} .registered service with
      | .ok plan => (plan.build.after ⟨{}, l⟩).ledger.issues.map (fun i => i.location.text) ==
          ["pages.get.count", "pages.put.of", "Resource", "schemas.Page.notes.items.by"]
      | .error _ => false) (Document.read strayDocument {}) = true := by
    decide +kernel
  obtain ⟨service, l, hread, h⟩ := Session.exists_of_passes hrun
  split at h
  · rename_i plan hplan
    exact ⟨service, l, plan, hread, hplan, eq_of_beq h, located_build hread hplan⟩
  · cases h

/-- A document with a resource whose name has no letters. -/
def bangDocument : Json :=
  .object [("name", "x"), ("resources", .object [("!!", .object [])])]

theorem not_isWithin_resource : ¬IsWithin "!!" "Resource" := by
  rintro (h | ⟨rest, h⟩)
  · exact absurd (Json.str.inj h) (by decide)
  · have hchars := congrArg String.toList (Json.str.inj h)
    simp only [dotted, String.toList_append] at hchars
    cases hchars

/-- **An issue that does not say where it arose**: that of the step for the resource is located at
the name of its class, and not within the path of the step. -/
theorem not_within_bangDocument :
    ∃ (service : Service) (l : Ledger) (plan : Plan),
      Document.read bangDocument {} = .ok service l ∧
      planFor {} .registered service = .ok plan ∧
      ∃ a ∈ plan.attempts ⟨{}, l⟩, ∃ i, a.issue? = some i ∧ a.location = "!!" ∧
        i.location = .str "Resource" ∧ ¬IsWithin a.location i.location := by
  have hrun : Session.passes (fun (service : Service) l =>
      match planFor {} .registered service with
      | .ok plan => (plan.attempts ⟨{}, l⟩).any fun a =>
          a.location == "!!" && a.issue?.any (·.location.isText "Resource")
      | .error _ => false) (Document.read bangDocument {}) = true := by
    decide +kernel
  obtain ⟨service, l, hread, h⟩ := Session.exists_of_passes hrun
  split at h
  · rename_i plan hplan
    obtain ⟨a, ha, h⟩ := List.any_eq_true.1 h
    obtain ⟨hlocation, hissue⟩ := (Bool.and_eq_true _ _).mp h
    obtain ⟨i, hi, hissue⟩ := (Option.any_eq_true _ _).1 hissue
    have hlocation : a.location = "!!" := eq_of_beq hlocation
    have hissue : i.location = .str "Resource" := Json.isText_iff.1 hissue
    refine ⟨service, l, plan, hread, hplan, a, ha, i, hi, hlocation, hissue, ?_⟩
    rw [hlocation, hissue]
    exact not_isWithin_resource
  · cases h

end ClientGen
