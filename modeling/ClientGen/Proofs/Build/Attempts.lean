import ClientGen.Proofs.Build.Absence

/-!
# The guarded steps of a building

The issues that a building records are those of its guarded steps. A building runs a guarded
step for each resource, each method, the decoration of the service class, and each schema; an
**attempt** (`ClientGen.Attempt`) is such a step together with the workbench on which it is run.
The attempts of a building (`ClientGen.Plan.attempts`) are found by following its run. They come
in the order in which they end, so that what was attempted inside a resource comes before the
resource.

A building records one issue for each attempt that meets one, and no other issues
(`ClientGen.Plan.accounts_build`), and an attempt that meets an issue leaves the model as it found
it (`ClientGen.Attempt.IsSound.model_guarded`). The first of these rests on the decorators being
**quiet**: they never record anything themselves.
-/

namespace ClientGen

open Build Decorator

variable {α β : Type}

/-! ### Quiet steps -/

/-- **A quiet step** records no issue, whether it fails or not. -/
def Quiet (x : Build α) : Prop :=
  ∀ w, (x.after w).ledger.issues = w.ledger.issues

namespace Quiet

theorem pure {a : α} : Quiet (Pure.pure a : Build α) := fun _ => rfl

theorem throw {e : Failure} : Quiet (throw e : Build α) := fun _ => rfl

theorem bind {x : Build α} {k : α → Build β} (hx : Quiet x) (hk : ∀ a, Quiet (k a)) :
    Quiet (x >>= k) := by
  intro w
  refine Session.after_bind (P := fun v : Workbench => v.ledger.issues = w.ledger.issues) (hx w) ?_
  intro a v _ hv
  rw [hk a v, hv]

theorem ite {c : Bool} {x y : Build α} (hx : Quiet x) (hy : Quiet y) :
    Quiet (if c = true then x else y) := by
  cases c with
  | true => exact hx
  | false => exact hy

theorem forM {f : β → Build PUnit} {bs : List β} (h : ∀ b ∈ bs, Quiet (f b)) :
    Quiet (bs.forM f) := by
  induction bs with
  | nil => exact pure
  | cons b bs ih =>
    exact bind (h b List.mem_cons_self) fun _ => ih fun b' hb' => h b' (List.mem_cons_of_mem b hb')

theorem lift {o : Outcome α} : Quiet (liftM o : Build α) := by
  intro w
  rw [Session.after, Session.lift_run]
  cases o <;> rfl

theorem look {fn : CodeModel → Outcome α} : Quiet (look fn) :=
  bind (x := get) (fun _ => rfl) fun _ => lift

theorem write {level : LogLevel} {text : String} : Quiet (write level text) := fun _ => rfl

theorem onModel {change : CodeModel.Change α} : Quiet (onModel change) := by
  intro w
  rw [Session.after, Build.onModel]
  cases change w.model <;> rfl

theorem addMember {owner : Int} {d : Declaration} : Quiet (addMember owner d) :=
  bind onModel fun _ => pure

theorem addClass {owner : Option Int} {d : Declaration} : Quiet (addClass owner d) :=
  bind onModel fun _ => pure

end Quiet

/-! ### The decorators are quiet -/

variable {c : Context} {o : Int}

namespace ServicePass

theorem quiet_addScopeConstants (scopes : List (String × Json)) :
    Quiet (addScopeConstants c o scopes) := by
  induction scopes generalizing o with
  | nil => exact .pure
  | cons scope rest ih => exact .bind .look fun _ => .bind .addMember fun _ => ih

theorem quiet_addResources (rs : List Resource) : Quiet (addResources o c rs) := by
  induction rs with
  | nil => exact .pure
  | cons r rest ih =>
    refine .bind .lift fun ignored => ?_
    dsimp only
    refine .ite ?_ ih
    refine .bind .lift fun type => .bind .look fun names => ?_
    exact .ite (.bind .look fun _ => .bind .addMember fun _ => ih) ih

theorem quiet_run (p : ServicePass) (service : Service) : Quiet (p.run service o c) := by
  cases p with
  | constants =>
    exact .bind .addMember fun _ => .bind .addMember fun _ => .ite .addMember .pure
  | scopes =>
    refine .ite (.bind .look fun name => ?_) .pure
    exact .bind .addClass fun _ => quiet_addScopeConstants service.scopes
  | resources => exact quiet_addResources service.resources
  | constructor =>
    exact .bind .look fun _ => .bind .look fun _ => .bind .lift fun _ => .addMember

end ServicePass

namespace ResourcePass

theorem quiet_addSubresources (rs : List Resource) : Quiet (addSubresources o c rs) := by
  induction rs with
  | nil => exact .pure
  | cons r rest ih =>
    refine .bind .lift fun ignored => ?_
    dsimp only
    refine .ite ?_ ih
    refine .bind .lift fun type => .bind .look fun names => ?_
    exact .ite (.bind .look fun _ => .bind .addMember fun _ => ih) ih

theorem quiet_run (p : ResourcePass) (r : Resource) : Quiet (p.run r o c) := by
  cases p with
  | wireName => exact .addMember
  | subresources => exact quiet_addSubresources r.resources
  | service =>
    exact .bind .look fun _ => .bind .addMember fun _ => .bind .look fun _ =>
      .bind .lift fun _ => .addMember

end ResourcePass

namespace RequestPass

variable {s : RequestSite}

theorem quiet_addParameters (m : Method) (ps : List Parameter) : Quiet (addParameters s m ps) := by
  induction ps with
  | nil => exact .pure
  | cons p rest ih =>
    exact .bind .lift fun _ => .bind .look fun _ => .bind .lift fun _ =>
      .bind .addMember fun _ => ih

theorem quiet_addBody : Quiet (addBody s) := by
  refine .bind .lift fun m => ?_
  split
  · exact .pure
  · exact .bind .lift fun _ => .bind .lift fun _ => .bind .addMember fun _ => .addMember

theorem quiet_assignDefaults {location : String} {properties : List (String × Declaration)}
    (ps : List Parameter) (g : Signature) :
    Quiet (assignDefaults s location properties ps g) := by
  induction ps generalizing g with
  | nil => exact .pure
  | cons p rest ih =>
    rw [assignDefaults]
    split
    · dsimp only
      exact .ite (.bind .write fun _ => ih g) (.bind .lift fun _ => ih _)
    · exact ih g

theorem quiet_takeBody (g : Signature) : Quiet (takeBody s g) := by
  refine .bind .look fun place => ?_
  split
  · exact .pure
  · exact .bind .lift fun _ => .bind .look fun _ => .lift

theorem quiet_run (p : RequestPass) : Quiet (p.run s) := by
  cases p with
  | documentation =>
    exact .bind .look fun _ => .bind .lift fun _ => .ite .onModel .pure
  | fields =>
    exact .bind .lift fun _ => .bind .addMember fun _ => .bind .addMember fun _ => .addMember
  | parameters => exact .bind .lift fun m => quiet_addParameters m m.parameters
  | body => exact quiet_addBody
  | constructor =>
    exact .bind .look fun _ => .bind .lift fun m => .bind .look fun _ => .bind .lift fun _ =>
      .bind .lift fun g => .bind (quiet_assignDefaults m.parameters g) fun g =>
      .bind (quiet_takeBody g) fun _ => .addMember
  | factory =>
    exact .bind .look fun _ => .bind .look fun _ => .bind .lift fun _ => .bind .lift fun _ =>
      .bind .look fun _ => .bind .addMember fun _ => .bind .look fun _ => .bind .lift fun _ =>
      .bind .lift fun _ => .write

end RequestPass

namespace SchemaPass

mutual

theorem quiet_addFields (reserved : List Json) (o : Int) :
    ∀ fields : List Field, Quiet (addFields c reserved o fields)
  | [] => .pure
  | ⟨wireName, type, description, required, path⟩ :: rest => by
    rw [addFields]
    refine .bind .look fun name => ?_
    split
    · exact .bind .lift fun _ => .bind .addMember fun _ => quiet_addFields reserved o rest
    · refine .bind .look fun nested => .bind .lift fun _ => .bind .addMember fun _ => ?_
      dsimp only
      exact .ite (.bind (quiet_addInline o nested type) fun _ => quiet_addFields reserved o rest)
        (quiet_addFields reserved o rest)

theorem quiet_addInline (o : Int) (name : Json) :
    ∀ type : TypeRef, Quiet (addInline c o name type)
  | .object _ ⟨_, description, fields, _⟩ => by
    rw [addInline]
    exact .bind .addClass fun nested => quiet_addFields [] nested fields
  | .array items => by
    rw [addInline]
    exact quiet_addInline o name items
  | .map values => by
    rw [addInline]
    exact quiet_addInline o name values
  | .primitive .. => .pure
  | .ref _ => .pure
  | .any _ => .pure

end

theorem quiet_addETag : Quiet (addETag o c) := by
  refine .ite (.bind .look fun place => ?_) .pure
  split
  · exact .pure
  · exact .addMember

theorem quiet_run (p : SchemaPass) (s? : Option Schema) : Quiet (p.run s? o c) := by
  cases p with
  | documentation => exact .bind .look fun _ => .bind .lift fun _ => .ite .onModel .pure
  | properties => exact .bind .lift fun s => quiet_addFields _ o s.fields
  | etag => exact quiet_addETag

end SchemaPass

namespace Plan

variable (plan : Plan)

theorem quiet_buildMethod (r : Resource) (m : Method) : Quiet (plan.buildMethod r o m) := by
  rw [buildMethod]
  dsimp only
  split
  on_goal 1 => refine .bind .lift fun response => ?_
  on_goal 2 => refine .bind .pure fun response => ?_
  all_goals
    refine .bind .look fun name => .bind .lift fun text => .bind .addClass fun request => ?_
    exact .forM fun pass _ => pass.quiet_run

theorem quiet_buildSchema (s : Schema) : Quiet (plan.buildSchema s) := by
  rw [buildSchema]
  dsimp only
  split
  · exact .bind .pure fun name => .bind .addClass fun decl => .forM fun pass _ => pass.quiet_run _
  · exact .bind .throw fun name => .bind .addClass fun decl => .forM fun pass _ => pass.quiet_run _

theorem quiet_openResource (owner : Option Int) (r : Resource) :
    Quiet (plan.openResource owner r) :=
  .bind .lift fun _ => .addClass

end Plan

/-! ### Attempts -/

/-- **An attempt**: a guarded step, and the workbench on which it is run. -/
structure Attempt where
  /-- The location of the step. -/
  location : String
  /-- The step that is guarded. -/
  step : Build Unit
  /-- The workbench on which it is run. -/
  start : Workbench

namespace Attempt

/-- The issue that an attempt meets, as it is recorded. -/
def issue? (a : Attempt) : Option Issue :=
  match a.step a.start with
  | .error (.issue i) _ => some (i.orAt a.location)
  | _ => none

theorem isSome_issue? (a : Attempt) : a.issue?.isSome = a.step.meetsIssue a.start := by
  rw [issue?, meetsIssue]
  split <;> simp_all

/-- An attempt on a model as a building makes it. -/
structure IsSound (c : Context) (a : Attempt) : Prop where
  laid : Over (made c) [] a.start.model
  steady : ∀ base, SteadyStep (made c) base a.step

/-- **An attempt that meets an issue leaves the model as it found it.** -/
theorem IsSound.model_guarded {a : Attempt} (h : a.IsSound c) {i : Issue}
    (hi : a.issue? = some i) :
    ∃ l, guarded a.location a.step a.start = .ok () ⟨a.start.model, l⟩ := by
  refine guarded_of_meetsIssue h.steady h.laid ?_
  rw [← isSome_issue?, hi]
  rfl

end Attempt

/-- What is attempted after a step, if the step ends well. -/
def Build.attemptsAfter (x : Build α) (w : Workbench) (next : α → Workbench → List Attempt) :
    List Attempt :=
  match x w with
  | .ok a v => next a v
  | .error _ _ => []

/-- **A step accounts for attempts** when the issues it records are those that the attempts
meet. -/
structure Accounts (c : Context) (x : Build α) (w : Workbench) (attempts : List Attempt) : Prop
    where
  issues : (x.after w).ledger.issues = w.ledger.issues ++ attempts.filterMap Attempt.issue?
  sound : ∀ a ∈ attempts, a.IsSound c

namespace Accounts

variable {x : Build α} {k : α → Build β} {w : Workbench} {attempts : List Attempt}

theorem ofQuiet (hx : Quiet x) : Accounts c x w [] where
  issues := by rw [hx w, List.filterMap_nil, List.append_nil]
  sound := nofun

theorem bind {next : α → Workbench → List Attempt} (hx : Accounts c x w attempts)
    (hk : ∀ {a v}, x w = .ok a v → Accounts c (k a) v (next a v)) :
    Accounts c (x >>= k) w (attempts ++ x.attemptsAfter w next) := by
  have hissues := hx.issues
  rw [attemptsAfter]
  cases hrun : x w with
  | ok a v =>
    have hnext := hk hrun
    rw [Session.after_of_ok hrun] at hissues
    refine ⟨?_, List.forall_mem_append.2 ⟨hx.sound, hnext.sound⟩⟩
    rw [Session.after_bind_of_ok hrun, hnext.issues, hissues, List.filterMap_append,
      List.append_assoc]
  | error e v =>
    rw [Session.after_of_error hrun] at hissues
    refine ⟨?_, by simpa using hx.sound⟩
    rw [Session.after_bind_of_error hrun]
    simpa using hissues

/-- After a quiet step only what comes next is attempted. -/
theorem after {next : α → Workbench → List Attempt} (hx : Quiet x)
    (hk : ∀ {a v}, x w = .ok a v → Accounts c (k a) v (next a v)) :
    Accounts c (x >>= k) w (x.attemptsAfter w next) :=
  bind (ofQuiet hx) hk

/-- Before quiet steps only what came first is attempted. -/
theorem before (hx : Accounts c x w attempts) (hk : ∀ a, Quiet (k a)) :
    Accounts c (x >>= k) w attempts := by
  have h : Accounts c (x >>= k) w (attempts ++ x.attemptsAfter w fun _ _ => []) :=
    bind hx fun _ => ofQuiet (hk _)
  have hnone : x.attemptsAfter w (fun _ _ => []) = [] := by
    rw [attemptsAfter]
    split <;> rfl
  rwa [hnone, List.append_nil] at h

/-- A guarded step is attempted after all that is attempted inside it. -/
theorem guarded {location : String} {step : Build Unit}
    (hsteady : ∀ base, SteadyStep (made c) base step) (hover : Over (made c) [] w.model)
    (hstep : Accounts c step w attempts) :
    Accounts c (guarded location step) w (attempts ++ [⟨location, step, w⟩]) := by
  have hissues := hstep.issues
  refine ⟨?_, List.forall_mem_append.2 ⟨hstep.sound, ?_⟩⟩
  · rw [List.filterMap_append, ← List.append_assoc, ← hissues]
    cases hrun : step w with
    | ok a v =>
      have hguarded : ClientGen.guarded location step w = .ok () v := by
        rw [ClientGen.guarded, hrun]
      have hown : Attempt.issue? ⟨location, step, w⟩ = none := by simp [Attempt.issue?, hrun]
      simp [Session.after_of_ok hrun, Session.after_of_ok hguarded, hown]
    | error e v =>
      cases e with
      | fault f =>
        have hguarded : ClientGen.guarded location step w = .error (.fault f) v := by
          rw [ClientGen.guarded, hrun]
        have hown : Attempt.issue? ⟨location, step, w⟩ = none := by simp [Attempt.issue?, hrun]
        simp [Session.after_of_error hrun, Session.after_of_error hguarded, hown]
      | issue i =>
        -- what the step added is taken back, and its issue is recorded
        obtain ⟨ds, hds, -, hTs, hw⟩ := hover
        have hagree := hsteady ds w w rfl ⟨ds, hds, List.prefix_rfl, hTs, hw⟩
        rw [hrun] at hagree
        cases hagree with
        | error _ hover =>
          have hown : Attempt.issue? ⟨location, step, w⟩ = some (i.orAt location) := by
            simp [Attempt.issue?, hrun]
          rw [Session.after_of_ok (guarded_of_issue hw hrun hover)]
          simp [Ledger.record, Ledger.write, Session.after_of_error hrun, hown]
  · simpa using ⟨hover, hsteady⟩

end Accounts

/-! ### The attempts of a building -/

namespace Plan

variable (plan : Plan)

/-- The attempts for methods of a resource. -/
def methodAttempts (r : Resource) (owner : Int) : List Method → Workbench → List Attempt
  | [], _ => []
  | m :: rest, w =>
    [⟨r.path ++ "." ++ m.name, plan.buildMethod r owner m, w⟩] ++
      (plan.methodStep r owner m).attemptsAfter w fun _ v => methodAttempts r owner rest v

mutual

/-- The attempts inside the step for a resource: the resources inside it and its methods. -/
def resourceAttempts (owner : Option Int) : Resource → Workbench → List Attempt
  | r@⟨_, methods, inner, _⟩, w =>
    (plan.openResource owner r).attemptsAfter w fun decl v =>
      resourcesAttempts (some decl) inner v ++
        (plan.fillResource decl r).attemptsAfter v fun _ u => plan.methodAttempts r decl methods u

/-- The attempts for resources: each comes after those inside it. -/
def resourcesAttempts (owner : Option Int) : List Resource → Workbench → List Attempt
  | [], _ => []
  | r :: rest, w =>
    match plan.context.ignoresResource r.path with
    | .error _ => []
    | .ok true => resourcesAttempts owner rest w
    | .ok false =>
      resourceAttempts owner r w ++ [⟨r.path, plan.buildResource owner r, w⟩] ++
        (guarded r.path (plan.buildResource owner r)).attemptsAfter w fun _ v =>
          resourcesAttempts owner rest v

end

/-- The attempts for schemas. -/
def schemaAttempts : List Schema → Workbench → List Attempt
  | [], _ => []
  | s :: rest, w =>
    match plan.context.ignoresSchema s.name with
    | .error _ => []
    | .ok true => schemaAttempts rest w
    | .ok false =>
      [⟨s.path, plan.buildSchema s, w⟩] ++
        (guarded s.path (plan.buildSchema s)).attemptsAfter w fun _ v => schemaAttempts rest v

/-- Decorate the service class. -/
def decorateService (decl : Int) : Build Unit :=
  plan.pipeline.service.forM fun pass => pass.run plan.context.service decl plan.context

/-- **The attempts of a building**: for the resources, the service class and the schemas. -/
def attempts (w : Workbench) : List Attempt :=
  plan.openService.attemptsAfter w fun decl v =>
    plan.resourcesAttempts none plan.context.service.resources v ++
      (plan.buildResources none plan.context.service.resources).attemptsAfter v fun _ u =>
        [⟨plan.context.service.name, plan.decorateService decl, u⟩] ++
          (guarded plan.context.service.name (plan.decorateService decl)).attemptsAfter u fun _ t =>
            plan.schemaAttempts plan.context.service.schemas t

variable {plan} {w : Workbench}

theorem accounts_methods (r : Resource) (ho : 0 ≤ o) (ms : List Method)
    (hover : Over (made plan.context) [] w.model) :
    Accounts plan.context (ms.forM (plan.methodStep r o)) w (plan.methodAttempts r o ms w) := by
  induction ms generalizing w with
  | nil => exact .ofQuiet .pure
  | cons m rest ih =>
    refine .bind (.guarded (fun _ => plan.steady_buildMethod r ho m) hover
      (.ofQuiet (plan.quiet_buildMethod r m))) fun {_ v} hrun => ih ?_
    exact (steady_methodStep r ho m).over_of_ok hover hrun

theorem steady_fillResource (r : Resource) (ho : 0 ≤ o) :
    SteadyStep (made plan.context) [] (plan.fillResource o r) := by
  refine .bind (plan.steady_buildResources (by simpa using ho) r.resources []) fun _ _ => ?_
  exact .forM fun pass _ => pass.steady_run r ho

mutual

theorem accounts_resource {owner : Option Int} (ho : ∀ o, owner = some o → 0 ≤ o) :
    ∀ (r : Resource) {w : Workbench}, Over (made plan.context) [] w.model →
      Accounts plan.context (plan.buildResource owner r) w (plan.resourceAttempts owner r w)
  | ⟨name, methods, inner, path⟩, w, hover => by
    rw [buildResource_eq, resourceAttempts]
    refine .after (plan.quiet_openResource owner _) fun {decl v} hopen => ?_
    have hdecl : 0 ≤ decl := by
      have hagree := steady_openResource ho ⟨name, methods, inner, path⟩ w w rfl hover
      rw [hopen] at hagree
      cases hagree with
      | ok _ _ hle => simpa using hle
    have hover := (steady_openResource ho _).over_of_ok hover hopen
    have hinner : ∀ o, some decl = some o → 0 ≤ o := by
      rintro o ⟨⟩
      exact hdecl
    refine .bind (.before (accounts_resources hinner inner hover) fun _ => ?_) fun {_ u} hfill => ?_
    · exact .forM fun pass _ => pass.quiet_run _
    · exact accounts_methods _ hdecl methods ((steady_fillResource _ hdecl).over_of_ok hover hfill)

theorem accounts_resources {owner : Option Int} (ho : ∀ o, owner = some o → 0 ≤ o) :
    ∀ (rs : List Resource) {w : Workbench}, Over (made plan.context) [] w.model →
      Accounts plan.context (plan.buildResources owner rs) w (plan.resourcesAttempts owner rs w)
  | [], _, _ => .ofQuiet .pure
  | r :: rest, w, hover => by
    rw [resourcesAttempts]
    cases hignored : plan.context.ignoresResource r.path with
    | error e =>
      have hrun : plan.buildResources owner (r :: rest) w = .error e w :=
        buildResources_cons_of_error hignored w
      exact ⟨by simp [Session.after_of_error hrun], nofun⟩
    | ok ignored =>
      cases ignored with
      | true =>
        rw [buildResources_cons_of_ignored hignored]
        exact accounts_resources ho rest hover
      | false =>
        rw [buildResources_cons_of_kept hignored]
        have hsteady := plan.steady_buildResource ho r
        refine .bind (.guarded hsteady hover (accounts_resource ho r hover)) fun {_ v} hrun => ?_
        exact accounts_resources ho rest ((Steady.guarded hsteady).over_of_ok hover hrun)

end

theorem accounts_schemas (schemas : List Schema) (hover : Over (made plan.context) [] w.model) :
    Accounts plan.context (plan.buildSchemas schemas) w (plan.schemaAttempts schemas w) := by
  induction schemas generalizing w with
  | nil => exact .ofQuiet .pure
  | cons s rest ih =>
    rw [schemaAttempts]
    cases hignored : plan.context.ignoresSchema s.name with
    | error e =>
      have hrun : plan.buildSchemas (s :: rest) w = .error e w := by
        simp only [buildSchemas, hignored]
        rfl
      exact ⟨by simp [Session.after_of_error hrun], by simp⟩
    | ok ignored =>
      cases ignored with
      | true =>
        rw [buildSchemas_cons_of_ignored hignored]
        exact ih hover
      | false =>
        rw [buildSchemas_cons_of_kept hignored]
        have hsteady : ∀ base, SteadyStep (made plan.context) base (plan.buildSchema s) :=
          fun _ => plan.steady_buildSchema s
        refine .bind (.guarded hsteady hover (.ofQuiet (plan.quiet_buildSchema s)))
          fun {_ v} hrun => ih ?_
        exact (Steady.guarded hsteady).over_of_ok hover hrun

theorem mem_attempts_of_mem_schemaAttempts {v : Workbench} (h : plan.buildService w = .ok () v)
    {a : Attempt} (ha : a ∈ plan.schemaAttempts plan.context.service.schemas v) :
    a ∈ plan.attempts w := by
  obtain ⟨decl, w₁, hopen, h⟩ := Session.bind_eq_ok.1 h
  obtain ⟨_, w₂, hresources, h⟩ := Session.bind_eq_ok.1 h
  rw [attempts, attemptsAfter, hopen]
  refine List.mem_append_right _ ?_
  rw [attemptsAfter, hresources]
  refine List.mem_append_right _ ?_
  have hdecorate : guarded plan.context.service.name (plan.decorateService decl) w₂ = .ok () v := h
  rwa [attemptsAfter, hdecorate]

/-- **A building accounts for its attempts.** -/
theorem accounts_build (hover : Over (made plan.context) [] w.model) :
    Accounts plan.context plan.build w (plan.attempts w) := by
  rw [build, attempts]
  refine .after (x := plan.openService) .addClass fun {decl v} hopen => ?_
  have hdecl : 0 ≤ decl := by
    have hagree := plan.steady_openService w w rfl hover
    rw [hopen] at hagree
    cases hagree with
    | ok _ _ hle => simpa using hle
  have hover := plan.steady_openService.over_of_ok hover hopen
  refine .bind (accounts_resources (by simp) _ hover) fun {_ u} hresources => ?_
  have hover := (plan.steady_buildResources (by simp) _ []).over_of_ok hover hresources
  have hsteady : ∀ base, SteadyStep (made plan.context) base (plan.decorateService decl) :=
    fun _ => plan.steady_service _ hdecl
  have hquiet : Quiet (plan.decorateService decl) := .forM fun pass _ => pass.quiet_run _
  refine .bind (.guarded hsteady hover (.ofQuiet hquiet))
    fun {_ t} hdecorated => ?_
  have hover := (Steady.guarded hsteady).over_of_ok hover hdecorated
  refine .before (accounts_schemas _ hover) fun _ => ?_
  exact .bind (fun _ => rfl) fun _ => .write

end Plan

end ClientGen
