import ClientGen.Proofs.Build.RequestClasses
import ClientGen.Proofs.Code.Scopes
import ClientGen.Proofs.Naming.Initials

/-!
# Parameters that hide properties

The constructor of a request class gives its parameters to properties: `P = p`. If a parameter has
the name of a property that is assigned, then it **hides** the property
(`ClientGen.MethodBody.Hides`), and the statement gives the parameter to itself.

The names of properties begin with a capital, and the names of parameters with a lower-case letter
if they are made from lettered texts. So only a required parameter whose name on the wire is not
lettered can hide a property (`ClientGen.HidesOnlyUnlettered`), and one like `1st` does
(`ClientGen.exists_hides_podiumDocument`): both the property and the parameter are `Value1St`.
-/

namespace ClientGen

open Build Decorator ClientGen.Tree

/-- **A parameter hides what is assigned**: a method assigns to the name of a parameter. -/
def MethodBody.Hides (b : MethodBody) (name : Json) : Prop :=
  (∃ a ∈ b.parameters, a.name = name) ∧ ∃ value, .assign name value ∈ b.statements

/-- Whether a statement assigns to a name. -/
def Statement.assigns (name : String) : Statement → Bool
  | .assign target _ => target.isText name
  | _ => false

/-- The method that a declaration is. -/
def Declaration.method? (d : Declaration) : Option MethodBody :=
  match d.body with
  | .method b => some b
  | _ => none

theorem Declaration.body_of_method? {d : Declaration} {b : MethodBody} (h : d.method? = some b) :
    d.body = .method b := by
  cases hbody : d.body <;> simp_all [method?]

theorem Declaration.body_of_property? {d : Declaration} {p : PropertyBody}
    (h : d.property? = some p) : d.body = .property p := by
  cases hbody : d.body <;> simp_all [property?]

theorem MethodBody.hides_of_any {b : MethodBody} {name : String}
    (hparameter : (b.parameters.any (·.name.isText name)) = true)
    (hassign : b.statements.any (Statement.assigns name) = true) : b.Hides (.str name) := by
  obtain ⟨a, ha, hname⟩ := List.any_eq_true.1 hparameter
  obtain ⟨s, hs, htarget⟩ := List.any_eq_true.1 hassign
  refine ⟨⟨a, ha, Json.isText_iff.1 hname⟩, ?_⟩
  cases s with
  | assign target value => exact ⟨value, Json.isText_iff.1 htarget ▸ hs⟩
  | _ => cases htarget

/-- **Only the parameters that are not lettered hide properties** in the constructor of a request
class: those that are required, and they do it under their names with the suffix in front. -/
structure HidesOnlyUnlettered (suffix : String) (m : Method) (request : Tree) : Prop where
  constructed : ∃ t ∈ request.members, ∃ b, t.decl.body = .method b ∧ b.isConstructor = true
  hidden : ∀ t ∈ request.members, ∀ b, t.decl.body = .method b → b.isConstructor = true →
    ∀ name, b.Hides name → ∃ p ∈ m.parameters, p.required = true ∧ isLettered p.name = false ∧
      ∃ k, name = .str (lengthened suffix (suffix ++ Identifier.pascal p.name) k)

/-! ### The names of the properties -/

variable {c : Context} {location : String} {m : Method} {suffix : String}

section Properties

variable (hsuffix : c.suffix = .str suffix) (hcapital : Begins Char.isUpper (.str suffix))

include hsuffix hcapital

theorem begins_isUpper_of_isParameter {p : Parameter} {t : Tree} (h : IsParameter c location p t) :
    Begins Char.isUpper t.name := by
  obtain ⟨name, type, ⟨reserved, hname⟩, -, rfl⟩ := h
  rw [hsuffix] at hname
  exact Identifier.begins_isUpper_of_safeWith hcapital hname

/-- **What a constructor assigns begins with a capital.** -/
theorem begins_isUpper_of_assign {parameters body : List Tree} {required taken : List Intake}
    {presets : List Preset} (hproperties : RequestProperties c location m parameters body)
    (hrequired : List.Forall₂ (IsIntake parameters) (RequestPass.requiredParameters m) required)
    (hpresets : List.Forall₂ (IsPreset c location parameters)
      (m.parameters.filter Parameter.isPreset) presets)
    (htaken : BodyIntake (parameters ++ body) taken) {name : Json} {value : Expression}
    (h : .assign name value ∈ required.map Intake.assignment ++ presets.map Preset.assignment ++
      taken.map Intake.assignment) : Begins Char.isUpper name := by
  have hown : ∀ t ∈ parameters, Begins Char.isUpper t.name := by
    intro t ht
    obtain ⟨p, -, hp⟩ := exists_left_of_forall₂ hproperties.parameters ht
    exact begins_isUpper_of_isParameter hsuffix hcapital hp
  rw [List.append_assoc, List.mem_append, List.mem_append] at h
  rcases h with h | h | h
  · obtain ⟨i, hi, heq⟩ := List.mem_map.1 h
    obtain ⟨p, -, hp⟩ := exists_left_of_forall₂ hrequired hi
    cases heq
    exact hown _ hp.member
  · obtain ⟨d, hd, heq⟩ := List.mem_map.1 h
    obtain ⟨p, -, hp⟩ := exists_left_of_forall₂ hpresets hd
    cases heq
    exact hown _ hp.member
  · obtain ⟨i, hi, heq⟩ := List.mem_map.1 h
    cases heq
    exact ⟨"Body", 'B', (htaken.mem hi).2, rfl, rfl⟩

end Properties

/-! ### The names of the parameters -/

/-- The name of a parameter that is made from some text: in lower case, if the text is lettered. -/
structure HasLocalForm (suffix wanted : String) (name : Json) : Prop where
  lower : isLettered wanted = true → Begins Char.isLower name
  fronted : isLettered wanted = false →
    ∃ k, name = .str (lengthened suffix (suffix ++ Identifier.pascal wanted) k)

theorem Intakes.hasLocalForm (hsuffix : c.suffix = .str suffix) {used : List Json}
    {is : List Intake} (h : Intakes c used is) :
    ∀ i ∈ is, HasLocalForm suffix i.wanted i.argument.name := by
  induction h with
  | nil => exact nofun
  | cons hstart hname _ _ _ ih =>
    rw [hsuffix] at hstart hname
    refine List.forall_mem_cons.2 ⟨⟨fun hlettered => ?_, fun hlettered => ?_⟩, ih⟩
    · exact Identifier.begins_isLower_of_localName hlettered hstart hname
    · exact Identifier.exists_lengthened_of_localName hlettered hstart hname

theorem BodyIntake.wanted {members : List Tree} {taken : List Intake}
    (h : BodyIntake members taken) {i : Intake} (hi : i ∈ taken) : i.wanted = "body" := by
  cases h with
  | none => cases hi
  | some hwanted _ _ =>
    rw [List.mem_singleton.1 hi]
    exact hwanted

/-- **A parameter that begins with a capital** stands for a required parameter that is not
lettered. -/
theorem exists_unlettered_of_begins {members parameters : List Tree} {required taken : List Intake}
    (hsuffix : c.suffix = .str suffix)
    (hintakes : Intakes c [serviceArgument.name] (required ++ taken))
    (hrequired : List.Forall₂ (IsIntake parameters) (RequestPass.requiredParameters m) required)
    (htaken : BodyIntake members taken) {a : Argument}
    (ha : a ∈ serviceArgument :: (required ++ taken).map Intake.argument)
    (hupper : Begins Char.isUpper a.name) :
    ∃ p ∈ m.parameters, p.required = true ∧ isLettered p.name = false ∧
      ∃ k, a.name = .str (lengthened suffix (suffix ++ Identifier.pascal p.name) k) := by
  rcases List.mem_cons.1 ha with rfl | ha
  · -- the service comes first, under a name of its own
    exact absurd ⟨"service", 's', rfl, rfl, rfl⟩ (Identifier.not_begins_isLower hupper)
  · obtain ⟨i, hi, rfl⟩ := List.mem_map.1 ha
    have hlocal := hintakes.hasLocalForm hsuffix i hi
    have hlettered : isLettered i.wanted = false :=
      Bool.eq_false_iff.2 fun h => Identifier.not_begins_isLower hupper (hlocal.lower h)
    rcases List.mem_append.1 hi with hi | hi
    · obtain ⟨p, hp, hintake⟩ := exists_left_of_forall₂ hrequired hi
      rw [hintake.wanted] at hlocal hlettered
      exact ⟨p, RequestPass.mem_of_mem_requiredParameters hp,
        RequestPass.required_of_mem_requiredParameters hp, hlettered, hlocal.fronted hlettered⟩
    · -- the name wanted for the body is lettered
      rw [htaken.wanted hi] at hlettered
      exact absurd hlettered (by decide)

/-! ### Methods -/

theorem hidesOnlyUnlettered_of_methodForm (hsuffix : c.suffix = .str suffix)
    (hcapital : Begins Char.isUpper (.str suffix)) {request factory : Tree}
    (h : MethodForm c location m request factory) : HidesOnlyUnlettered suffix m request := by
  obtain ⟨-, -, -, hmembers, -⟩ := h
  cases hmembers with
  | @intro parameters body required taken presets hproperties hintakes hrequired hpresets htaken =>
  refine ⟨⟨_, List.mem_append_right _ (List.mem_singleton_self _), _, rfl, rfl⟩, ?_⟩
  rintro t ht b hb hconstructor name ⟨⟨a, ha, rfl⟩, value, hassign⟩
  rcases List.mem_append.1 ht with ht | ht
  · rw [RequestPass.isConstructor_of_requestProperties hproperties ht hb] at hconstructor
    cases hconstructor
  · obtain rfl := List.mem_singleton.1 ht
    cases hb
    -- a hidden name is that of a property, so the parameter begins with a capital
    have hupper := begins_isUpper_of_assign hsuffix hcapital hproperties hrequired hpresets htaken
      hassign
    exact exists_unlettered_of_begins hsuffix hintakes hrequired htaken ha hupper

/-! ### Documents -/

/-- **Nothing hides a property but a required parameter that is not lettered**, in the constructor
of every request class that is built, if the suffix begins with a capital. -/
theorem hidesOnlyUnlettered_of_buildDocument {config : Config} {pipeline : Pipeline}
    {document : Json} {plan : Plan} {w : Workbench} (hconfig : config.HasDefaultDecorators)
    (hsuffix : config.uniqueSuffix = .str suffix) (hcapital : Begins Char.isUpper (.str suffix))
    (hpipeline : Pipeline.ofConfig config = .ok pipeline)
    (h : buildDocument config pipeline document (Workbench.start document) = .ok plan w) :
    plan.context.config = config ∧
    ∃ l : Ledger, Document.read document (Workbench.start document).ledger =
        .ok plan.context.service l ∧
      ∃ (service : Tree) (resources schemas : List Tree),
        w.model.forest = service :: (resources ++ schemas) ∧
        ResourceForms plan.context (fun _ m request _ => HidesOnlyUnlettered suffix m request)
          (plan.keptServiceResources ⟨{}, l⟩) resources := by
  obtain ⟨hcontext, l, hread, top, resources, schemas, hforest, hresources, -⟩ :=
    exists_forms_of_buildDocument hconfig hpipeline h
  have hvalue : plan.context.suffix = .str suffix := by rw [Context.suffix, hcontext, hsuffix]
  exact ⟨hcontext, l, hread, top, resources, schemas, hforest,
    ResourceForms.imp (hidesOnlyUnlettered_of_methodForm hvalue hcapital) _ hresources⟩

/-- A document with methods whose parameters are lettered, required or not, and not lettered. -/
def raceDocument : Json :=
  .object [("name", "races"),
    ("resources", .object [("races", .object [("methods", .object [
      ("list", .object [("httpMethod", "GET"), ("path", "races"), ("parameters", .object [
        ("100m", .object [("type", "string"), ("location", "query"), ("default", "yes")]),
        ("service", .object [("type", "string"), ("location", "query"),
          ("required", .bool true)]),
        ("class", .object [("type", "integer"), ("location", "query"),
          ("required", .bool true)])])]),
      ("get", .object [("httpMethod", "GET"), ("path", "races/get"), ("parameters", .object [
        ("2nd", .object [("type", "string"), ("location", "query"),
          ("required", .bool true)])])])])])])]

/-- What is hidden in the document above. -/
theorem hidesOnlyUnlettered_raceDocument :
    ({} : Config).HasDefaultDecorators ∧ ({} : Config).uniqueSuffix = .str "Value" ∧
    Begins Char.isUpper (.str "Value") ∧ Pipeline.ofConfig {} = .ok .registered ∧
    ∃ (plan : Plan) (w : Workbench),
      buildDocument {} .registered raceDocument (Workbench.start raceDocument) = .ok plan w ∧
      w.model.nodes.toList.map (fun d => d.name.text) =
        ["RacesService", "RacesResource", "Resource", "Service", "RacesResource", "ListRequest",
         "MethodName", "HttpMethod", "RestPath", "Value100M", "ServiceValue", "ClassValue",
         "ListRequest", "List", "GetRequest", "MethodName", "HttpMethod", "RestPath", "Value2Nd",
         "GetRequest", "Get", "Version", "Name", "Races", "RacesService"] ∧
      ∃ (l : Ledger) (service : Tree) (resources schemas : List Tree),
        Document.read raceDocument (Workbench.start raceDocument).ledger =
          .ok plan.context.service l ∧
        w.model.forest = service :: (resources ++ schemas) ∧
        ResourceForms plan.context (fun _ m request _ => HidesOnlyUnlettered "Value" m request)
          (plan.keptServiceResources ⟨{}, l⟩) resources := by
  have hconfig : ({} : Config).HasDefaultDecorators := ⟨rfl, rfl, rfl, rfl⟩
  have hcapital : Begins Char.isUpper (.str "Value") := ⟨"Value", 'V', rfl, rfl, rfl⟩
  have hrun : Session.passes (fun _ w => w.model.nodes.toList.map (fun d => d.name.text) ==
        ["RacesService", "RacesResource", "Resource", "Service", "RacesResource", "ListRequest",
         "MethodName", "HttpMethod", "RestPath", "Value100M", "ServiceValue", "ClassValue",
         "ListRequest", "List", "GetRequest", "MethodName", "HttpMethod", "RestPath", "Value2Nd",
         "GetRequest", "Get", "Version", "Name", "Races", "RacesService"])
      (buildDocument {} .registered raceDocument (Workbench.start raceDocument)) = true := by
    decide +kernel
  obtain ⟨plan, w, hbuild, hnames⟩ := Session.exists_of_passes hrun
  obtain ⟨-, l, hread, service, resources, schemas, hforest, hforms⟩ :=
    hidesOnlyUnlettered_of_buildDocument hconfig rfl hcapital hconfig.ofConfig hbuild
  exact ⟨hconfig, rfl, hcapital, hconfig.ofConfig, plan, w, hbuild, eq_of_beq hnames, l, service,
    resources, schemas, hread, hforest, hforms⟩

/-- A document with a required parameter whose name starts with a digit. -/
def podiumDocument : Json :=
  .object [("name", "x"), ("resources", .object [("items", .object [("methods", .object [
    ("get", .object [("httpMethod", "GET"), ("path", "items"), ("parameters", .object [
      ("1st", .object [("type", "string"), ("location", "query"),
        ("required", .bool true)])])])])])])]

/-- The request class has a property `Value1St`, and its constructor a parameter of that name, which
hides the property where it is assigned. -/
theorem exists_hides_podiumDocument :
    ∃ (plan : Plan) (w : Workbench),
      buildDocument {} .registered podiumDocument (Workbench.start podiumDocument) = .ok plan w ∧
      ∃ e ∈ w.model.forest, ∃ request ∈ e.members,
        (∃ t ∈ request.members, t.name = .str "Value1St" ∧ t.IsSettable) ∧
        ∃ t ∈ request.members, ∃ b, t.decl.body = .method b ∧ b.isConstructor = true ∧
          b.Hides (.str "Value1St") := by
  have hrun : Session.passes (fun _ w => w.model.forest.any fun e => e.members.any fun request =>
        (request.members.any fun t =>
          t.name.isText "Value1St" && t.decl.property?.any (·.hasSet)) &&
        request.members.any fun t => t.decl.method?.any fun b => b.isConstructor &&
          ((b.parameters.any (·.name.isText "Value1St")) &&
            b.statements.any (Statement.assigns "Value1St")))
      (buildDocument {} .registered podiumDocument (Workbench.start podiumDocument)) = true := by
    decide +kernel
  obtain ⟨plan, w, hbuild, hrun⟩ := Session.exists_of_passes hrun
  obtain ⟨e, he, h⟩ := List.any_eq_true.1 hrun
  obtain ⟨request, hrequest, h⟩ := List.any_eq_true.1 h
  obtain ⟨hproperty, hconstructor⟩ := (Bool.and_eq_true _ _).mp h
  refine ⟨plan, w, hbuild, e, he, request, hrequest, ?_, ?_⟩
  · obtain ⟨t, ht, h⟩ := List.any_eq_true.1 hproperty
    obtain ⟨hname, h⟩ := (Bool.and_eq_true _ _).mp h
    obtain ⟨p, hp, hset⟩ := (Option.any_eq_true _ _).1 h
    exact ⟨t, ht, Json.isText_iff.1 hname, p, Declaration.body_of_property? hp, hset⟩
  · obtain ⟨t, ht, h⟩ := List.any_eq_true.1 hconstructor
    obtain ⟨b, hb, h⟩ := (Option.any_eq_true _ _).1 h
    obtain ⟨hmakes, h⟩ := (Bool.and_eq_true _ _).mp h
    obtain ⟨hparameter, hassign⟩ := (Bool.and_eq_true _ _).mp h
    exact ⟨t, ht, b, Declaration.body_of_method? hb, hmakes,
      MethodBody.hides_of_any hparameter hassign⟩

end ClientGen
