import ClientGen.Proofs.Build.Shape

/-!
# Request classes and factories in full

The decorators of a request class know nothing of each other. The constructor finds the property
of a parameter by the wire name in its attribute and the body by its name; the factory takes the
parameters of the first constructor among the members. This module says what comes of that,
member by member and statement by statement (`ClientGen.RequestMembers`,
`ClientGen.MethodForm`), and proves it for each decorator.

The values that a constructor takes are a list of their own (`ClientGen.Intake`), from which both
its parameters and its assignments are made.
-/

namespace ClientGen

open Build Decorator ClientGen.Tree

/-! ### The form of a request class -/

/-- **A value that a constructor takes.** -/
structure Intake where
  /-- The name wanted for the parameter. -/
  wanted : String
  /-- The property that the value is assigned to. -/
  property : Tree
  /-- The parameter. -/
  argument : Argument

/-- The statement that assigns the value. -/
def Intake.assignment (i : Intake) : Statement :=
  .assign i.property.name (.snippet i.argument.name)

/-- **A value that a constructor assigns without taking it.** -/
structure Preset where
  /-- The property that the value is assigned to. -/
  property : Tree
  /-- The value. -/
  value : Json

/-- The statement that assigns the value. -/
def Preset.assignment (d : Preset) : Statement :=
  .assign d.property.name (.literal d.value)

/-- Whether the constructor assigns the default of a parameter. -/
def Parameter.isPreset (p : Parameter) : Bool :=
  !p.required && p.default?.isSome && !p.repeated

/-- The first parameter of the constructors of requests. -/
def serviceArgument : Argument :=
  ⟨"service", clientService, .absent⟩

/-- The constructor of a request class. -/
def requestConstructor (m : Method) (name : Json) (parameters : List Argument)
    (statements : List Statement) : Declaration :=
  { name, comment := .str ("Constructs a new " ++ Identifier.pascal m.name ++ " request.")
    body := .method {
      isConstructor := true, parameters, statements, baseCall := some [.snippet "service"] } }

/-- The factory of a method: it hands its parameters on to a constructor. -/
def factoryMethod (m : Method) (name request : Json) (arguments : List Argument) : Declaration :=
  { name, modifiers := [.virtual], comment := m.description
    body := .method {
      returnType := request, parameters := arguments
      statements := [.ret (.create request
        (.snippet serviceMember :: arguments.map fun a => .snippet a.name))] } }

section Forms

variable (c : Context)

/-- **Values taken one after the other** when some names are in use: each parameter has the type of
its property, and for a name the one wanted in the form of a local name, made free. -/
inductive Intakes : List Json → List Intake → Prop
  | nil {used : List Json} : Intakes used []
  | cons {used : List Json} {i : Intake} {rest : List Intake} {start : Json}
    (hstart : Identifier.localName i.wanted c.suffix Identifier.keywordValues = .ok start)
    (hname : Identifier.fresh c.suffix used start = .ok i.argument.name)
    (htype : i.property.decl.type? = some i.argument.type)
    (hdefault : i.argument.default = .absent)
    (hrest : Intakes (used ++ [i.argument.name]) rest) : Intakes used (i :: rest)

/-- The value for a required parameter goes to a property with its wire name. -/
structure IsIntake (properties : List Tree) (p : Parameter) (i : Intake) : Prop where
  wanted : i.wanted = p.name
  member : i.property ∈ properties
  wireName : RequestPass.wireName? i.property.decl = .ok (some p.name)

/-- The default of a parameter goes to a property with its wire name. -/
structure IsPreset (location : String) (properties : List Tree) (p : Parameter) (d : Preset) :
    Prop where
  member : d.property ∈ properties
  wireName : RequestPass.wireName? d.property.decl = .ok (some p.name)
  value : ∃ (s : RequestSite) (v : Json), s.context? = some c ∧ p.default? = some v ∧
    RequestPass.defaultLiteral s p v (location ++ "." ++ p.name) = .ok d.value

/-- The value for the body, if a member has that name. -/
inductive BodyIntake (members : List Tree) : List Intake → Prop
  | none (h : ∀ t ∈ members, t.name ≠ "Body") : BodyIntake members []
  | some {i : Intake} (hwanted : i.wanted = "body") (hmember : i.property ∈ members)
    (hname : i.property.name = "Body") : BodyIntake members [i]

/-- **The properties of a request class** beside those that tell its method: one for each
parameter, and the body. -/
structure RequestProperties (location : String) (m : Method) (own bodies : List Tree) : Prop where
  parameters : List.Forall₂ (IsParameter c location) m.parameters own
  spares : ∀ t ∈ own, Identifier.Spares c.suffix requestBaseMembers t.name
  body : BodyTrees c location m.request bodies

/-- **The members of a request class**, with the parameters of its constructor after the
service. -/
inductive RequestMembers (location : String) (m : Method) (name : Json) :
    List Argument → List Tree → Prop
  | intro {parameters body : List Tree} {required taken : List Intake} {presets : List Preset}
    (hproperties : RequestProperties c location m parameters body)
    (hintakes : Intakes c [serviceArgument.name] (required ++ taken))
    (hrequired : List.Forall₂ (IsIntake parameters) (RequestPass.requiredParameters m) required)
    (hpresets : List.Forall₂ (IsPreset c location parameters)
      (m.parameters.filter Parameter.isPreset) presets)
    (htaken : BodyIntake (parameters ++ body) taken) :
    RequestMembers location m name ((required ++ taken).map Intake.argument)
      (headTrees m ++ parameters ++ body ++ [leaf (requestConstructor m name
        (serviceArgument :: (required ++ taken).map Intake.argument)
        (required.map Intake.assignment ++ presets.map Preset.assignment ++
          taken.map Intake.assignment))])

/-- **The class and the factory of a method in full.** -/
inductive MethodForm (location : String) (m : Method) : Tree → Tree → Prop
  | intro {name response comment factory : Json} {text : String} {arguments : List Argument}
    {members : List Tree}
    (hname : IsMadeSafe c (Identifier.pascal m.name ++ "Request") name)
    (hresponse : IsResponse c location m.response response)
    (htext : response.written = .ok text)
    (hmembers : RequestMembers c location m name arguments members)
    (hfactory : IsMadeSafe c (Identifier.pascal m.name) factory) :
    MethodForm location m
      (.node (Declaration.ofClass name
        [.str (c.config.requestBaseClass.text ++ "<" ++ text ++ ">")] comment) members)
      (leaf (factoryMethod m factory name arguments))

end Forms

variable {c : Context} {front : List Declaration} {f : List Tree} {o : Int}

/-! ### Values taken by a constructor -/

namespace Intakes

theorem append {used : List Json} {is js : List Intake} (his : Intakes c used is)
    (hjs : Intakes c (used ++ is.map fun i => i.argument.name) js) :
    Intakes c used (is ++ js) := by
  induction his with
  | nil => simpa using hjs
  | cons hstart hname htype hdefault _ ih =>
    exact .cons hstart hname htype hdefault (ih (by simpa using hjs))

theorem default {used : List Json} {is : List Intake} (h : Intakes c used is) :
    ∀ a ∈ is.map Intake.argument, a.default = .absent := by
  induction h with
  | nil => exact nofun
  | cons _ _ _ hdefault _ ih => exact List.forall_mem_cons.2 ⟨hdefault, ih⟩

theorem type {used : List Json} {is : List Intake} (h : Intakes c used is) :
    ∀ i ∈ is, i.property.decl.type? = some i.argument.type := by
  induction h with
  | nil => exact nofun
  | cons _ _ htype _ _ ih => exact List.forall_mem_cons.2 ⟨htype, ih⟩

end Intakes

namespace RequestPass

variable {r : Resource} {m : Method} {q : Int} {location : String}

/-- A constructor in the making after it took some values. -/
def Signature.taking (g : Signature) (is : List Intake) : Signature where
  parameters := g.parameters ++ is.map Intake.argument
  statements := g.statements ++ is.map Intake.assignment
  locals := g.locals ++ is.map fun i => i.argument.name

theorem Signature.taking_taking (g : Signature) (is js : List Intake) :
    (g.taking is).taking js = g.taking (is ++ js) := by
  simp [taking]

theorem required_eq_ok {α : Type} {a? : Option α} {a : α} (h : Outcome.required a? = .ok a) :
    a? = some a := by
  cases a? <;> cases h
  rfl

/-- Taking a value for a property. -/
theorem Signature.exists_of_take {g g' : Signature} {wanted : String} {t : Tree}
    {type? : Option Json} (htype : type? = t.decl.type?)
    (h : g.take wanted c.suffix (Outcome.required type?) t.name = .ok g') :
    ∃ i : Intake, i.wanted = wanted ∧ i.property = t ∧ Intakes c g.locals [i] ∧
      g' = g.taking [i] := by
  obtain ⟨start, hstart, h⟩ := Outcome.bind_eq_ok.1 h
  obtain ⟨name, hname, h⟩ := Outcome.bind_eq_ok.1 h
  obtain ⟨type, hrequired, h⟩ := Outcome.bind_eq_ok.1 h
  cases h
  rw [htype] at hrequired
  exact ⟨⟨wanted, t, ⟨name, type, .absent⟩⟩, rfl, rfl,
    .cons hstart hname (required_eq_ok hrequired) rfl .nil, rfl⟩

/-! ### Properties by wire name -/

/-- Declarations as a model shows them stand for trees. -/
abbrev Show (ds : List Declaration) (f : List Tree) : Prop :=
  List.Forall₂ (fun (e : Declaration) (t : Tree) => e.detached = t.decl) ds f

@[simp] theorem wireName?_detached (d : Declaration) : wireName? d.detached = wireName? d := by
  obtain ⟨name, access, modifiers, attributes, comment, parent, body⟩ := d
  cases body <;> rfl

/-- A property that is found by a wire name has that wire name. -/
theorem exists_of_lookup {ds : List Declaration} (hds : Show ds f)
    {properties : List (String × Declaration)} (h : wireProperties ds = .ok properties)
    {name : String} {d : Declaration} (hd : properties.lookup name = some d) :
    ∃ t ∈ f, d.detached = t.decl ∧ wireName? t.decl = .ok (some name) := by
  induction hds generalizing properties with
  | nil =>
    cases h
    cases hd
  | @cons e t ds f hdecl _ ih =>
    obtain ⟨own, hown, h⟩ := Outcome.bind_eq_ok.1 h
    obtain ⟨later, hlater, h⟩ := Outcome.bind_eq_ok.1 h
    cases h
    rw [List.lookup_append, Option.or_eq_some_iff] at hd
    rcases hd with hd | ⟨-, hd⟩
    · obtain ⟨u, hu, hfound⟩ := ih hlater hd
      exact ⟨u, List.mem_cons_of_mem t hu, hfound⟩
    · cases own with
      | none => cases hd
      | some wire =>
        by_cases hwire : name = wire
        · obtain rfl : e = d := by simpa [hwire] using hd
          refine ⟨t, List.mem_cons_self, hdecl, ?_⟩
          rw [← hdecl, wireName?_detached, hown, hwire]
        · have hmiss : (name == wire) = false := beq_eq_false_iff_ne.2 hwire
          simp [List.lookup_cons, hmiss] at hd

/-- A property with a wire name is found by it, or one that comes after it. -/
theorem exists_lookup {ds : List Declaration} (hds : Show ds f)
    {properties : List (String × Declaration)} (h : wireProperties ds = .ok properties)
    {t : Tree} (ht : t ∈ f) {name : String} (hname : wireName? t.decl = .ok (some name)) :
    ∃ d, properties.lookup name = some d := by
  induction hds generalizing properties with
  | nil => cases ht
  | @cons e u ds f hdecl _ ih =>
    obtain ⟨own, hown, h⟩ := Outcome.bind_eq_ok.1 h
    obtain ⟨later, hlater, h⟩ := Outcome.bind_eq_ok.1 h
    cases h
    rw [List.lookup_append]
    rcases List.mem_cons.1 ht with rfl | ht
    · rw [← hdecl, wireName?_detached, hown] at hname
      cases hname
      cases hfirst : later.lookup name with
      | none => exact ⟨e, by simp⟩
      | some d => exact ⟨d, rfl⟩
    · obtain ⟨d, hd⟩ := ih hlater ht
      exact ⟨d, by rw [hd]; rfl⟩

/-! ### What the constructor takes and assigns -/

/-- The properties by wire name are those of a forest, and all of some parameters have one. -/
structure Finds (properties : List (String × Declaration)) (f : List Tree) (ps : List Parameter) :
    Prop where
  sound : ∀ {name : String} {d : Declaration}, properties.lookup name = some d →
    ∃ t ∈ f, d.detached = t.decl ∧ wireName? t.decl = .ok (some name)
  complete : ∀ p ∈ ps, ∃ d, properties.lookup p.name = some d

theorem Finds.tail {properties : List (String × Declaration)} {p : Parameter}
    {rest : List Parameter} (h : Finds properties f (p :: rest)) : Finds properties f rest :=
  ⟨h.sound, fun p' hp' => h.complete p' (List.mem_cons_of_mem p hp')⟩

theorem exists_of_takeRequired {s : RequestSite} (hs : s.context? = some c)
    {properties : List (String × Declaration)} {ps : List Parameter} (hp : Finds properties f ps)
    {g g' : Signature} (h : takeRequired s properties ps g = .ok g') :
    ∃ is, List.Forall₂ (IsIntake f) ps is ∧ Intakes c g.locals is ∧ g' = g.taking is := by
  induction ps generalizing g with
  | nil =>
    cases h
    exact ⟨[], .nil, .nil, by simp [Signature.taking]⟩
  | cons p rest ih =>
    obtain ⟨d, hd⟩ := hp.complete p List.mem_cons_self
    obtain ⟨t, ht, hdecl, hwire⟩ := hp.sound hd
    simp only [takeRequired, hd] at h
    obtain ⟨c', hc, h⟩ := Outcome.bind_eq_ok.1 h
    obtain ⟨g₁, hg₁, h⟩ := Outcome.bind_eq_ok.1 h
    rw [RequestSite.context, hs] at hc
    cases hc
    have hname : d.name = t.name := by rw [Tree.name, ← hdecl, Declaration.detached_name]
    rw [hname] at hg₁
    obtain ⟨i, hwanted, rfl, hi, rfl⟩ :=
      Signature.exists_of_take (by rw [← hdecl, Declaration.detached_type?]) hg₁
    obtain ⟨is, hall, his, rfl⟩ := ih hp.tail h
    exact ⟨i :: is, .cons ⟨hwanted, ht, hwire⟩ hall, hi.append his, g.taking_taking [i] is⟩

/-- A constructor in the making after it assigned some values. -/
def Signature.presetting (g : Signature) (ds : List Preset) : Signature :=
  { g with statements := g.statements ++ ds.map Preset.assignment }

theorem looks_assignDefaults {s : RequestSite} (hs : s.context? = some c) {model : CodeModel}
    {properties : List (String × Declaration)} {ps : List Parameter} (hp : Finds properties f ps)
    {g : Signature} :
    Looks model (assignDefaults s location properties ps g) fun g' => ∃ ds,
      List.Forall₂ (IsPreset c location f) (ps.filter Parameter.isPreset) ds ∧
        g' = g.presetting ds := by
  induction ps generalizing g with
  | nil => exact .pure ⟨[], .nil, by simp [Signature.presetting]⟩
  | cons p rest ih =>
    obtain ⟨d, hd⟩ := hp.complete p List.mem_cons_self
    obtain ⟨t, ht, hdecl, hwire⟩ := hp.sound hd
    simp only [assignDefaults, hd]
    split
    · rename_i d' value hd' hrequired hdefault
      cases hd'
      split
      · rename_i hrepeated
        have hskip : p.isPreset = false := by simp [Parameter.isPreset, hrepeated]
        rw [List.filter_cons_of_neg (by simp [hskip])]
        exact .bind (.write _ _) fun _ _ => ih hp.tail
      · rename_i hrepeated
        have hkeep : p.isPreset = true := by
          simp [Parameter.isPreset, hrepeated, hrequired, hdefault]
        rw [List.filter_cons_of_pos hkeep]
        refine .bind (.lift fun literal => id) fun literal hliteral => ?_
        have hname : d.name = t.name := by rw [Tree.name, ← hdecl, Declaration.detached_name]
        refine Looks.imp (ih hp.tail) ?_
        rintro _ ⟨ds, hds, rfl⟩
        refine ⟨⟨t, literal⟩ :: ds, .cons ⟨ht, hwire, s, value, hs, hdefault, hliteral⟩ hds, ?_⟩
        simp [Signature.presetting, Preset.assignment, hname]
    · rename_i hother
      have hskip : p.isPreset = false := by
        rw [Parameter.isPreset, Bool.and_eq_false_iff, Bool.and_eq_false_iff]
        cases hrequired : p.required with
        | true => exact .inl (.inl rfl)
        | false =>
          cases hdefault : p.default? with
          | none => exact .inl (.inr rfl)
          | some value => exact (hother d value rfl hrequired hdefault).elim
      rw [List.filter_cons_of_neg (by simp [hskip])]
      exact ih hp.tail

theorem looks_takeBody {w : Workbench} {p : Nat} {d : Declaration} {s : RequestSite}
    (hw : w.Grown front (some (p : Int)) f) (hp : front.length = p + 1)
    (hd : front[p]? = some d) (hrequest : s.request = p) (hs : s.context? = some c)
    {g : Signature} :
    Looks w.model (takeBody s g) fun g' => ∃ is, BodyIntake f is ∧ Intakes c g.locals is ∧
      g' = g.taking is := by
  refine .bind (P := fun found => (found = none ∧ ∀ t ∈ f, t.name ≠ "Body") ∨
    ∃ i e t, found = some i ∧ w.model.atPlace i = .ok e ∧ t ∈ f ∧ e.detached = t.decl ∧
      t.name = "Body") (.look fun found h => hw.findMember? (hw.hasEmpty hp hd) (hrequest ▸ h))
    fun found hfound => ?_
  rcases hfound with ⟨rfl, hfree⟩ | ⟨i, e, t, rfl, he, ht, hdecl, hname⟩
  · exact .pure ⟨[], .none hfree, .nil, by simp [Signature.taking]⟩
  · refine .bind (P := fun c' => c' = c) (.lift fun c' hc => ?_) ?_
    · rw [RequestSite.context, hs] at hc
      exact (Except.ok.inj hc).symm
    · rintro _ rfl
      refine .bind (P := fun body => w.model.atPlace i = .ok body) (.look fun _ => id)
        fun body hbody => ?_
      obtain rfl := Except.ok.inj (he.symm.trans hbody)
      refine .lift fun g' hg' => ?_
      rw [← hname] at hg'
      obtain ⟨intake, hwanted, rfl, hintake, rfl⟩ :=
        Signature.exists_of_take (by rw [← hdecl, Declaration.detached_type?]) hg'
      exact ⟨[intake], .some hwanted ht hname, hintake, rfl⟩

/-! ### The decorators -/

theorem model_of_addDocumentation {s : RequestSite} {v v' : Workbench}
    (h : addDocumentation s v = .ok () v') :
    v'.model = v.model ∨
      ∃ comment, CodeModel.setComment s.request comment v.model = .ok () v'.model := by
  obtain ⟨d, _, hd, h⟩ := Session.bind_eq_ok.1 h
  obtain ⟨-, rfl⟩ := Build.look_eq_ok.1 hd
  obtain ⟨method, _, hmethod, h⟩ := Session.bind_eq_ok.1 h
  obtain ⟨-, rfl⟩ := Session.lift_eq_ok.1 hmethod
  split at h
  · obtain ⟨model, hmodel, rfl⟩ := Build.onModel_eq_ok.1 h
    exact .inr ⟨_, hmodel⟩
  · cases h
    exact .inl rfl

theorem adds_addFields :
    Adds front (some q) f (addFields ⟨r, some m, q, o, some c⟩) fun _ g => g = headTrees m := by
  refine .lift fun method hmethod => ?_
  cases hmethod
  refine .bind (.member rfl) ?_
  rintro _ _ rfl
  refine .bind (.member rfl) ?_
  rintro _ _ rfl
  refine (Adds.member rfl).imp ?_
  rintro _ _ rfl
  rfl

theorem adds_addParameters (ps : List Parameter) :
    Adds front (some q) f (addParameters ⟨r, some m, q, o, some c⟩ m ps) fun _ g =>
      List.Forall₂ (IsParameter c (r.locationOf m)) ps g ∧
        ∀ t ∈ g, Identifier.Spares c.suffix requestBaseMembers t.name := by
  induction ps generalizing f with
  | nil => exact .pure ⟨.nil, nofun⟩
  | cons p rest ih =>
    refine .lift fun c' hc => ?_
    cases hc
    refine .safeNameAmong fun name reserved hreserved hname => ?_
    refine .lift fun type htype => ?_
    refine .bind (.member rfl) ?_
    rintro _ _ rfl
    refine ih.imp fun _ g hg => ⟨.cons ⟨name, type, ⟨reserved, hname⟩, htype, rfl⟩ hg.1, ?_⟩
    exact List.forall_mem_cons.2 ⟨(Identifier.spares_safeWith hname).mono hreserved, hg.2⟩

theorem adds_addBody :
    Adds front (some q) f (addBody ⟨r, some m, q, o, some c⟩) fun _ g =>
      BodyTrees c (r.locationOf m) m.request g := by
  refine .lift fun method hmethod => ?_
  cases hmethod
  split
  · rename_i hrequest
    rw [hrequest]
    exact .pure .none
  · rename_i schema hrequest
    rw [hrequest]
    refine .lift fun c' hc => ?_
    cases hc
    refine .lift fun type htype => ?_
    refine .bind (.member rfl) ?_
    rintro _ _ rfl
    refine (Adds.member rfl).imp ?_
    rintro _ _ rfl
    exact .some htype

theorem wireName?_of_isParameter {p : Parameter} {t : Tree} (h : IsParameter c location p t) :
    wireName? t.decl = .ok (some p.name) := by
  obtain ⟨name, type, -, -, rfl⟩ := h
  rfl

theorem wireName?_of_mem_headTrees {t : Tree} (h : t ∈ headTrees m) :
    wireName? t.decl = .ok none := by
  simp only [headTrees, List.mem_cons, List.not_mem_nil, or_false] at h
  rcases h with rfl | rfl | rfl
  · rfl
  · rfl
  · rfl

theorem wireName?_of_mem_bodyTrees {request : Option String} {body : List Tree}
    (hbody : BodyTrees c location request body) {t : Tree} (h : t ∈ body) :
    wireName? t.decl = .ok none := by
  cases hbody with
  | none => cases h
  | some htype =>
    simp only [List.mem_cons, List.not_mem_nil, or_false] at h
    rcases h with rfl | rfl
    · rfl
    · rfl

theorem name_ne_body_of_mem_headTrees {t : Tree} (h : t ∈ headTrees m) : t.name ≠ "Body" := by
  simp only [headTrees, List.mem_cons, List.not_mem_nil, or_false] at h
  rcases h with rfl | rfl | rfl
  · exact fun h => absurd (Json.str.inj h) (by decide)
  · exact fun h => absurd (Json.str.inj h) (by decide)
  · exact fun h => absurd (Json.str.inj h) (by decide)

section Properties

variable {parameters body : List Tree} (h : RequestProperties c location m parameters body)

include h

/-- Only the properties of parameters have wire names. -/
theorem mem_of_wireName? {t : Tree} (ht : t ∈ headTrees m ++ parameters ++ body) {name : String}
    (hname : wireName? t.decl = .ok (some name)) : t ∈ parameters := by
  rw [List.append_assoc, List.mem_append, List.mem_append] at ht
  rcases ht with ht | ht | ht
  · rw [wireName?_of_mem_headTrees ht] at hname
    cases hname
  · exact ht
  · rw [wireName?_of_mem_bodyTrees h.body ht] at hname
    cases hname

theorem finds_wireProperties {ds : List Declaration}
    (hds : Show ds (headTrees m ++ parameters ++ body))
    {properties : List (String × Declaration)} (hp : wireProperties ds = .ok properties)
    {ps : List Parameter} (hps : ∀ p ∈ ps, p ∈ m.parameters) :
    Finds properties parameters ps where
  sound hd := by
    obtain ⟨t, ht, hdecl, hname⟩ := exists_of_lookup hds hp hd
    exact ⟨t, mem_of_wireName? h ht hname, hdecl, hname⟩
  complete p hmem := by
    obtain ⟨t, ht, hparameter⟩ := exists_right_of_forall₂ h.parameters (hps p hmem)
    have hmember : t ∈ headTrees m ++ parameters ++ body :=
      List.mem_append_left _ (List.mem_append_right _ ht)
    exact exists_lookup hds hp hmember (wireName?_of_isParameter hparameter)

end Properties

theorem mem_of_mem_requiredParameters {p : Parameter} (h : p ∈ requiredParameters m) :
    p ∈ m.parameters := by
  rw [requiredParameters, List.mem_append] at h
  rcases h with h | h
  · obtain ⟨name, -, hname⟩ := List.mem_filterMap.1 h
    exact List.mem_of_find?_eq_some (Option.filter_eq_some_iff.1 hname).1
  · exact (List.mem_filter.1 h).1

theorem required_of_mem_requiredParameters {p : Parameter} (h : p ∈ requiredParameters m) :
    p.required = true := by
  rw [requiredParameters, List.mem_append] at h
  rcases h with h | h
  · obtain ⟨name, -, hname⟩ := List.mem_filterMap.1 h
    exact (Option.filter_eq_some_iff.1 hname).2
  · exact (Bool.and_eq_true_iff.1 (List.mem_filter.1 h).2).1

theorem adds_addConstructor {p : Nat} {d : Declaration} (hp : front.length = p + 1)
    (hd : front[p]? = some d) {parameters body : List Tree}
    (h : RequestProperties c (r.locationOf m) m parameters body) :
    Adds front (some (p : Int)) (headTrees m ++ parameters ++ body)
      (addConstructor ⟨r, some m, p, o, some c⟩) fun _ g => ∃ arguments,
        RequestMembers c (r.locationOf m) m d.name arguments
          (headTrees m ++ parameters ++ body ++ g) := by
  refine .after (P := fun own => own.1.name = d.name)
    (fun w hw => .look fun own hown => (hw.getClass (hw.hasEmpty hp hd) hown).1) fun own hown => ?_
  refine .lift fun method hmethod => ?_
  cases hmethod
  refine .after (P := fun ds => Show ds (headTrees m ++ parameters ++ body))
    (fun w hw => .look fun ds hds => hw.members (hw.hasEmpty hp hd) hds) fun ds hds => ?_
  refine .lift fun properties hproperties => ?_
  refine .lift fun g hg => ?_
  obtain ⟨required, hrequired, hintakes, rfl⟩ := exists_of_takeRequired rfl
    (finds_wireProperties h hds hproperties fun _ => mem_of_mem_requiredParameters) hg
  refine .after (fun _ _ => looks_assignDefaults rfl
    (finds_wireProperties h hds hproperties fun _ => id)) fun g hg => ?_
  obtain ⟨presets, hpresets, rfl⟩ := hg
  refine .after (fun w hw => looks_takeBody hw hp hd rfl rfl) fun g hg => ?_
  obtain ⟨taken, htaken, hbody, rfl⟩ := hg
  refine (Adds.member rfl).imp ?_
  rintro _ _ rfl
  have htaken : BodyIntake (parameters ++ body) taken := by
    cases htaken with
    | none hfree => exact .none fun t ht => hfree t (by simpa using .inr (List.mem_append.1 ht))
    | some hwanted hmember hname =>
      refine .some hwanted ?_ hname
      rw [List.append_assoc, List.mem_append] at hmember
      exact hmember.resolve_left fun ht => name_ne_body_of_mem_headTrees ht hname
  have hmembers : RequestMembers c (r.locationOf m) m d.name _ _ :=
    .intro h (hintakes.append hbody) hrequired hpresets htaken
  refine ⟨(required ++ taken).map Intake.argument, ?_⟩
  rw [hown]
  simpa [requestConstructor, Signature.taking, Signature.presetting, serviceArgument] using hmembers

/-- Fill the class of a request. -/
def fill (s : RequestSite) : Build Unit := do
  addFields s
  let method ← s.method
  addParameters s method method.parameters
  addBody s
  addConstructor s

theorem adds_fill {p : Nat} {d : Declaration} (hp : front.length = p + 1)
    (hd : front[p]? = some d) :
    Adds front (some (p : Int)) [] (fill ⟨r, some m, p, o, some c⟩) fun _ g => ∃ arguments,
      RequestMembers c (r.locationOf m) m d.name arguments g := by
  refine .bind adds_addFields ?_
  rintro _ _ rfl
  refine .lift fun method hmethod => ?_
  cases hmethod
  refine .bind (adds_addParameters m.parameters) fun _ parameters hparameters => ?_
  refine .bind adds_addBody fun _ body hbody => ?_
  refine (adds_addConstructor hp hd ⟨hparameters.1, hparameters.2, hbody⟩).imp ?_
  rintro _ g ⟨arguments, hmembers⟩
  exact ⟨arguments, by simpa using hmembers⟩

/-! ### The factory -/

theorem constructorArguments?_of_show {ds : List Declaration} (h : Show ds f) :
    constructorArguments? ds = constructorArguments? (f.map Tree.decl) := by
  induction h with
  | nil => rfl
  | @cons e t ds f hdecl _ ih =>
    have hfirst : constructorArguments? (e :: ds) = constructorArguments? (t.decl :: ds) := by
      rw [← hdecl]
      obtain ⟨name, access, modifiers, attributes, comment, parent, body⟩ := e
      cases body <;> rfl
    rw [hfirst, List.map_cons]
    simp only [constructorArguments?, List.findSome?_cons] at ih ⊢
    rw [ih]

theorem isConstructor_of_mem_bodyTrees {request : Option String} {body : List Tree}
    (hbody : BodyTrees c location request body) {t : Tree} (h : t ∈ body) {b : MethodBody}
    (hb : t.decl.body = .method b) : b.isConstructor = false := by
  cases hbody with
  | none => cases h
  | some htype =>
    simp only [List.mem_cons, List.not_mem_nil, or_false] at h
    rcases h with rfl | rfl
    · cases hb
    · cases hb
      rfl

/-- Only the last member of a request class is a constructor. -/
theorem isConstructor_of_requestProperties {parameters body : List Tree}
    (h : RequestProperties c location m parameters body) {t : Tree}
    (ht : t ∈ headTrees m ++ parameters ++ body) {b : MethodBody}
    (hb : t.decl.body = .method b) : b.isConstructor = false := by
  rw [List.append_assoc, List.mem_append, List.mem_append] at ht
  rcases ht with ht | ht | ht
  · simp only [headTrees, List.mem_cons, List.not_mem_nil, or_false] at ht
    rcases ht with rfl | rfl | rfl <;> cases hb
  · obtain ⟨p, -, name, type, -, -, rfl⟩ := exists_left_of_forall₂ h.parameters ht
    cases hb
  · exact isConstructor_of_mem_bodyTrees h.body ht hb

/-- The constructor is the first among the members of a request class. -/
theorem constructorArguments?_of_requestMembers {name : Json} {arguments : List Argument}
    (h : RequestMembers c location m name arguments f) :
    constructorArguments? (f.map Tree.decl) = some arguments := by
  obtain ⟨hproperties, -, -, -, -⟩ := h
  rename_i parameters body required taken presets
  have hnone :
      constructorArguments? ((headTrees m ++ parameters ++ body).map Tree.decl) = none := by
    rw [constructorArguments?, List.findSome?_eq_none_iff]
    intro d hd
    obtain ⟨t, ht, rfl⟩ := List.mem_map.1 hd
    split
    · rename_i b hb
      rw [if_neg]
      simp [isConstructor_of_requestProperties hproperties ht hb]
    · rfl
  rw [constructorArguments?] at hnone ⊢
  rw [List.map_append, List.findSome?_append, hnone]
  rfl

theorem default_of_requestMembers {name : Json} {arguments : List Argument}
    (h : RequestMembers c location m name arguments f) : ∀ a ∈ arguments, a.default = .absent := by
  obtain ⟨-, hintakes, -, -, -⟩ := h
  exact hintakes.default

theorem adds_addFactory {d : Declaration} {ms : List Tree} {arguments : List Argument}
    (h : RequestMembers c (r.locationOf m) m d.name arguments ms) :
    Adds front (some o) (f ++ [.node d ms])
      (addFactory ⟨r, some m, ((front.length + size f : Nat) : Int), o, some c⟩) fun _ g =>
        ∃ name, g = [leaf (factoryMethod m name d.name arguments)] ∧
          IsMadeSafe c (Identifier.pascal m.name) name := by
  have hlength : (front ++ layout (some o) front.length f ++ [d.under (some o)]).length =
      front.length + size f + 1 := by simp [Nat.add_assoc]
  have hget :
      (front ++ layout (some o) front.length f ++ [d.under (some o)])[front.length + size f]?
        = some (d.under (some o)) := by simp
  refine .after (P := fun own => own.1.name = d.name)
    (fun w hw => .look fun own h => (hw.inside.getClass (hw.inside.hasEmpty hlength hget) h).1)
    fun own hown => ?_
  refine .after (P := fun ds => Show ds ms)
    (fun w hw => .look fun ds h => hw.inside.members (hw.inside.hasEmpty hlength hget) h)
    fun ds hds => ?_
  have harguments : constructorArguments? ds = some arguments := by
    rw [constructorArguments?_of_show hds, constructorArguments?_of_requestMembers h]
  have hplain : arguments.map (fun a => Argument.mk a.name a.type .absent) = arguments := by
    refine (List.map_congr_left fun a ha => ?_).trans (List.map_id _)
    rw [← default_of_requestMembers h a ha, id]
  refine .lift fun method hmethod => ?_
  cases hmethod
  refine .lift fun c' hc => ?_
  cases hc
  refine .safeName fun name reserved hname => ?_
  refine .bind (.member rfl) ?_
  rintro _ _ rfl
  refine .after (P := fun _ => True) (fun _ _ => .look (by simp)) fun owner _ => ?_
  refine .lift fun _ _ => ?_
  refine .lift fun _ _ => ?_
  refine (Adds.looks fun _ _ => .write _ _).imp ?_
  rintro _ _ ⟨rfl, -⟩
  refine ⟨name, ?_, reserved, hname⟩
  rw [harguments, hown]
  simp [factoryMethod, hplain]

/-- The decorators of a request class, in the order of the registry: all but the last work
inside the class. -/
theorem forM_registered (s : RequestSite) :
    (Pipeline.registered.request.forM fun pass => pass.run s) = (do
      addDocumentation s
      fill s
      addFactory s) := by
  simp [Pipeline.registered, registry, run, fill]

end RequestPass

/-! ### Methods -/

theorem Plan.adds_buildMethod {plan : Plan} (hplan : plan.pipeline = .registered) (r : Resource)
    (m : Method) :
    Adds front (some o) f (plan.buildMethod r o m) fun _ g => ∃ request factory,
      g = [request, factory] ∧ MethodForm plan.context (r.locationOf m) m request factory := by
  have hrequest {response : Json}
      (hresponse : IsResponse plan.context (r.locationOf m) m.response response) :
      Adds front (some o) f (do
        let name ← safeName o (Identifier.pascal m.name ++ "Request") plan.context.suffix []
        let text ← response.written
        let request ← addClass (some o) (Declaration.ofClass name
          [.str (plan.context.config.requestBaseClass.text ++ "<" ++ text ++ ">")] .null)
        plan.pipeline.request.forM fun pass =>
          pass.run ⟨r, some m, request, o, some plan.context⟩)
        fun _ g => ∃ request factory, g = [request, factory] ∧
          MethodForm plan.context (r.locationOf m) m request factory := by
    refine .safeName fun name reserved hname => ?_
    refine .lift fun text htext => ?_
    -- the factory is the only decorator that works outside of the class
    have hsteps : (addClass (some o) (Declaration.ofClass name
          [.str (plan.context.config.requestBaseClass.text ++ "<" ++ text ++ ">")] .null) >>=
        fun q => plan.pipeline.request.forM fun pass =>
          pass.run ⟨r, some m, q, o, some plan.context⟩) =
        ((addClass (some o) (Declaration.ofClass name
          [.str (plan.context.config.requestBaseClass.text ++ "<" ++ text ++ ">")] .null) >>=
        fun q => RequestPass.addDocumentation ⟨r, some m, q, o, some plan.context⟩ >>= fun _ => do
          RequestPass.fill ⟨r, some m, q, o, some plan.context⟩
          pure q) >>= fun q => RequestPass.addFactory ⟨r, some m, q, o, some plan.context⟩) := by
      rw [hplan]
      simp [RequestPass.forM_registered]
    rw [hsteps]
    refine .bind (.inside_described (Q := fun q ms => q = ((front.length + size f : Nat) : Int) ∧
      ∃ arguments, RequestMembers plan.context (r.locationOf m) m name arguments ms) rfl
      (fun _ _ _ => RequestPass.model_of_addDocumentation) ?_) ?_
    · intro p hp front' comment hlength hget
      refine .bind (RequestPass.adds_fill hlength hget) fun _ g hg => .pure ⟨by rw [hp], ?_⟩
      rwa [List.append_nil]
    · rintro q _ ⟨comment, ms, rfl, rfl, arguments, hmembers⟩
      refine (RequestPass.adds_addFactory hmembers).imp ?_
      rintro _ _ ⟨factory, rfl, hfactory⟩
      exact ⟨_, _, rfl, .intro ⟨reserved, hname⟩ hresponse htext hmembers hfactory⟩
  rw [buildMethod]
  dsimp only
  split
  · rename_i schema hschema
    refine .lift fun response htype => hrequest ?_
    rw [hschema]
    exact .some htype
  · rename_i hnone
    refine hrequest ?_
    rw [hnone]
    exact .none

/-- A value that a constructor takes is assigned to its property, which has the type of it. -/
theorem isAssigned_of_mem {required taken : List Intake} {presets : List Preset}
    {used : List Json} (h : Intakes c used (required ++ taken)) {i : Intake}
    (hi : i ∈ required ++ taken) : IsAssigned
      (required.map Intake.assignment ++ presets.map Preset.assignment ++
        taken.map Intake.assignment) i.argument i.property := by
  refine ⟨h.type i hi, ?_⟩
  rcases List.mem_append.1 hi with hi | hi
  · exact List.mem_append_left _ (List.mem_append_left _ (List.mem_map.2 ⟨i, hi, rfl⟩))
  · exact List.mem_append_right _ (List.mem_map.2 ⟨i, hi, rfl⟩)

/-- What a constructor takes is assigned to the properties of parameters and to the body. -/
theorem isRequestConstructor_of_intakes {m : Method} {name : Json} {members : List Tree}
    {required taken : List Intake} {presets : List Preset} {used : List Json}
    (hintakes : Intakes c used (required ++ taken))
    (hmembers : ∀ i ∈ required ++ taken, i.property ∈ members) :
    IsRequestConstructor members (requestConstructor m name
      (serviceArgument :: (required ++ taken).map Intake.argument)
      (required.map Intake.assignment ++ presets.map Preset.assignment ++
        taken.map Intake.assignment)) := by
  refine ⟨_, rfl, rfl, fun a ha => ?_⟩
  obtain ⟨i, hi, rfl⟩ := List.mem_map.1 ha
  exact ⟨i.property, hmembers i hi, isAssigned_of_mem hintakes hi⟩

theorem BodyIntake.mem {members : List Tree} {taken : List Intake} (h : BodyIntake members taken)
    {i : Intake} (hi : i ∈ taken) : i.property ∈ members ∧ i.property.name = "Body" := by
  cases h with
  | none => cases hi
  | some _ hmember hname =>
    rw [List.mem_singleton.1 hi]
    exact ⟨hmember, hname⟩

theorem MethodForm.methodTrees {r : Resource} {m : Method} {request factory : Tree}
    (h : MethodForm c (r.locationOf m) m request factory) :
    MethodTrees c r m [request, factory] := by
  obtain ⟨hname, hresponse, htext, hmembers, hfactory⟩ := h
  cases hmembers with
  | @intro parameters body required taken presets hproperties hintakes hrequired hpresets htaken =>
  have hmembers : ∀ i ∈ required ++ taken, i.property ∈ parameters ++ body := by
    intro i hi
    rcases List.mem_append.1 hi with hi | hi
    · obtain ⟨p, -, hp⟩ := exists_left_of_forall₂ hrequired hi
      exact List.mem_append_left _ hp.member
    · exact (htaken.mem hi).1
  refine .intro (.intro hname hresponse htext hproperties.parameters hproperties.body
    (isRequestConstructor_of_intakes hintakes hmembers)) ?_
  refine ⟨_, rfl, rfl, rfl, hfactory, fun a ha => ?_⟩
  exact ⟨_, List.mem_append_right _ (List.mem_singleton_self _), _, rfl, rfl, a, ha, rfl, rfl⟩

end ClientGen
