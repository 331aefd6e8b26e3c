import ClientGen.Proofs.Build.Attempts
import ClientGen.Proofs.Build.Constructors
import ClientGen.Proofs.CSharp.Values

/-!
# Defaults of parameters

A document writes the default of a parameter as a text. The constructor of a request reads it for
the type of the property, and assigns the literal to the property; a text that cannot be read for
the type is refused.

The main result has two sides (`ClientGen.settles_of_buildDocument`). In the request classes that
are built all defaults are literals of the kinds of their properties (`ClientGen.AssignsDefaults`):
a type lacks its literal only if that is a number out of range. And every method whose request
class has its properties is settled by its defaults (`ClientGen.SettlesDefaults`): if all of them
can be read the constructor is added, and otherwise the method is skipped with an issue at the
first parameter whose default is refused.

Reading does not look at the range of a type. So `3000000000` becomes the default of a property
that has only the integers of 32 bits (`ClientGen.exists_overflow_pageDocument`).
-/

namespace ClientGen

open Build Decorator ClientGen.Tree Document

/-! ### Defaults that are read -/

/-- **A default that a constructor has to read**: a text, for a parameter of a primitive type that
is optional and not repeated. -/
structure Parameter.Presets (p : Parameter) (text : String) : Prop where
  optional : p.required = false
  single : p.repeated = false
  primitive : ∃ name format values, p.type = .primitive name format values
  default : p.default? = some (.str text)

/-- **Why the default of a parameter is refused**, if it is: it is a text that becomes no literal
of the kind that the type of the parameter accepts. -/
def Parameter.refusal? (p : Parameter) : Option Cause :=
  match p.isPreset, p.type, p.default? with
  | true, .primitive name format _, some (.str text) =>
    match TypeName.ofPrimitive name format with
    | .ok type =>
      if (TypeName.literalOf? type text).isSome then none
      else some (.invalidDefault text (TypeName.kindOf type))
    | .error _ => none
  | _, _, _ => none

/-- The first of some parameters whose default is refused, and why. -/
def firstRefused? (ps : List Parameter) : Option (Parameter × Cause) :=
  ps.findSome? fun p => p.refusal?.map (p, ·)

theorem firstRefused?_cons_of_some {p : Parameter} {cause : Cause} (h : p.refusal? = some cause)
    (rest : List Parameter) : firstRefused? (p :: rest) = some (p, cause) := by
  rw [firstRefused?, List.findSome?_cons, h]
  rfl

theorem firstRefused?_cons_of_none {p : Parameter} (h : p.refusal? = none)
    (rest : List Parameter) : firstRefused? (p :: rest) = firstRefused? rest := by
  rw [firstRefused?, List.findSome?_cons, h]
  rfl

/-- Only a default that the constructor has to assign is refused. -/
theorem Parameter.refusal?_of_not_isPreset {p : Parameter} (h : p.isPreset = false) :
    p.refusal? = none := by
  rw [refusal?, h]

theorem Parameter.Presets.isPreset {p : Parameter} {text : String} (h : p.Presets text) :
    p.isPreset = true := by
  rw [Parameter.isPreset, h.optional, h.single, h.default]
  rfl

/-- What is refused is a malformed document. -/
theorem Parameter.kind_of_refusal? {p : Parameter} {cause : Cause} (h : p.refusal? = some cause) :
    cause.kind = .malformedDocument := by
  rw [refusal?] at h
  split at h
  · split at h
    · split at h
      · cases h
      · cases h
        rfl
    · cases h
  · cases h

namespace RequestPass

variable {c : Context} {s : RequestSite} {location : String} {p : Parameter}

theorem exists_ofPrimitive {type : Json} (h : parameterType c p location = .ok type)
    (hrepeated : p.repeated = false) {name : String} {format : Json} {values : List Json}
    (hp : p.type = .primitive name format values) :
    ∃ text, TypeName.ofPrimitive name format = .ok text ∧ type = .str text := by
  obtain ⟨type', htype, h⟩ := Outcome.bind_eq_ok.1 h
  rw [hrepeated] at h
  cases h
  rw [hp] at htype
  obtain ⟨text, htext, h⟩ := Outcome.bind_eq_ok.1 htype
  cases h
  exact ⟨text, htext, rfl⟩

theorem context_eq (hs : s.context? = some c) : s.context = .ok c := by
  rw [RequestSite.context, hs]
  rfl

/-- A text becomes the literal for the type of its parameter, or is refused. -/
theorem defaultLiteral_primitive (hs : s.context? = some c) {name : String} {format : Json}
    {values : List Json} (hp : p.type = .primitive name format values) {type : String}
    (htype : TypeName.ofPrimitive name format = .ok type) (text : String) :
    defaultLiteral s p (.str text) location = match TypeName.literalOf? type text with
      | some value => .ok value
      | none => Outcome.issue (.invalidDefault text (TypeName.kindOf type)) location := by
  have hof : TypeName.ofType c.schemaIndex "" .null (.primitive name format values) =
      .ok (.str type) := by
    rw [TypeName.ofType, htype]
    rfl
  unfold defaultLiteral
  rw [context_eq hs, hp]
  change (TypeName.ofType c.schemaIndex "" .null (.primitive name format values) >>= _) = _
  rw [hof]
  change (TypeName.literalKind (.str type) >>= _) = _
  rw [TypeName.literalKind_str, TypeName.literalOf?]
  cases hkind : TypeName.kindOf type with
  | integer => cases Number.readInt? text <;> rfl
  | number => cases Number.readNumber? text <;> rfl
  | boolean =>
    change (if text = "true" then _ else if text = "false" then _ else _) = _
    by_cases htrue : text = "true"
    · rw [if_pos htrue, if_pos htrue]
      rfl
    · rw [if_neg htrue, if_neg htrue]
      by_cases hfalse : text = "false"
      · rw [if_pos hfalse, if_pos hfalse]
        rfl
      · rw [if_neg hfalse, if_neg hfalse]
  | string => rfl

/-- **A default is refused as the parameter says, or becomes a literal.** -/
theorem defaultLiteral_cases (hs : s.context? = some c) {type value : Json} {here : String}
    (htype : parameterType c p here = .ok type) (hpreset : p.isPreset = true)
    (hvalue : p.default? = some value) :
    (∃ cause, p.refusal? = some cause ∧
      defaultLiteral s p value location = Outcome.issue cause location) ∨
    p.refusal? = none ∧ ∃ literal, defaultLiteral s p value location = .ok literal := by
  have hrepeated : p.repeated = false := by
    rw [Parameter.isPreset, Bool.and_eq_true, Bool.not_eq_true'] at hpreset
    exact hpreset.2
  unfold Parameter.refusal?
  rw [hpreset, hvalue]
  cases hp : p.type with
  | primitive name format values =>
    obtain ⟨text, hof, rfl⟩ := exists_ofPrimitive htype hrepeated hp
    cases value with
    | str written =>
      rw [defaultLiteral_primitive hs hp hof]
      dsimp only
      rw [hof]
      dsimp only
      cases TypeName.literalOf? text written with
      | some literal => exact .inr ⟨rfl, literal, rfl⟩
      | none => exact .inl ⟨_, rfl, rfl⟩
    | _ => exact .inr ⟨rfl, _, by unfold defaultLiteral; rw [hp]⟩
  | _ => exact .inr ⟨rfl, value, by unfold defaultLiteral; rw [hp]⟩

end RequestPass

/-! ### Request classes that are built -/

/-- **A literal that was read for a type**: what the text becomes. The type has it unless it is a
number out of range, and it can be written unless it is one that exceeds all literals; what the
type has can be written. -/
structure IsDefault (type text : String) (value : Json) : Prop where
  read : TypeName.literalOf? type text = some value
  held : TypeName.holds type value = true ↔ ¬ TypeName.Overflows type value
  written : ∀ location, (∃ written, CSharp.literal value location = .ok written) ↔
    ¬ CSharp.Exceeds value
  fits : TypeName.holds type value = true → ∀ location,
    ∃ written, CSharp.literal value location = .ok written

theorem isDefault_of_literalOf? {type text : String} {value : Json}
    (htype : type ∈ TypeName.primitives) (h : TypeName.literalOf? type text = some value) :
    IsDefault type text value where
  read := h
  held := TypeName.holds_iff_of_literalOf? htype h
  written := CSharp.exists_literal_iff (TypeName.comes_of_literalOf? h)
  fits hholds location :=
    (CSharp.exists_literal_iff (TypeName.comes_of_literalOf? h) location).2
      (CSharp.not_exceeds_of_holds hholds)

/-- **The defaults of a method are assigned**: each that has to be read becomes a literal for the
type of its property, and the constructor assigns it to the property. -/
def AssignsDefaults (m : Method) (request : Tree) : Prop :=
  ∀ p ∈ m.parameters, ∀ text, p.Presets text →
    ∃ (t : Tree) (type : String) (value : Json) (constructor : Tree) (b : MethodBody),
      IsPropertyOf request p.name t ∧ t.decl.type? = some (.str type) ∧
      constructor ∈ request.members ∧ constructor.decl.body = .method b ∧
      b.isConstructor = true ∧ .assign t.name (.literal value) ∈ b.statements ∧
      IsDefault type text value

variable {c : Context} {location : String} {m : Method}

theorem assignsDefaults_of_methodForm (hm : m.HasDistinctParameters) {request factory : Tree}
    (h : MethodForm c location m request factory) : AssignsDefaults m request := by
  obtain ⟨name, arguments, hform⟩ := exists_requestMembers h
  generalize hmembers : request.members = members at hform
  cases hform with
  | @intro parameters body required taken presets hproperties hintakes hrequired hpresets htaken =>
  intro p hp text hpreset
  have hmem : p ∈ m.parameters.filter Parameter.isPreset :=
    List.mem_filter.2 ⟨hp, hpreset.isPreset⟩
  obtain ⟨d, hd, hpresets⟩ := exists_right_of_forall₂ hpresets hmem
  obtain ⟨t, ht, hparameter⟩ := exists_right_of_forall₂ hproperties.parameters hp
  have hwire := RequestPass.wireName?_of_isParameter hparameter
  have hmine := isPropertyOf_of_mem hproperties hm hmembers rfl ht hwire
  -- the property that the default goes to is the one that was added for the parameter
  have hfound := isPropertyOf_of_mem hproperties hm hmembers rfl hpresets.member hpresets.wireName
  have hsame : d.property = t := hmine.unique _ hfound.member hfound.wireName
  obtain ⟨s, v, hs, hv, hliteral⟩ := hpresets.value
  obtain ⟨pname, type, -, htype, rfl⟩ := hparameter
  obtain ⟨name', format, values, hprimitive⟩ := hpreset.primitive
  obtain ⟨typeName, hof, rfl⟩ := RequestPass.exists_ofPrimitive htype hpreset.single hprimitive
  rw [hpreset.default] at hv
  cases hv
  have hread : TypeName.literalOf? typeName text = some d.value := by
    rw [RequestPass.defaultLiteral_primitive hs hprimitive hof] at hliteral
    split at hliteral
    · next value hvalue =>
      cases hliteral
      exact hvalue
    · cases hliteral
  obtain ⟨constructor, hlast, b, hb, hmakes, hassigned⟩ : ∃ constructor ∈ request.members, ∃ b,
      constructor.decl.body = .method b ∧ b.isConstructor = true ∧
        d.assignment ∈ b.statements := by
    rw [hmembers]
    exact ⟨_, List.mem_append_right _ List.mem_cons_self, _, rfl, rfl, List.mem_append_left _
      (List.mem_append_right _ (List.mem_map_of_mem hd))⟩
  rw [Preset.assignment, hsame] at hassigned
  exact ⟨_, typeName, d.value, constructor, b, hmine, rfl, hlast, hb, hmakes, hassigned,
    isDefault_of_literalOf? (TypeName.mem_primitives hof) hread⟩

/-! ### Constructors that can be added -/

namespace RequestPass

variable {s : RequestSite} {suffix : String}

theorem exists_wireProperties {ds : List Declaration} {f : List Tree} (hds : Show ds f)
    (h : ∀ t ∈ f, ∃ name?, wireName? t.decl = .ok name?) :
    ∃ properties, wireProperties ds = .ok properties := by
  induction hds with
  | nil => exact ⟨[], rfl⟩
  | @cons e t ds f hdecl _ ih =>
    obtain ⟨⟨name?, hname⟩, hrest⟩ := List.forall_mem_cons.1 h
    rw [← hdecl, wireName?_detached] at hname
    obtain ⟨later, hlater⟩ := ih hrest
    exact ⟨_, by rw [wireProperties, hname, hlater]; rfl⟩

/-- A signature with one more parameter, which is assigned to a property. -/
def Signature.extended (g : Signature) (type target name : Json) : Signature where
  parameters := g.parameters ++ [⟨name, type, .absent⟩]
  statements := g.statements ++ [.assign target (.snippet name)]
  locals := g.locals ++ [name]

/-- The name of a new parameter is searched for from the safe name for what is wanted on. -/
theorem Signature.take_texts (g : Signature) (wanted suffix : String) (type target : Json) :
    g.take wanted (.str suffix) (.ok type) target = (do
      let name ← Identifier.fresh (.str suffix) g.locals (.str (Identifier.safe
        (some (Identifier.lowerFirst (Identifier.pascal wanted))) suffix Identifier.keywords))
      return g.extended type target name) := by
  rw [take, Identifier.localName, Identifier.keywordValues, Identifier.safeWith_texts]
  rfl

/-- A value can be taken when the names in use are texts, and they still are afterwards. -/
theorem Signature.exists_take (hs : suffix ≠ "") {g : Signature}
    (hlocals : ∀ name ∈ g.locals, name.isString = true) (wanted : String) (type target : Json) :
    ∃ g', g.take wanted (.str suffix) (.ok type) target = .ok g' ∧
      ∀ name ∈ g'.locals, name.isString = true := by
  obtain ⟨texts, htexts⟩ := Json.exists_texts hlocals
  obtain ⟨free, hfree⟩ := Identifier.exists_fresh hs texts (Identifier.safe
    (some (Identifier.lowerFirst (Identifier.pascal wanted))) suffix Identifier.keywords)
  rw [← htexts] at hfree
  refine ⟨g.extended type target (.str free), by rw [take_texts, hfree]; rfl, fun name hname => ?_⟩
  rcases List.mem_append.1 hname with hname | hname
  · exact hlocals name hname
  · rw [List.mem_singleton.1 hname]
    rfl

variable (hs : s.context? = some c) {f : List Tree} {properties : List (String × Declaration)}
  {ps : List Parameter} (hp : Finds properties f ps)

include hs hp

theorem exists_takeRequired (hsuffix : c.suffix = .str suffix) (hne : suffix ≠ "")
    (htyped : ∀ t ∈ f, ∃ type, t.decl.type? = some type) {g : Signature}
    (hlocals : ∀ name ∈ g.locals, name.isString = true) :
    ∃ g', takeRequired s properties ps g = .ok g' ∧ ∀ name ∈ g'.locals, name.isString = true := by
  induction ps generalizing g with
  | nil => exact ⟨g, rfl, hlocals⟩
  | cons p rest ih =>
    obtain ⟨d, hd⟩ := hp.complete p List.mem_cons_self
    obtain ⟨t, ht, hdecl, -⟩ := hp.sound hd
    obtain ⟨type, htype⟩ := htyped t ht
    rw [← hdecl, Declaration.detached_type?] at htype
    obtain ⟨g₁, hg₁, hlocals₁⟩ := Signature.exists_take hne hlocals p.name type d.name
    obtain ⟨g₂, hg₂, hlocals₂⟩ := ih hp.tail hlocals₁
    have htake : g.take p.name c.suffix (Outcome.required d.type?) d.name = .ok g₁ := by
      rw [htype, hsuffix]
      exact hg₁
    refine ⟨g₂, ?_, hlocals₂⟩
    simp only [takeRequired, hd]
    exact Outcome.bind_eq_ok.2 ⟨c, context_eq hs, Outcome.bind_eq_ok.2 ⟨g₁, htake, hg₂⟩⟩

omit hs hp in
/-- A parameter without a default to assign is passed over, with a warning if it is repeated. -/
theorem assignDefaults_cons_of_not_isPreset {p : Parameter} (h : p.isPreset = false)
    (rest : List Parameter) (g : Signature) (w : Workbench) :
    ∃ w₁, assignDefaults s location properties (p :: rest) g w =
      assignDefaults s location properties rest g w₁ := by
  cases hfound : properties.lookup p.name with
  | none => exact ⟨w, by simp only [assignDefaults, hfound]⟩
  | some d =>
    cases hrequired : p.required with
    | true => exact ⟨w, by simp only [assignDefaults, hfound, hrequired]⟩
    | false =>
      cases hdefault : p.default? with
      | none => exact ⟨w, by simp only [assignDefaults, hfound, hrequired, hdefault]⟩
      | some value =>
        have hrepeated : p.repeated = true := by
          simpa [Parameter.isPreset, hrequired, hdefault] using h
        refine ⟨{ w with ledger := w.ledger.write .warning (location ++ "." ++ p.name ++
          ": default of a repeated parameter is ignored") }, ?_⟩
        simp only [assignDefaults, hfound, hrequired, hdefault, hrepeated, if_true]
        rfl

omit hs hp in
theorem assignDefaults_cons_of_isPreset {p : Parameter} (h : p.isPreset = true) {d : Declaration}
    (hd : properties.lookup p.name = some d) {value : Json} (hdefault : p.default? = some value)
    (rest : List Parameter) (g : Signature) :
    assignDefaults s location properties (p :: rest) g =
      ((liftM (defaultLiteral s p value (location ++ "." ++ p.name)) : Build Json) >>=
        fun literal => assignDefaults s location properties rest
          { g with statements := g.statements ++ [.assign d.name (.literal literal)] }) := by
  rw [Parameter.isPreset, Bool.and_eq_true, Bool.and_eq_true, Bool.not_eq_true',
    Bool.not_eq_true'] at h
  simp only [assignDefaults, hd, hdefault, h.1.1, h.2, Bool.false_eq_true, if_false]

variable (location) in
/-- **The defaults are assigned, or the first that is refused is reported.** -/
theorem assignDefaults_cases (htypes : ∀ p ∈ ps, ∃ here type, parameterType c p here = .ok type)
    (g : Signature) (w : Workbench) :
    (∃ p cause w', firstRefused? ps = some (p, cause) ∧
      assignDefaults s location properties ps g w =
        .error (.issue ⟨cause, .str (location ++ "." ++ p.name)⟩) w') ∨
    firstRefused? ps = none ∧ ∃ g' w', assignDefaults s location properties ps g w = .ok g' w' := by
  induction ps generalizing g w with
  | nil => exact .inr ⟨rfl, g, w, rfl⟩
  | cons p rest ih =>
    obtain ⟨⟨here, type, htype⟩, htypes⟩ := List.forall_mem_cons.1 htypes
    cases hpreset : p.isPreset with
    | false =>
      obtain ⟨w₁, hskip⟩ := assignDefaults_cons_of_not_isPreset hpreset rest g w
      rw [firstRefused?_cons_of_none (Parameter.refusal?_of_not_isPreset hpreset), hskip]
      exact ih hp.tail htypes g w₁
    | true =>
      obtain ⟨d, hd⟩ := hp.complete p List.mem_cons_self
      obtain ⟨value, hdefault⟩ : ∃ value, p.default? = some value := by
        rw [Parameter.isPreset, Bool.and_eq_true, Bool.and_eq_true] at hpreset
        exact Option.isSome_iff_exists.1 hpreset.1.2
      rw [assignDefaults_cons_of_isPreset hpreset hd hdefault]
      rcases defaultLiteral_cases hs htype hpreset hdefault with
        ⟨cause, hcause, hliteral⟩ | ⟨hnone, literal, hliteral⟩
      · refine .inl ⟨p, cause, w, firstRefused?_cons_of_some hcause rest, ?_⟩
        rw [hliteral]
        rfl
      · rw [firstRefused?_cons_of_none hnone, hliteral]
        exact ih hp.tail htypes _ w

omit hs hp in
theorem exists_type_of_isSettable {t : Tree} (h : t.IsSettable) :
    ∃ type, t.decl.type? = some type := by
  obtain ⟨b, hb, -⟩ := h
  exact ⟨b.type, by rw [Declaration.type?, hb]⟩

section Constructor

variable {w : Workbench} {front : List Declaration} {q : Nat} {d : Declaration}
  {parameters body : List Tree} {o : Int}

omit hs hp in
/-- The body is taken, if there is one. -/
theorem exists_takeBody (hs : s.context? = some c) (hrequest : s.request = q)
    (hw : w.Grown front (some (q : Int)) (headTrees m ++ parameters ++ body))
    (he : HasEmpty front q d) (hclass : d.isClass = true)
    (h : RequestProperties c location m parameters body)
    (hsuffix : c.suffix = .str suffix) (hne : suffix ≠ "") {g : Signature}
    (hlocals : ∀ name ∈ g.locals, name.isString = true) :
    ∃ g', takeBody s g w = .ok g' w := by
  obtain ⟨found, hfound⟩ := hw.exists_findMember? he hclass "Body"
  have hlook : look (fun m => m.findMember? s.request "Body") w = .ok found w := by
    rw [hrequest]
    exact look_eq_ok.2 ⟨hfound, rfl⟩
  rw [takeBody, Session.bind_run_of_ok hlook]
  rcases hw.findMember? he hfound with ⟨rfl, -⟩ | ⟨i, e, t, rfl, hplace, ht, hdecl, hname⟩
  · exact ⟨g, rfl⟩
  · have hset : t.IsSettable := by
      rw [List.append_assoc] at ht
      rcases List.mem_append.1 ht with ht | ht
      · exact absurd hname (name_ne_body_of_mem_headTrees ht)
      · rcases List.mem_append.1 ht with ht | ht
        · exact h.isSettable_of_mem ht
        · exact isSettable_of_bodyTrees h.body ht hname
    obtain ⟨type, htype⟩ := exists_type_of_isSettable hset
    rw [← hdecl, Declaration.detached_type?] at htype
    obtain ⟨g', hg', -⟩ := Signature.exists_take hne hlocals "body" type "Body"
    have htake : g.take "body" c.suffix (Outcome.required e.type?) "Body" = .ok g' := by
      rw [htype, hsuffix]
      exact hg'
    have hbody : look (fun m => m.atPlace i) w = .ok e w := look_eq_ok.2 ⟨hplace, rfl⟩
    refine ⟨g', ?_⟩
    refine Session.bind_eq_ok.2 ⟨c, w, Session.lift_eq_ok.2 ⟨context_eq hs, rfl⟩, ?_⟩
    refine Session.bind_eq_ok.2 ⟨e, w, hbody, ?_⟩
    exact Session.lift_eq_ok.2 ⟨htake, rfl⟩

omit hs hp in
theorem exists_wireName {t : Tree} (h : RequestProperties c location m parameters body)
    (ht : t ∈ headTrees m ++ parameters ++ body) : ∃ name?, wireName? t.decl = .ok name? := by
  rcases List.mem_append.1 ht with ht | ht
  · rcases List.mem_append.1 ht with ht | ht
    · exact ⟨none, wireName?_of_mem_headTrees ht⟩
    · obtain ⟨p, -, hp⟩ := exists_left_of_forall₂ h.parameters ht
      exact ⟨some p.name, wireName?_of_isParameter hp⟩
  · exact ⟨none, wireName?_of_mem_bodyTrees h.body ht⟩

omit hp in
/-- **The constructor is added, or the first default that is refused is reported.** -/
theorem addConstructor_cases (hmethod : s.method? = some m) (hrequest : s.request = q)
    (hw : w.Grown front (some (q : Int)) (headTrees m ++ parameters ++ body))
    (he : HasEmpty front q d) (hclass : d.isClass = true) {name : String}
    (hname : d.name = .str name) (h : RequestProperties c (s.locationOf m) m parameters body)
    (hsuffix : c.suffix = .str suffix) (hne : suffix ≠ "") :
    (∃ p cause w', firstRefused? m.parameters = some (p, cause) ∧
      addConstructor s w = .error (.issue ⟨cause, .str (s.locationOf m ++ "." ++ p.name)⟩) w') ∨
    firstRefused? m.parameters = none ∧ ∃ w', addConstructor s w = .ok () w' := by
  obtain ⟨own, hown⟩ := hw.exists_getClass he hclass
  obtain ⟨ds, hds⟩ := hw.exists_members he hclass
  have hshow := hw.members he hds
  obtain ⟨properties, hproperties⟩ := exists_wireProperties hshow fun t ht => exists_wireName h ht
  have hfinds {ps : List Parameter} (hps : ∀ p ∈ ps, p ∈ m.parameters) :
      Finds properties parameters ps := finds_wireProperties h hshow hproperties hps
  -- the service is the first name in use
  have hservice : ∀ local' ∈ [Json.str "service"], local'.isString = true := by simp [Json.isString]
  obtain ⟨g, hg, hlocals⟩ := exists_takeRequired (g := ⟨[⟨"service", clientService, .absent⟩], [],
    ["service"]⟩) hs (hfinds fun _ => mem_of_mem_requiredParameters) hsuffix hne
    (fun t ht => exists_type_of_isSettable (h.isSettable_of_mem ht)) hservice
  have htypes : ∀ p ∈ m.parameters, ∃ here type, parameterType c p here = .ok type := by
    intro p hp
    obtain ⟨t, -, _, type, -, htype, -⟩ := exists_right_of_forall₂ h.parameters hp
    exact ⟨_, type, htype⟩
  have hclassLook : look (fun m => m.getClass s.request) w =
      .ok (own, roots front.length (headTrees m ++ parameters ++ body)) w := by
    rw [hrequest]
    exact look_eq_ok.2 ⟨hown, rfl⟩
  have hmembersLook : look (fun m => m.members s.request) w = .ok ds w := by
    rw [hrequest]
    exact look_eq_ok.2 ⟨hds, rfl⟩
  have hm : s.method = .ok m := by rw [RequestSite.method, hmethod]; rfl
  rw [addConstructor, Session.bind_run_of_ok hclassLook, hm]
  dsimp only
  rw [Session.lift_ok_bind, Session.bind_run_of_ok hmembersLook, hproperties, Session.lift_ok_bind,
    hg, Session.lift_ok_bind]
  rcases assignDefaults_cases (s.locationOf m) hs (hfinds fun _ => id) htypes g w with
    ⟨p, cause, w', hrefused, hrun⟩ | ⟨hnone, g', w', hrun⟩
  · exact .inl ⟨p, cause, w', hrefused, Session.bind_run_of_error hrun _⟩
  · refine .inr ⟨hnone, ?_⟩
    obtain ⟨hmodel, presets, -, rfl⟩ := looks_assignDefaults hs (hfinds fun _ => id) rfl hrun
    have hw' : w'.Grown front (some (q : Int)) (headTrees m ++ parameters ++ body) :=
      ⟨hmodel.trans hw.model, hw.coherent, hw.detached, hw.counted⟩
    obtain ⟨g', hbody⟩ := exists_takeBody hs hrequest hw' he hclass h hsuffix hne
      (g := g.presetting presets) hlocals
    have hsame : own.name = d.name := (hw.getClass he hown).1
    have hplain : ∀ t ∈ headTrees m ++ parameters ++ body, t.decl.isConstructor = false := by
      intro t ht
      rw [Declaration.isConstructor]
      split
      · next b hb => exact isConstructor_of_requestProperties h ht hb
      · rfl
    rw [Session.bind_run_of_ok hrun, Session.bind_run_of_ok hbody, hrequest]
    exact hw'.exists_addConstructor he hclass hname hplain rfl hsame rfl

end Constructor

end RequestPass

/-! ### Methods that are attempted -/

namespace Plan

variable {plan : Plan} {front : List Declaration} {f : List Tree} {o : Int}

variable (plan) in
/-- Add the request class of a method with all its properties, but without a constructor. -/
def openRequest (r : Resource) (owner : Int) (m : Method) : Build RequestSite := do
  let response ← match m.response with
    | some schema => plan.context.schemaIndex.className schema (r.locationOf m)
    | none => pure (.str "string")
  let name ← safeName owner (Identifier.pascal m.name ++ "Request") plan.context.suffix []
  let base := plan.context.config.requestBaseClass.text ++ "<" ++ (← response.written) ++ ">"
  let request ← addClass (some owner) (Declaration.ofClass name [.str base] .null)
  let s : RequestSite := ⟨r, some m, request, owner, some plan.context⟩
  RequestPass.addDocumentation s
  RequestPass.addFields s
  RequestPass.addParameters s m m.parameters
  RequestPass.addBody s
  return s

/-- The request class of a method is opened; then come its constructor and the factory. -/
theorem buildMethod_eq (hplan : plan.pipeline = .registered) (r : Resource) (m : Method) :
    plan.buildMethod r o m = (do
      let s ← plan.openRequest r o m
      RequestPass.addConstructor s
      RequestPass.addFactory s) := by
  have hmethod (q : Int) : RequestSite.method ⟨r, some m, q, o, some plan.context⟩ = .ok m := rfl
  simp only [buildMethod, openRequest, hplan, RequestPass.forM_registered, RequestPass.fill,
    hmethod, Session.lift_ok_bind]
  cases m.response <;> simp only [bind_assoc, pure_bind, Resource.locationOf]

/-- **A request class that is opened**: a class with the properties for the method, at a place. -/
inductive Opens (c : Context) (r : Resource) (m : Method) (owner : Int) (place : Nat) :
    RequestSite → List Tree → Prop
  | intro {name comment : Json} {base : String} {parameters body : List Tree}
    (hname : IsMadeSafe c (Identifier.pascal m.name ++ "Request") name)
    (hproperties : RequestProperties c (r.locationOf m) m parameters body) :
    Opens c r m owner place ⟨r, some m, place, owner, some c⟩
      [.node (Declaration.ofClass name [.str base] comment) (headTrees m ++ parameters ++ body)]

theorem adds_openRequest (r : Resource) (m : Method) :
    Adds front (some o) f (plan.openRequest r o m)
      (Opens plan.context r m o (front.length + size f)) := by
  have hrequest (response : Json) : Adds front (some o) f (do
        let name ← safeName o (Identifier.pascal m.name ++ "Request") plan.context.suffix []
        let text ← response.written
        let request ← addClass (some o) (Declaration.ofClass name
          [.str (plan.context.config.requestBaseClass.text ++ "<" ++ text ++ ">")] .null)
        let s : RequestSite := ⟨r, some m, request, o, some plan.context⟩
        RequestPass.addDocumentation s
        RequestPass.addFields s
        RequestPass.addParameters s m m.parameters
        RequestPass.addBody s
        return s) (Opens plan.context r m o (front.length + size f)) := by
    refine .safeName fun name reserved hname => ?_
    refine .lift fun text htext => ?_
    refine (Adds.inside_described (Q := fun s ms => ∃ parameters body,
      s = ⟨r, some m, ((front.length + size f : Nat) : Int), o, some plan.context⟩ ∧
      ms = headTrees m ++ parameters ++ body ∧
      RequestProperties plan.context (r.locationOf m) m parameters body) rfl
      (fun _ _ _ => RequestPass.model_of_addDocumentation) ?_).imp ?_
    · intro p hp front' comment hlength hget
      refine .bind RequestPass.adds_addFields ?_
      rintro _ _ rfl
      refine .bind (RequestPass.adds_addParameters m.parameters) fun _ parameters hparameters => ?_
      refine .bind RequestPass.adds_addBody fun _ body hbody => .pure ?_
      exact ⟨parameters, body, by rw [hp], by simp, hparameters.1, hparameters.2, hbody⟩
    · rintro s g ⟨comment, ms, rfl, parameters, body, rfl, rfl, hproperties⟩
      exact .intro ⟨reserved, hname⟩ hproperties
  rw [openRequest]
  split
  · exact .lift fun response _ => hrequest response
  · exact hrequest (.str "string")

end Plan

/-- **A method is settled by its defaults**, when its request class is opened. If one of them is
refused the method is skipped: the first such default is reported as a malformed document, at its
parameter, and the model stays as it was. Otherwise the constructor is added. -/
structure SettlesDefaults (r : Resource) (m : Method) (s : RequestSite) (v : Workbench)
    (a : Attempt) : Prop where
  refused : ∀ p cause, firstRefused? m.parameters = some (p, cause) →
    a.issue? = some ⟨cause, .str (r.locationOf m ++ "." ++ p.name)⟩ ∧
    cause.kind.label = "MalformedDocumentError" ∧
    ∃ l, guarded a.location a.step a.start = .ok () ⟨a.start.model, l⟩
  accepted : firstRefused? m.parameters = none →
    ∃ u, RequestPass.addConstructor s v = .ok () u

theorem Issue.orAt_of_dotted (cause : Cause) (path name : String) (location : Json) :
    Issue.orAt ⟨cause, .str (path ++ "." ++ name)⟩ location =
      ⟨cause, .str (path ++ "." ++ name)⟩ := by
  have htruthy : Json.truthy (.str (path ++ "." ++ name)) = true := by
    simp [Json.truthy]
  rw [orAt, if_pos htruthy]

theorem kind_of_firstRefused? {ps : List Parameter} {p : Parameter} {cause : Cause}
    (h : firstRefused? ps = some (p, cause)) : cause.kind = .malformedDocument := by
  obtain ⟨p', -, hp⟩ := List.exists_of_findSome?_eq_some h
  obtain ⟨cause', hcause, heq⟩ := Option.map_eq_some_iff.1 hp
  cases heq
  exact Parameter.kind_of_refusal? hcause

theorem settlesDefaults_of_openRequest {plan : Plan} (hplan : plan.pipeline = .registered)
    {suffix : String} (hsuffix : plan.context.suffix = .str suffix) (hs : IsDisarming suffix)
    {a : Attempt} (ha : a.IsSound plan.context) {r : Resource} {owner : Int} (howner : 0 ≤ owner)
    (hstep : a.step = plan.buildMethod r owner m) {s : RequestSite} {v : Workbench}
    (hopen : plan.openRequest r owner m a.start = .ok s v) :
    SettlesDefaults r m s v a := by
  obtain ⟨ds, hcoherent, -, -, hmodel⟩ := ha.laid
  have hstart : a.start.Grown ds (some owner) [] := by
    refine ⟨?_, ?_, .nil, ?_⟩
    · rw [hmodel, layout, List.append_nil]
    · rwa [layout, List.append_nil]
    · rintro o ⟨⟩
      exact howner
  have hrun : a.step a.start =
      (RequestPass.addConstructor s >>= fun _ => RequestPass.addFactory s) v := by
    rw [hstep, Plan.buildMethod_eq hplan]
    exact Session.bind_run_of_ok hopen _
  obtain ⟨g, hgrown, hopens⟩ := Plan.adds_openRequest r m hstart hopen
  cases hopens with
  | @intro name comment base parameters body hname hproperties =>
  obtain ⟨reserved, hname⟩ := hname
  rw [hsuffix] at hname
  obtain ⟨text, rfl, -⟩ := Identifier.isWord_safeWith ⟨suffix, rfl, hs.body⟩ hname
  have hcases := RequestPass.addConstructor_cases
    (s := ⟨r, some m, ((ds.length + size [] : Nat) : Int), owner, some plan.context⟩) rfl rfl rfl
    hgrown.inside hgrown.inside.hasEmpty_last rfl rfl hproperties hsuffix hs.ne_empty
  constructor
  · intro p cause hrefused
    rcases hcases with ⟨p', cause', w', hrefused', hissue⟩ | ⟨hnone, -⟩
    · rw [hrefused] at hrefused'
      cases hrefused'
      have hmet : a.issue? = some ⟨cause, .str (r.locationOf m ++ "." ++ p.name)⟩ := by
        rw [Attempt.issue?, hrun, Session.bind_run_of_error hissue]
        exact congrArg some (Issue.orAt_of_dotted ..)
      refine ⟨hmet, ?_, ha.model_guarded hmet⟩
      rw [kind_of_firstRefused? hrefused]
      rfl
    · rw [hnone] at hrefused
      cases hrefused
  · intro hnone
    rcases hcases with ⟨p', cause', w', hrefused, -⟩ | ⟨-, hadded⟩
    · rw [hnone] at hrefused
      cases hrefused
    · exact hadded

/-! ### Documents -/

/-- **Defaults are literals of the types of their properties, up to numbers out of range.** When a
document is built, the defaults of all methods that are kept are assigned; the issues that are
recorded are those that were met in attempts; and every attempt at a method whose request class is
opened is settled by the defaults of the method. -/
theorem settles_of_buildDocument {config : Config} {pipeline : Pipeline} {document : Json}
    {plan : Plan} {w : Workbench} {suffix : String} (hkeys : document.hasDistinctKeys = true)
    (hconfig : config.HasDefaultDecorators) (hsuffix : config.uniqueSuffix = .str suffix)
    (hs : IsDisarming suffix) (hpipeline : Pipeline.ofConfig config = .ok pipeline)
    (h : buildDocument config pipeline document (Workbench.start document) = .ok plan w) :
    ∃ l : Ledger, Document.read document (Workbench.start document).ledger =
        .ok plan.context.service l ∧
      (∃ (service : Tree) (resources schemas : List Tree),
        w.model.forest = service :: (resources ++ schemas) ∧
        ResourceForms plan.context (fun _ m request _ => AssignsDefaults m request)
          (plan.keptServiceResources ⟨{}, l⟩) resources) ∧
      w.ledger.issues = l.issues ++ (plan.attempts ⟨{}, l⟩).filterMap Attempt.issue? ∧
      ∀ a ∈ plan.attempts ⟨{}, l⟩, ∀ (r : Resource) (owner : Int) (m : Method), 0 ≤ owner →
        a.step = plan.buildMethod r owner m → ∀ (s : RequestSite) (v : Workbench),
          plan.openRequest r owner m a.start = .ok s v → SettlesDefaults r m s v a := by
  obtain ⟨l, hread, hforms⟩ := exists_forms_of_distinct hkeys hconfig hsuffix hs hpipeline h
    fun _ hm _ hform => assignsDefaults_of_methodForm hm hform
  obtain ⟨service, l', hread', hplan, hbuild⟩ := exists_build_of_buildDocument h
  obtain ⟨rfl, hcontext⟩ := planFor_context hplan
  obtain rfl : l = l' := by
    rw [hread] at hread'
    cases hread'
    rfl
  have hcontextSuffix : plan.context.suffix = .str suffix := by
    rw [Context.suffix, hcontext, hsuffix]
  have hregistered : plan.pipeline = .registered := by
    rw [hconfig.ofConfig] at hpipeline
    cases hpipeline
    exact planFor_pipeline hplan
  have haccounts : Accounts plan.context plan.build ⟨{}, l⟩ (plan.attempts ⟨{}, l⟩) :=
    plan.accounts_build Over.nil
  have hissues := haccounts.issues
  rw [Session.after_of_ok hbuild] at hissues
  refine ⟨l, hread, hforms, hissues, fun a ha r owner m howner hstep s v hopen => ?_⟩
  exact settlesDefaults_of_openRequest hregistered hcontextSuffix hs (haccounts.sound a ha) howner
    hstep hopen

/-- A document with defaults for all types. Two of them are at the limits of their types, one is
beyond all numbers, and one is no integer. -/
def pagesDocument : Json :=
  .object [("name", "pages"), ("resources", .object [("pages", .object [("methods", .object [
    ("list", .object [("httpMethod", "GET"), ("path", "pages"), ("parameters", .object [
      ("size", .object [("type", "integer"), ("location", "query"), ("default", " 5_0 ")]),
      ("after", .object [("type", "string"), ("format", "int64"), ("location", "query"),
        ("default", "-9223372036854775808")]),
      ("mark", .object [("type", "string"), ("format", "uint64"), ("location", "query"),
        ("default", "18446744073709551615")]),
      ("ratio", .object [("type", "number"), ("location", "query"), ("default", "1e999")]),
      ("exact", .object [("type", "boolean"), ("location", "query"), ("default", "true")]),
      ("lang", .object [("type", "string"), ("location", "query"), ("default", "en")])])]),
    ("find", .object [("httpMethod", "GET"), ("path", "pages/find"), ("parameters", .object [
      ("exact", .object [("type", "boolean"), ("location", "query"), ("default", "false")]),
      ("limit", .object [("type", "integer"), ("location", "query"), ("default", "ten")]),
      ("ratio", .object [("type", "number"), ("location", "query"),
        ("default", "half")])])])])])])]

/-- The issues that were recorded: their kinds and locations. -/
def Ledger.reported (l : Ledger) : List (String × String) :=
  l.issues.map fun i => (i.kind.label, i.location.text)

/-- In the document above one method is kept, and one is skipped for the first of its two defaults
that are refused. -/
theorem settles_pagesDocument :
    pagesDocument.hasDistinctKeys = true ∧ ({} : Config).HasDefaultDecorators ∧
    ({} : Config).uniqueSuffix = .str "Value" ∧ IsDisarming "Value" ∧
    Pipeline.ofConfig {} = .ok .registered ∧
    ∃ (plan : Plan) (w : Workbench),
      buildDocument {} .registered pagesDocument (Workbench.start pagesDocument) = .ok plan w ∧
      w.model.constructors =
        [(["service"], ["Service"]),
         (["service"], ["Size", "After", "Mark", "Ratio", "Exact", "Lang"]),
         (["initializer"], ["Pages"])] ∧
      w.ledger.reported = [("MalformedDocumentError", "pages.find.limit")] ∧
      ∃ l : Ledger, Document.read pagesDocument (Workbench.start pagesDocument).ledger =
          .ok plan.context.service l ∧
        (∃ (service : Tree) (resources schemas : List Tree),
          w.model.forest = service :: (resources ++ schemas) ∧
          ResourceForms plan.context (fun _ m request _ => AssignsDefaults m request)
            (plan.keptServiceResources ⟨{}, l⟩) resources) ∧
        w.ledger.issues = l.issues ++ (plan.attempts ⟨{}, l⟩).filterMap Attempt.issue? ∧
        ∀ a ∈ plan.attempts ⟨{}, l⟩, ∀ (r : Resource) (owner : Int) (m : Method), 0 ≤ owner →
          a.step = plan.buildMethod r owner m → ∀ (s : RequestSite) (v : Workbench),
            plan.openRequest r owner m a.start = .ok s v → SettlesDefaults r m s v a := by
  have hkeys : pagesDocument.hasDistinctKeys = true := by decide +kernel
  have hconfig : ({} : Config).HasDefaultDecorators := ⟨rfl, rfl, rfl, rfl⟩
  have hs : IsDisarming "Value" := by decide +kernel
  have hrun : Session.passes (fun _ w =>
        w.model.constructors ==
          [(["service"], ["Service"]),
           (["service"], ["Size", "After", "Mark", "Ratio", "Exact", "Lang"]),
           (["initializer"], ["Pages"])] &&
        w.ledger.reported == [("MalformedDocumentError", "pages.find.limit")])
      (buildDocument {} .registered pagesDocument (Workbench.start pagesDocument)) = true := by
    decide +kernel
  obtain ⟨plan, w, hbuild, hrun⟩ := Session.exists_of_passes hrun
  obtain ⟨hconstructors, hreported⟩ := (Bool.and_eq_true _ _).mp hrun
  exact ⟨hkeys, hconfig, rfl, hs, hconfig.ofConfig, plan, w, hbuild, eq_of_beq hconstructors,
    eq_of_beq hreported, settles_of_buildDocument hkeys hconfig rfl hs hconfig.ofConfig hbuild⟩

/-- A document with a default for an integer of 32 bits that needs 33. -/
def pageDocument : Json :=
  .object [("name", "x"), ("resources", .object [("items", .object [("methods", .object [
    ("list", .object [("httpMethod", "GET"), ("path", "items"), ("parameters", .object [
      ("n", .object [("type", "integer"), ("location", "query"),
        ("default", "3000000000")])])])])])])]

/-- Whether a statement assigns an integer to a name. -/
def Statement.assignsInteger (name : String) (n : Int) : Statement → Bool
  | .assign target (.literal (.int k)) => target.isText name && k == n
  | _ => false

theorem Statement.eq_of_assignsInteger {name : String} {n : Int} {s : Statement}
    (h : s.assignsInteger name n = true) : s = .assign (.str name) (.literal (.int n)) := by
  unfold assignsInteger at h
  split at h
  · obtain ⟨htarget, hvalue⟩ := (Bool.and_eq_true _ _).mp h
    rw [Json.isText_iff.1 htarget, eq_of_beq hvalue]
  · cases h

/-- The document is built without an issue, and the constructor assigns to the property a literal
that its type does not have. -/
theorem exists_overflow_pageDocument :
    ∃ (plan : Plan) (w : Workbench),
      buildDocument {} .registered pageDocument (Workbench.start pageDocument) = .ok plan w ∧
      w.ledger.issues = [] ∧
      ∃ e ∈ w.model.forest, ∃ request ∈ e.members,
        (∃ t ∈ request.members, t.name = .str "N" ∧ t.decl.type? = some (.str "int?")) ∧
        (∃ t ∈ request.members, ∃ b, t.decl.body = .method b ∧ b.isConstructor = true ∧
          .assign (.str "N") (.literal (.int 3000000000)) ∈ b.statements) ∧
        TypeName.holds "int?" (.int 3000000000) = false := by
  have hrun : Session.passes (fun _ w => w.ledger.issues.isEmpty &&
        w.model.forest.any fun e => e.members.any fun request =>
          (request.members.any fun t => t.name.isText "N" && t.decl.type?.any (·.isText "int?")) &&
          request.members.any fun t => t.decl.method?.any fun b => b.isConstructor &&
            b.statements.any (Statement.assignsInteger "N" 3000000000))
      (buildDocument {} .registered pageDocument (Workbench.start pageDocument)) = true := by
    decide +kernel
  obtain ⟨plan, w, hbuild, hrun⟩ := Session.exists_of_passes hrun
  obtain ⟨hissues, hrun⟩ := (Bool.and_eq_true _ _).mp hrun
  obtain ⟨e, he, h⟩ := List.any_eq_true.1 hrun
  obtain ⟨request, hrequest, h⟩ := List.any_eq_true.1 h
  obtain ⟨hproperty, hconstructor⟩ := (Bool.and_eq_true _ _).mp h
  refine ⟨plan, w, hbuild, List.isEmpty_iff.1 hissues, e, he, request, hrequest, ?_, ?_, by decide⟩
  · obtain ⟨t, ht, h⟩ := List.any_eq_true.1 hproperty
    obtain ⟨hname, h⟩ := (Bool.and_eq_true _ _).mp h
    obtain ⟨type, htype, h⟩ := (Option.any_eq_true _ _).1 h
    exact ⟨t, ht, Json.isText_iff.1 hname, by rw [htype, Json.isText_iff.1 h]⟩
  · obtain ⟨t, ht, h⟩ := List.any_eq_true.1 hconstructor
    obtain ⟨b, hb, h⟩ := (Option.any_eq_true _ _).1 h
    obtain ⟨hmakes, h⟩ := (Bool.and_eq_true _ _).mp h
    obtain ⟨s, hs, hassigns⟩ := List.any_eq_true.1 h
    exact ⟨t, ht, b, Declaration.body_of_method? hb, hmakes,
      Statement.eq_of_assignsInteger hassigns ▸ hs⟩

end ClientGen
