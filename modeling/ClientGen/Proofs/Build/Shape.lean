import ClientGen.Proofs.Build.Absence
import ClientGen.Proofs.Build.Growth
import ClientGen.Proofs.Build.Plain
import ClientGen.Proofs.Naming.Usable

/-!
# The shape of what a building adds

What the classes of a building have inside them, part by part: the members for the fields of a
schema, with the classes for objects described on the spot (`ClientGen.FieldTrees`), the class
of a schema (`ClientGen.SchemaTree`, and in full `ClientGen.SchemaForm`), the class and the
factory of a method (`ClientGen.MethodTrees`), and the class of a resource with all that is inside
it (`ClientGen.ResourceTree`). Each is a relation between a part of a service and trees; names are
told only as far as they are made from the names of the document, and comments not at all.

The decorators of schemas, resources and the service are gone through in the same way: each of
them adds trees of such a shape. The decorators are all those there are, in the order of the
registries.
-/

namespace ClientGen

open Build Decorator ClientGen.Tree

/-! ### Shapes -/

/-- A name made safe, whatever the names it had to avoid. -/
def IsMadeSafe (c : Context) (candidate : String) (name : Json) : Prop :=
  ∃ reserved, Identifier.safeWith candidate c.suffix reserved = .ok name

/-- **A member aside**: no class, no property that can be set, and no method but a constructor
that takes nothing beside the service. -/
structure Tree.IsAside (t : Tree) : Prop where
  members : t.members = []
  noClass : t.isClass = false
  property : ∀ p, t.decl.body = .property p → p.hasSet = false
  method : ∀ b, t.decl.body = .method b → b.isConstructor = true ∧ b.parameters.length ≤ 1

section Shapes

variable (c : Context)

/-- **The members for fields**, in order: a property for each, and for an object described on
the spot a class right after the property. -/
inductive FieldTrees : List Field → List Tree → Prop
  | nil : FieldTrees [] []
  | plain {field : Field} {rest : List Field} {ts : List Tree} {name type : Json}
    (hname : IsMadeSafe c (Identifier.pascal field.name) name)
    (hinline : field.type.inline? = none)
    (htype : TypeName.ofType c.schemaIndex field.path .null field.type = .ok type)
    (hrest : FieldTrees rest ts) :
    FieldTrees (field :: rest)
      (leaf (SchemaPass.fieldProperty name field.name type field.description) :: ts)
  | inline {field : Field} {rest : List Field} {inner ts : List Tree} {name type nested : Json}
    {label : String} {schema : Schema}
    (hname : IsMadeSafe c (Identifier.pascal field.name) name)
    (hinline : field.type.inline? = some (label, schema))
    (hnested : IsMadeSafe c (TypeName.inlineClass label) nested)
    (htype : TypeName.ofType c.schemaIndex field.path nested field.type = .ok type)
    (hinner : FieldTrees schema.fields inner) (hrest : FieldTrees rest ts) :
    FieldTrees (field :: rest)
      (leaf (SchemaPass.fieldProperty name field.name type field.description) ::
        .node (Declaration.ofClass nested [] schema.description) inner :: ts)

/-- The base types of the classes of schemas. -/
def Context.schemaBases : List Json :=
  if c.config.schemaBaseInterface.truthy then [c.config.schemaBaseInterface] else []

/-- The property that the interface of schemas asks for. -/
def etagProperty : Declaration :=
  { name := "ETag", modifiers := [.virtual], comment := .str "The ETag of the item."
    body := .property { type := "string" } }

/-- **The class of a schema.** -/
inductive SchemaTree (s : Schema) : Tree → Prop
  | intro {name comment : Json} {fields rest : List Tree}
    (hname : c.naming.schemas.find? s.name = some name) (hfields : FieldTrees c s.fields fields)
    (hrest : ∀ t ∈ rest, t = leaf etagProperty) :
    SchemaTree s (.node (Declaration.ofClass name c.schemaBases comment) (fields ++ rest))

/-- What the class of a schema has after the members for the fields: the property that the
interface of schemas asks for, if there is an interface and no member has its name. -/
inductive ETagTrees (fields : List Tree) : List Tree → Prop
  | added (hinterface : c.config.schemaBaseInterface.truthy = true)
    (hfree : ∀ t ∈ fields, t.name ≠ "ETag") : ETagTrees fields [leaf etagProperty]
  | taken {t : Tree} (ht : t ∈ fields) (hname : t.name = "ETag") : ETagTrees fields []
  | none (hinterface : c.config.schemaBaseInterface.truthy = false) : ETagTrees fields []

/-- The words that the names of the members of a schema class have to avoid. -/
def Context.schemaWords : List Json :=
  if c.config.schemaBaseInterface.truthy then schemaBaseMembers else []

/-- **The class of a schema in full**: which names the members for the fields spare, and what
comes after them. -/
inductive SchemaForm (s : Schema) : Tree → Prop
  | intro {name comment : Json} {fields rest : List Tree}
    (hname : c.naming.schemas.find? s.name = some name) (hfields : FieldTrees c s.fields fields)
    (hspares : ∀ t ∈ fields, Identifier.Spares c.suffix c.schemaWords t.name)
    (hrest : ETagTrees c fields rest) :
    SchemaForm s (.node (Declaration.ofClass name c.schemaBases comment) (fields ++ rest))

/-- The property for a parameter. -/
def IsParameter (location : String) (p : Parameter) (t : Tree) : Prop :=
  ∃ name type, IsMadeSafe c (Identifier.pascal p.name) name ∧
    RequestPass.parameterType c p (location ++ "." ++ p.name) = .ok type ∧
    t = leaf {
      name, modifiers := [.virtual], attributes := [RequestPass.parameterAttribute p]
      comment := p.description, body := .property { type } }

/-- The members for the body of a request. -/
inductive BodyTrees (location : String) : Option String → List Tree → Prop
  | none : BodyTrees location none []
  | some {schema : String} {type : Json}
    (htype : c.schemaIndex.className schema location = .ok type) :
    BodyTrees location (some schema) [
      leaf {
        name := "Body", modifiers := [.virtual]
        comment := .str "Gets or sets the body of this request.", body := .property { type } },
      leaf {
        name := "GetBody", access := .derived, modifiers := [.override]
        comment := .str "Returns the body of the request."
        body := .method { returnType := "object", statements := [.ret (.snippet "Body")] } }]

/-- The type of the response to a method. -/
inductive IsResponse (location : String) : Option String → Json → Prop
  | none : IsResponse location none (.str "string")
  | some {schema : String} {type : Json}
    (htype : c.schemaIndex.className schema location = .ok type) :
    IsResponse location (some schema) type

/-- A statement assigns the value of a parameter to a member of the type of the parameter. -/
def IsAssigned (statements : List Statement) (a : Argument) (t : Tree) : Prop :=
  t.decl.type? = some a.type ∧ .assign t.name (.snippet a.name) ∈ statements

/-- The constructor of a request class takes the service, and then values that it assigns to
some members. -/
def IsRequestConstructor (members : List Tree) (d : Declaration) : Prop :=
  ∃ b, d.body = .method b ∧ b.isConstructor = true ∧
    ∀ a ∈ b.parameters.drop 1, ∃ t ∈ members, IsAssigned b.statements a t

/-- The properties with which a request class tells its method. -/
def headTrees (m : Method) : List Tree :=
  [leaf (RequestPass.overriding "MethodName" (.str m.name)),
    leaf (RequestPass.overriding "HttpMethod" m.httpMethod),
    leaf (RequestPass.overriding "RestPath" m.path)]

/-- The dotted path of a method. -/
def Resource.locationOf (r : Resource) (m : Method) : String :=
  r.path ++ "." ++ m.name

/-- **The class of a request.** -/
inductive RequestTree (r : Resource) (m : Method) : Tree → Prop
  | intro {name comment response : Json} {text : String} {parameters body : List Tree}
    {constructor : Declaration}
    (hname : IsMadeSafe c (Identifier.pascal m.name ++ "Request") name)
    (hresponse : IsResponse c (r.locationOf m) m.response response)
    (htext : response.written = .ok text)
    (hparameters : List.Forall₂ (IsParameter c (r.locationOf m)) m.parameters parameters)
    (hbody : BodyTrees c (r.locationOf m) m.request body)
    (hconstructor : IsRequestConstructor (parameters ++ body) constructor) :
    RequestTree r m (.node
      (Declaration.ofClass name [.str (c.config.requestBaseClass.text ++ "<" ++ text ++ ">")]
        comment)
      (headTrees m ++ parameters ++ body ++ [leaf constructor]))

/-- The method of a resource class that makes a request: it has the parameters of a constructor
of the request class, without the first. -/
def IsFactory (m : Method) (request : Tree) (d : Declaration) : Prop :=
  ∃ b, d.body = .method b ∧ b.isConstructor = false ∧ b.returnType = request.name ∧
    IsMadeSafe c (Identifier.pascal m.name) d.name ∧
    ∀ a ∈ b.parameters, ∃ t ∈ request.members, ∃ b', t.decl.body = .method b' ∧
      b'.isConstructor = true ∧
      ∃ a' ∈ b'.parameters.drop 1, a'.name = a.name ∧ a'.type = a.type

/-- **The class and the factory of a method.** -/
inductive MethodTrees (r : Resource) (m : Method) : List Tree → Prop
  | intro {request : Tree} {factory : Declaration} (hrequest : RequestTree c r m request)
    (hfactory : IsFactory c m request factory) : MethodTrees r m [request, leaf factory]

/-- The members of a resource class that do not depend on its methods. -/
structure OwnTrees (r : Resource) (ts : List Tree) : Prop where
  aside : ∀ t ∈ ts, t.IsAside
  wireName : ∃ t ∈ ts, t.name = "Resource" ∧ t.decl.body = .constant "string" (.str r.name)

end Shapes

theorem SchemaForm.schemaTree {c : Context} {s : Schema} {t : Tree} (h : SchemaForm c s t) :
    SchemaTree c s t := by
  obtain ⟨hname, hfields, -, hrest⟩ := h
  refine .intro hname hfields fun t ht => ?_
  cases hrest with
  | added => exact List.mem_singleton.1 ht
  | taken => cases ht
  | none => cases ht

/-! ### Shapes of members -/

variable {c : Context} {front : List Declaration} {f : List Tree} {o : Int}

theorem Build.onModel_eq_ok {α : Type} {change : CodeModel.Change α} {w w' : Workbench} {a : α} :
    onModel change w = .ok a w' ↔ ∃ m, change w.model = .ok a m ∧ { w with model := m } = w' := by
  rw [onModel]
  cases change w.model <;> simp

theorem Build.look_eq_ok {α : Type} {fn : CodeModel → Outcome α} {w w' : Workbench} {a : α} :
    look fn w = .ok a w' ↔ fn w.model = .ok a ∧ w = w' := by
  have hlook : look fn w = (liftM (fn w.model) : Build α) w := rfl
  rw [hlook, Session.lift_eq_ok]

theorem Context.resourceClass_eq_ok {path : String} {name : Json} :
    c.resourceClass path = .ok name ↔ c.naming.resources.find? path = some name := by
  rw [Context.resourceClass]
  cases c.naming.resources.find? path <;> simp [Outcome.fault]

/-! ### Decorators of schema classes -/

namespace SchemaPass

/-- The name of a class for an object described on the spot is a text, and not empty. -/
theorem exists_of_isMadeSafe_inlineClass {label : String} {name : Json}
    (h : IsMadeSafe c (TypeName.inlineClass label) name) :
    ∃ s : String, name = .str s ∧ s ≠ "" := by
  obtain ⟨reserved, h⟩ := h
  have hmem : 'D' ∈ Identifier.kept (TypeName.inlineClass label) := by
    refine List.mem_filter.2 ⟨?_, by decide⟩
    rw [TypeName.inlineClass, String.toList_append]
    exact List.mem_append_right _ (by decide)
  obtain ⟨front, back, rfl, -⟩ := Identifier.exists_of_safeWith (List.ne_nil_of_mem hmem) h
  refine ⟨_, rfl, fun hempty => ?_⟩
  have hchar : 'D' ∈ (front ++ String.ofList (Identifier.kept (TypeName.inlineClass label)) ++
      back).toList := by
    simp [hmem]
  rw [hempty] at hchar
  simp at hchar

theorem truthy_of_isMadeSafe_inlineClass {label : String} {name : Json}
    (h : IsMadeSafe c (TypeName.inlineClass label) name) : name.truthy = true := by
  obtain ⟨s, rfl, hs⟩ := exists_of_isMadeSafe_inlineClass h
  rw [Json.truthy, Bool.not_eq_true', ← Bool.not_eq_true, String.isEmpty_iff]
  exact hs

mutual

theorem adds_addFields (reserved : List Json) (o : Int) :
    ∀ (fields : List Field) (front : List Declaration) (f : List Tree),
      Adds front (some o) f (addFields c reserved o fields) fun _ g =>
        FieldTrees c fields g ∧ ∀ t ∈ g, Identifier.Spares c.suffix reserved t.name
  | [], _, _ => .pure ⟨.nil, nofun⟩
  | ⟨wireName, type, description, required, path⟩ :: rest, front, f => by
    rw [addFields]
    refine .safeNameAmong fun name reserved₁ hreserved hname => ?_
    have hspares := (Identifier.spares_safeWith hname).mono hreserved
    split
    · rename_i hinline
      refine .lift fun typeName htype => ?_
      refine .bind (.member rfl) ?_
      rintro _ _ rfl
      refine (adds_addFields reserved o rest front _).imp fun _ g hg => ?_
      exact ⟨.plain ⟨reserved₁, hname⟩ hinline htype hg.1,
        List.forall_mem_cons.2 ⟨hspares, hg.2⟩⟩
    · rename_i label schema hinline
      refine .safeNameAmong fun nested reserved₂ hreserved₂ hnested => ?_
      have hsparesNested := (Identifier.spares_safeWith hnested).mono
        (List.Subset.trans (List.subset_append_left reserved [name]) hreserved₂)
      refine .lift fun typeName htype => ?_
      refine .bind (.member rfl) ?_
      rintro _ _ rfl
      have hsafe : IsMadeSafe c (TypeName.inlineClass label) nested := ⟨reserved₂, hnested⟩
      rw [if_pos (truthy_of_isMadeSafe_inlineClass hsafe)]
      refine .bind (adds_addInline o nested type hinline front _) ?_
      rintro _ _ ⟨inner, rfl, hinner⟩
      refine (adds_addFields reserved o rest front _).imp fun _ g hg => ?_
      exact ⟨.inline ⟨reserved₁, hname⟩ hinline hsafe htype hinner hg.1,
        List.forall_mem_cons.2 ⟨hspares, List.forall_mem_cons.2 ⟨hsparesNested, hg.2⟩⟩⟩

theorem adds_addInline (o : Int) (name : Json) :
    ∀ (type : TypeRef) {label : String} {schema : Schema}, type.inline? = some (label, schema) →
      ∀ (front : List Declaration) (f : List Tree),
        Adds front (some o) f (addInline c o name type) fun _ g => ∃ inner,
          g = [.node (Declaration.ofClass name [] schema.description) inner] ∧
          FieldTrees c schema.fields inner
  | .object _ ⟨_, description, fields, _⟩, label, schema, h, front, f => by
    cases h
    rw [addInline]
    exact .inside rfl fun _ front' _ _ =>
      (adds_addFields [] _ fields front' []).imp fun _ g hg => hg.1
  | .array items, label, schema, h, front, f => by
    rw [addInline]
    exact adds_addInline o name items h front f
  | .map values, label, schema, h, front, f => by
    rw [addInline]
    exact adds_addInline o name values h front f
  | .primitive .., _, _, h, _, _ => by cases h
  | .ref _, _, _, h, _, _ => by cases h
  | .any _, _, _, h, _, _ => by cases h

end

theorem adds_addProperties (s : Schema) :
    Adds front (some o) f (addProperties (some s) o c) fun _ g =>
      FieldTrees c s.fields g ∧ ∀ t ∈ g, Identifier.Spares c.suffix c.schemaWords t.name := by
  refine .lift fun schema hschema => ?_
  cases hschema
  exact adds_addFields _ o s.fields front f

theorem adds_addETag {p : Nat} {d : Declaration} (hp : front.length = p + 1)
    (hd : front[p]? = some d) :
    Adds front (some (p : Int)) f (addETag p c) fun _ g => ETagTrees c f g := by
  refine .ite (fun hinterface => ?_) fun hinterface => .pure (.none hinterface)
  refine .after (P := fun found => (found = none ∧ ∀ t ∈ f, t.name ≠ "ETag") ∨
    ∃ i, found = some i ∧ ∃ t ∈ f, t.name = "ETag") (fun w hw => .look fun found hfound => ?_)
    fun found hfound => ?_
  · rcases hw.findMember? (hw.hasEmpty hp hd) hfound with hnone | ⟨i, _, t, hsome, -, ht, -, hname⟩
    · exact .inl hnone
    · exact .inr ⟨i, hsome, t, ht, hname⟩
  · rcases hfound with ⟨rfl, hfree⟩ | ⟨i, rfl, t, ht, hname⟩
    · refine (Adds.member rfl).imp ?_
      rintro _ _ rfl
      exact .added hinterface hfree
    · exact .pure (.taken ht hname)

theorem model_of_addDocumentation {s? : Option Schema} {p : Int} {v v' : Workbench}
    (h : addDocumentation s? p v = .ok () v') :
    v'.model = v.model ∨ ∃ comment, CodeModel.setComment p comment v.model = .ok () v'.model := by
  obtain ⟨d, _, hd, h⟩ := Session.bind_eq_ok.1 h
  obtain ⟨-, rfl⟩ := Build.look_eq_ok.1 hd
  obtain ⟨s, _, hs, h⟩ := Session.bind_eq_ok.1 h
  obtain ⟨-, rfl⟩ := Session.lift_eq_ok.1 hs
  split at h
  · obtain ⟨m, hm, rfl⟩ := Build.onModel_eq_ok.1 h
    exact .inr ⟨_, hm⟩
  · cases h
    exact .inl rfl

end SchemaPass

/-! ### Decorators of resource classes and of the service class -/

theorem isAside_property {name comment : Json} {access : Access} {modifiers : List Modifier}
    {p : PropertyBody} (hp : p.hasSet = false) :
    (leaf { name, access, modifiers, comment, body := .property p }).IsAside where
  members := rfl
  noClass := rfl
  property q hq := by
    cases hq
    exact hp
  method := nofun

theorem isAside_constant {name comment type value : Json} {access : Access} :
    (leaf { name, access, comment, body := .constant type value }).IsAside where
  members := rfl
  noClass := rfl
  property := nofun
  method := nofun

theorem isAside_constructor {name comment : Json} {b : MethodBody}
    (hb : b.isConstructor = true) (hparameters : b.parameters.length ≤ 1) :
    (leaf { name, comment, body := .method b }).IsAside where
  members := rfl
  noClass := rfl
  property := nofun
  method b' hb' := by
    cases hb'
    exact ⟨hb, hparameters⟩

theorem forall_mem_append_singleton {P : Tree → Prop} {t : Tree} {g : List Tree} (ht : P t)
    (hg : ∀ u ∈ g, P u) : ∀ u ∈ [t] ++ g, P u :=
  List.forall_mem_cons.2 ⟨ht, hg⟩

namespace ResourcePass

theorem adds_addSubresources (rs : List Resource) :
    Adds front (some o) f (addSubresources o c rs) fun _ g => ∀ t ∈ g, t.IsAside := by
  induction rs generalizing f with
  | nil => exact .pure nofun
  | cons r rest ih =>
    refine .lift fun ignored _ => ?_
    dsimp only
    refine .ite (fun _ => ?_) fun _ => ih
    refine .lift fun type _ => ?_
    refine .after (P := fun _ => True) (fun _ _ => .look (by simp)) fun names _ => ?_
    refine .ite (fun _ => ?_) fun _ => ih
    refine .safeName fun name _ _ => ?_
    refine .bind (.member rfl) ?_
    rintro _ _ rfl
    exact ih.imp fun _ g hg => forall_mem_append_singleton (isAside_property rfl) hg

theorem adds_addService (r : Resource) :
    Adds front (some o) f (addService r o c) fun _ g => ∀ t ∈ g, t.IsAside := by
  refine .after (P := fun _ => True) (fun _ _ => .look (by simp)) fun own _ => ?_
  refine .bind (.member rfl) ?_
  rintro _ _ rfl
  refine .after (P := fun _ => True) (fun _ _ => .look (by simp)) fun members _ => ?_
  refine .lift fun created _ => ?_
  refine (Adds.member rfl).imp ?_
  rintro _ _ rfl
  refine forall_mem_append_singleton (isAside_property rfl) ?_
  simpa using isAside_constructor rfl (by simp)

theorem forM_registered (r : Resource) (o : Int) (c : Context) :
    (Pipeline.registered.resource.forM fun pass => pass.run r o c) = (do
      addWireName r o
      addSubresources o c r.resources
      addService r o c) := by
  simp [Pipeline.registered, registry, run]

/-- The decorators of a resource class add its own members. -/
theorem adds_registered (r : Resource) :
    Adds front (some o) f (Pipeline.registered.resource.forM fun pass => pass.run r o c)
      fun _ g => OwnTrees r g := by
  rw [forM_registered]
  refine .bind (.member rfl) ?_
  rintro _ _ rfl
  refine .bind (adds_addSubresources r.resources) fun _ properties hproperties => ?_
  refine (adds_addService r).imp fun _ rest hrest => ⟨?_, _, List.mem_cons_self, rfl, rfl⟩
  exact forall_mem_append_singleton isAside_constant
    (List.forall_mem_append.2 ⟨hproperties, hrest⟩)

end ResourcePass

/-- **A member of the service class**: one aside, or a class of such members. -/
def IsServiceMember (t : Tree) : Prop :=
  t.IsAside ∨ ∃ name comment ms, t = .node (Declaration.ofClass name [] comment) ms ∧
    ∀ u ∈ ms, u.IsAside

namespace ServicePass

theorem adds_addConstants (service : Service) :
    Adds front (some o) f (addConstants service o) fun _ g => ∀ t ∈ g, t.IsAside := by
  refine .bind (.member rfl) ?_
  rintro _ _ rfl
  refine .bind (.member rfl) ?_
  rintro _ _ rfl
  refine .ite (fun _ => ?_) fun _ => .pure ?_
  · refine (Adds.member rfl).imp ?_
    rintro _ _ rfl
    simpa using ⟨isAside_constant, isAside_property rfl, isAside_property rfl⟩
  · simpa using ⟨isAside_constant, isAside_property rfl⟩

theorem adds_addScopeConstants (scopes : List (String × Json)) :
    Adds front (some o) f (addScopeConstants c o scopes) fun _ g => ∀ t ∈ g, t.IsAside := by
  induction scopes generalizing f with
  | nil => exact .pure nofun
  | cons scope rest ih =>
    refine .safeName fun name _ _ => ?_
    refine .bind (.member rfl) ?_
    rintro _ _ rfl
    exact ih.imp fun _ g hg => forall_mem_append_singleton isAside_constant hg

theorem adds_addScopes (service : Service) :
    Adds front (some o) f (addScopes service o c) fun _ g => ∀ t ∈ g, IsServiceMember t := by
  refine .ite (fun _ => ?_) fun _ => .pure nofun
  refine .safeName fun name _ _ => ?_
  refine (Adds.inside rfl fun _ _ _ _ => adds_addScopeConstants service.scopes).imp ?_
  rintro _ _ ⟨ms, rfl, hms⟩ t ht
  exact .inr ⟨_, _, ms, List.mem_singleton.1 ht, hms⟩

theorem adds_addResources (rs : List Resource) :
    Adds front (some o) f (addResources o c rs) fun _ g => ∀ t ∈ g, t.IsAside := by
  induction rs generalizing f with
  | nil => exact .pure nofun
  | cons r rest ih =>
    refine .lift fun ignored _ => ?_
    dsimp only
    refine .ite (fun _ => ?_) fun _ => ih
    refine .lift fun type _ => ?_
    refine .after (P := fun _ => True) (fun _ _ => .look (by simp)) fun names _ => ?_
    refine .ite (fun _ => ?_) fun _ => ih
    refine .safeName fun name _ _ => ?_
    refine .bind (.member rfl) ?_
    rintro _ _ rfl
    exact ih.imp fun _ g hg => forall_mem_append_singleton (isAside_property rfl) hg

theorem adds_addConstructor (service : Service) :
    Adds front (some o) f (addConstructor service o c) fun _ g => ∀ t ∈ g, t.IsAside := by
  refine .after (P := fun _ => True) (fun _ _ => .look (by simp)) fun own _ => ?_
  refine .after (P := fun _ => True) (fun _ _ => .look (by simp)) fun members _ => ?_
  refine .lift fun statements _ => ?_
  refine (Adds.member rfl).imp ?_
  rintro _ _ rfl
  simpa using isAside_constructor rfl (by simp)

theorem forM_registered (service : Service) (o : Int) (c : Context) :
    (Pipeline.registered.service.forM fun pass => pass.run service o c) = (do
      addConstants service o
      addScopes service o c
      addResources o c service.resources
      addConstructor service o c) := by
  simp [Pipeline.registered, registry, run]

/-- The decorators of the service class add members of it. -/
theorem adds_registered (service : Service) :
    Adds front (some o) f (Pipeline.registered.service.forM fun pass => pass.run service o c)
      fun _ g => ∀ t ∈ g, IsServiceMember t := by
  rw [forM_registered]
  refine .bind (adds_addConstants service) fun _ constants hconstants => ?_
  refine .bind (adds_addScopes service) fun _ scopes hscopes => ?_
  refine .bind (adds_addResources service.resources) fun _ resources hresources => ?_
  refine (adds_addConstructor service).imp fun _ rest hrest t ht => ?_
  simp only [List.mem_append] at ht
  rcases ht with ht | ht | ht | ht
  · exact .inl (hconstants t ht)
  · exact hscopes t ht
  · exact .inl (hresources t ht)
  · exact .inl (hrest t ht)

end ServicePass

/-! ### Schemas -/

namespace Plan

variable {plan : Plan} (hplan : plan.pipeline = .registered)

include hplan

theorem adds_buildSchema (s : Schema) :
    Adds front none f (plan.buildSchema s) fun _ g =>
      ∃ t, g = [t] ∧ SchemaForm plan.context s t := by
  have hforM (p : Int) : (plan.pipeline.schema.forM fun pass =>
      pass.run (some s) p plan.context) = (do
        SchemaPass.addDocumentation (some s) p
        SchemaPass.addProperties (some s) p plan.context
        SchemaPass.addETag p plan.context) := by
    rw [hplan]
    simp [Pipeline.registered, SchemaPass.registry, SchemaPass.run]
  rw [buildSchema]
  dsimp only
  split
  · rename_i name hname
    simp only [hforM]
    refine (Adds.inside_described (Q := fun _ ms => ∃ fields rest, ms = fields ++ rest ∧
      FieldTrees plan.context s.fields fields ∧
      (∀ t ∈ fields, Identifier.Spares plan.context.suffix plan.context.schemaWords t.name) ∧
      ETagTrees plan.context fields rest) rfl
      (fun _ _ _ => SchemaPass.model_of_addDocumentation) ?_).imp ?_
    · intro p hp front' comment hlength hget
      refine .bind (SchemaPass.adds_addProperties s) fun _ fields hfields => ?_
      refine (SchemaPass.adds_addETag hlength hget).imp fun _ rest hrest => ?_
      exact ⟨fields, rest, rfl, hfields.1, hfields.2, hrest⟩
    · rintro _ _ ⟨comment, _, rfl, fields, rest, rfl, hfields, hspares, hrest⟩
      exact ⟨_, rfl, .intro hname hfields hspares hrest⟩
  · exact .throw

end Plan

end ClientGen
