import ClientGen.Proofs.Build.Complete
import ClientGen.Proofs.Build.Mentions

/-!
# Schema classes mirror schemas

The class of a schema has a property for each field, in order, that tells the name of the field on
the wire. The type of the property is the type of the field as it is written in C#; where the field
leads to an object described on the spot, through any number of lists and tables, that object is
written as the name of a class, and this class is the very next member and mirrors the object in
the same way (`ClientGen.MirrorsFields`). The only other member is the property that the interface
of schemas asks for, and it is there exactly if there is an interface
(`ClientGen.MirrorsSchema`). The names of the members of such a class spare the name of that
property, so it is never taken.

The names on the wire, with those of the objects inside, form a tree (`ClientGen.WireTree`). It can
be read from the members of the class alone, since a class among the members always belongs to the
property before it.
-/

namespace ClientGen

open Build Decorator ClientGen.Tree

/-! ### Trees of names on the wire -/

/-- A field with its name on the wire and, if it leads to an object described on the spot, the
fields of that. -/
inductive WireTree
  | field (name : String) (inside : Option (List WireTree)) : WireTree

mutual

/-- The fields of the object described on the spot that a type leads to. -/
def TypeRef.wireInside : TypeRef → Option (List WireTree)
  | .object _ ⟨_, _, fields, _⟩ => some (Field.wireTrees fields)
  | .array items => items.wireInside
  | .map values => values.wireInside
  | _ => none

/-- **The names of fields on the wire**, with those inside. -/
def Field.wireTrees : List Field → List WireTree
  | [] => []
  | ⟨name, type, _, _, _⟩ :: rest => .field name type.wireInside :: Field.wireTrees rest

end

theorem Field.wireTrees_cons (field : Field) (rest : List Field) :
    Field.wireTrees (field :: rest) =
      .field field.name field.type.wireInside :: Field.wireTrees rest := by
  obtain ⟨name, type, description, required, path⟩ := field
  rfl

theorem TypeRef.wireInside_eq (type : TypeRef) :
    type.wireInside = type.inline?.map fun p => Field.wireTrees p.2.fields := by
  fun_induction inline? type with
  | case1 name schema =>
    obtain ⟨_, _, _, _⟩ := schema
    simp [wireInside]
  | case2 items ih =>
    rw [wireInside]
    exact ih
  | case3 values ih =>
    rw [wireInside]
    exact ih
  | case4 type hobject harray hmap =>
    cases type with
    | object name schema => exact (hobject name schema rfl).elim
    | array items => exact (harray items rfl).elim
    | map values => exact (hmap values rfl).elim
    | _ => simp [wireInside]

/-- The name on the wire that a declaration tells in its attribute. -/
def Declaration.jsonName? (d : Declaration) : Option String :=
  match d.attribute? jsonProperty with
  | some ⟨_, [.literal (.str name)]⟩ => some name
  | _ => none

mutual

/-- **The names on the wire as a class tells them.** -/
def Tree.wireTrees : Tree → List WireTree
  | .node _ members => Tree.wireTreesOf members

/-- The names on the wire as members tell them: a class right after a property has those inside. -/
def Tree.wireTreesOf : List Tree → List WireTree
  | [] => []
  | t :: rest =>
    match t.decl.jsonName? with
    | some name => .field name (Tree.wireInside rest) :: Tree.wireTreesOf rest
    | none => Tree.wireTreesOf rest

/-- The names on the wire in a class that comes first among some members. -/
def Tree.wireInside : List Tree → Option (List WireTree)
  | [] => none
  | t :: _ => if t.isClass then some t.wireTrees else none

end

theorem Tree.wireTrees_eq (t : Tree) : t.wireTrees = Tree.wireTreesOf t.members := by
  obtain ⟨d, ms⟩ := t
  rfl

/-! ### Classes that mirror schemas -/

/-- **The property of a field**: one with an automatic getter and setter that tells the name of the
field on the wire. -/
structure IsFieldProperty (field : Field) (type : Json) (t : Tree) : Prop where
  body : t.decl.body =
    .property { type, hasGet := true, hasSet := true, getter := [], setter := [] }
  attributes : t.decl.attributes = [⟨jsonProperty, [.literal (.str field.name)]⟩]
  members : t.members = []

/-- **The class of an object described on the spot**: one with a name and nothing more to it than
its members. -/
structure IsObjectClass (name : String) (t : Tree) : Prop where
  named : t.isClassNamed name = true
  bases : t.baseTypes? = some []
  attributes : t.decl.attributes = []

section Mirrors

variable (c : Context)

/-- **Members mirror fields**: there is a property for each, and right after the property of a
field that leads to an object a class that mirrors the object. -/
inductive MirrorsFields : List Field → List Tree → Prop
  | nil : MirrorsFields [] []
  | plain {field : Field} {rest : List Field} {type : Json} {property : Tree} {ts : List Tree}
    (hproperty : IsFieldProperty field type property) (hinline : field.type.inline? = none)
    (htype : TypeName.ofType c.schemaIndex field.path .null field.type = .ok type)
    (hrest : MirrorsFields rest ts) : MirrorsFields (field :: rest) (property :: ts)
  | inline {field : Field} {rest : List Field} {type : Json} {property nested : Tree}
    {ts : List Tree} {label name : String} {schema : Schema}
    (hproperty : IsFieldProperty field type property)
    (hinline : field.type.inline? = some (label, schema))
    (hwritten : type = .str (field.type.wrap name)) (hclass : IsObjectClass name nested)
    (hinner : MirrorsFields schema.fields nested.members) (hrest : MirrorsFields rest ts) :
    MirrorsFields (field :: rest) (property :: nested :: ts)

/-- **A class mirrors a schema.** -/
structure MirrorsSchema (s : Schema) (t : Tree) : Prop where
  name : c.naming.schemas.find? s.name = some t.name
  bases : t.baseTypes? = some c.schemaBases
  members : ∃ fields, MirrorsFields c s.fields fields ∧ t.members = fields ++
    if c.config.schemaBaseInterface.truthy then [leaf etagProperty] else []
  wireNames : t.members.filterMap (fun u => u.decl.jsonName?) = s.fields.map Field.name
  wireTrees : t.wireTrees = Field.wireTrees s.fields

end Mirrors

variable {c : Context}

/-! ### The types of properties -/

/-- A type that leads to an object is written as the class given for the object, with its lists and
tables around it. -/
theorem TypeName.ofType_of_inline? {index : SchemaIndex} {location : Json} {name label : String}
    {schema : Schema} (hname : (Json.str name).truthy = true) :
    ∀ {type : TypeRef} {text : Json}, type.inline? = some (label, schema) →
      ofType index location (.str name) type = .ok text → text = .str (type.wrap name)
  | .object _ _, text, _, h => by
    rw [ofType, if_pos hname] at h
    cases h
    rfl
  | .array items, text, hinline, h => by
    obtain ⟨item, hitem, h⟩ := Outcome.bind_eq_ok.1 h
    obtain ⟨written, hwritten, h⟩ := Outcome.bind_eq_ok.1 h
    have hinner : items.inline? = some (label, schema) := hinline
    obtain rfl := ofType_of_inline? hname hinner hitem
    cases hwritten
    cases h
    rfl
  | .map values, text, hinline, h => by
    obtain ⟨value, hvalue, h⟩ := Outcome.bind_eq_ok.1 h
    obtain ⟨written, hwritten, h⟩ := Outcome.bind_eq_ok.1 h
    have hinner : values.inline? = some (label, schema) := hinline
    obtain rfl := ofType_of_inline? hname hinner hvalue
    cases hwritten
    cases h
    rfl
  | .primitive .., _, hinline, _ => by cases hinline
  | .ref _, _, hinline, _ => by cases hinline
  | .any _, _, hinline, _ => by cases hinline

theorem isFieldProperty_fieldProperty (field : Field) (name type : Json) :
    IsFieldProperty field type
      (leaf (SchemaPass.fieldProperty name field.name type field.description)) :=
  ⟨rfl, rfl, rfl⟩

/-- **What a building adds for fields mirrors them.** -/
theorem mirrorsFields_of_fieldTrees {fields : List Field} {ts : List Tree}
    (h : FieldTrees c fields ts) : MirrorsFields c fields ts := by
  induction h with
  | nil => exact .nil
  | plain _ hinline htype _ ih =>
    exact .plain (isFieldProperty_fieldProperty _ _ _) hinline htype ih
  | inline _ hinline hnested htype _ _ ihinner ih =>
    have htruthy := SchemaPass.truthy_of_isMadeSafe_inlineClass hnested
    obtain ⟨name, rfl, -⟩ := SchemaPass.exists_of_isMadeSafe_inlineClass hnested
    exact .inline (isFieldProperty_fieldProperty _ _ _) hinline
      (TypeName.ofType_of_inline? htruthy hinline htype)
      ⟨Tree.isClassNamed_iff.2 ⟨rfl, rfl⟩, rfl, rfl⟩ ihinner ih

/-! ### Reading the names back -/

theorem IsFieldProperty.jsonName? {field : Field} {type : Json} {t : Tree}
    (h : IsFieldProperty field type t) : t.decl.jsonName? = some field.name := by
  rw [Declaration.jsonName?, Declaration.attribute?, h.attributes]
  rfl

theorem IsFieldProperty.isClass {field : Field} {type : Json} {t : Tree}
    (h : IsFieldProperty field type t) : t.isClass = false := by
  rw [Tree.isClass, Declaration.isClass, Declaration.members?, h.body]
  rfl

theorem IsObjectClass.jsonName? {name : String} {t : Tree} (h : IsObjectClass name t) :
    t.decl.jsonName? = none := by
  rw [Declaration.jsonName?, Declaration.attribute?, h.attributes]
  rfl

theorem IsObjectClass.isClass {name : String} {t : Tree} (h : IsObjectClass name t) :
    t.isClass = true :=
  (Tree.isClassNamed_iff.1 h.named).1

namespace MirrorsFields

/-- No class comes first among members that mirror fields. -/
theorem wireInside_append {fields : List Field} {ts rest : List Tree}
    (h : MirrorsFields c fields ts) (hrest : Tree.wireInside rest = none) :
    Tree.wireInside (ts ++ rest) = none := by
  cases h with
  | nil => exact hrest
  | plain hproperty =>
    rw [List.cons_append, Tree.wireInside, hproperty.isClass]
    rfl
  | inline hproperty =>
    rw [List.cons_append, Tree.wireInside, hproperty.isClass]
    rfl

/-- **The names on the wire are read back** from members that mirror fields, if what comes after
them does not start with a class. -/
theorem wireTreesOf_append {fields : List Field} {ts : List Tree} (h : MirrorsFields c fields ts) :
    ∀ rest : List Tree, Tree.wireInside rest = none →
      Tree.wireTreesOf (ts ++ rest) = Field.wireTrees fields ++ Tree.wireTreesOf rest := by
  induction h with
  | nil => exact fun _ _ => rfl
  | @plain field fields type property ts hproperty hinline htype hfields ih =>
    intro rest hrest
    have hlater := hfields.wireInside_append hrest
    rw [List.cons_append, Tree.wireTreesOf, hproperty.jsonName?, Field.wireTrees_cons,
      TypeRef.wireInside_eq, hinline]
    dsimp only
    rw [hlater, ih rest hrest]
    rfl
  | @inline field fields type property nested ts label name schema hproperty hinline _ hclass _
      hfields ihinner ih =>
    intro rest hrest
    have hinside : nested.wireTrees = Field.wireTrees schema.fields := by
      rw [Tree.wireTrees_eq]
      simpa [Tree.wireTreesOf] using ihinner [] rfl
    have hnested : Tree.wireTreesOf (nested :: (ts ++ rest)) = Tree.wireTreesOf (ts ++ rest) := by
      rw [Tree.wireTreesOf, hclass.jsonName?]
    have hnext :
        Tree.wireInside (nested :: (ts ++ rest)) = some (Field.wireTrees schema.fields) := by
      rw [Tree.wireInside, hclass.isClass, if_pos rfl, hinside]
    rw [List.cons_append, List.cons_append, Tree.wireTreesOf, hproperty.jsonName?,
      Field.wireTrees_cons, TypeRef.wireInside_eq, hinline]
    dsimp only
    rw [hnext, hnested, ih rest hrest]
    rfl

/-- The properties tell the names of the fields, and no other member tells a name. -/
theorem filterMap_jsonName? {fields : List Field} {ts : List Tree} (h : MirrorsFields c fields ts) :
    ts.filterMap (fun u => u.decl.jsonName?) = fields.map Field.name := by
  induction h with
  | nil => rfl
  | plain hproperty _ _ _ ih =>
    rw [List.filterMap_cons, hproperty.jsonName?, List.map_cons, ← ih]
  | inline hproperty _ _ hclass _ _ _ ih =>
    rw [List.filterMap_cons, hproperty.jsonName?, List.filterMap_cons, hclass.jsonName?,
      List.map_cons, ← ih]

end MirrorsFields

/-! ### The property of the interface -/

/-- **The property of the interface is never taken**: it is there exactly if there is an
interface. -/
theorem eq_of_eTagTrees (hsuffix : c.suffix = .str "Value") {fields rest : List Tree}
    (hspares : ∀ t ∈ fields, Identifier.Spares c.suffix c.schemaWords t.name)
    (h : ETagTrees c fields rest) :
    rest = if c.config.schemaBaseInterface.truthy then [leaf etagProperty] else [] := by
  cases h with
  | added hinterface => rw [if_pos hinterface]
  | none hinterface => rw [hinterface, if_neg (by simp)]
  | @taken t ht hname =>
    rw [if_neg]
    intro hinterface
    have hword : Json.str "ETag" ∈ c.schemaWords := by
      rw [Context.schemaWords, if_pos hinterface]
      exact List.mem_singleton_self _
    obtain ⟨back, hback, hends⟩ := hspares t ht "ETag" hword hname
    -- a name that was made safe against `ETag` would end with the suffix
    rw [hsuffix] at hback
    cases hback
    exact absurd hends (by decide)

theorem mirrorsSchema_of_schemaForm (hsuffix : c.suffix = .str "Value") {s : Schema} {t : Tree}
    (h : SchemaForm c s t) : MirrorsSchema c s t := by
  obtain ⟨hname, hfields, hspares, hrest⟩ := h
  rename_i name comment fields rest
  have hmirrors := mirrorsFields_of_fieldTrees hfields
  have hetag := eq_of_eTagTrees hsuffix hspares hrest
  have hlast : ∀ u ∈ rest, u = leaf etagProperty := by
    rw [hetag]
    split <;> simp
  have hnames : rest.filterMap (fun u => u.decl.jsonName?) = [] := by
    rw [List.filterMap_eq_nil_iff]
    intro u hu
    rw [hlast u hu]
    rfl
  have hinside : Tree.wireInside rest = none ∧ Tree.wireTreesOf rest = [] := by
    rw [hetag]
    split <;> exact ⟨rfl, rfl⟩
  refine ⟨hname, rfl, ⟨fields, hmirrors, by rw [Tree.members_node, hetag]⟩, ?_, ?_⟩
  · rw [Tree.members_node, List.filterMap_append, hmirrors.filterMap_jsonName?, hnames,
      List.append_nil]
  · rw [Tree.wireTrees_eq, Tree.members_node, hmirrors.wireTreesOf_append rest hinside.1,
      hinside.2, List.append_nil]

/-! ### Documents -/

/-- **The classes of schemas mirror them.** The schemas that are kept are those whose steps meet no
issue, but for those to be left out. -/
theorem mirrorsSchemas_of_buildDocument {config : Config} {pipeline : Pipeline} {document : Json}
    {plan : Plan} {w : Workbench} (hconfig : config.HasDefaultDecorators)
    (hsuffix : config.uniqueSuffix = .str "Value")
    (hpipeline : Pipeline.ofConfig config = .ok pipeline)
    (h : buildDocument config pipeline document (Workbench.start document) = .ok plan w) :
    plan.context.config = config ∧
    ∃ l : Ledger, Document.read document (Workbench.start document).ledger =
        .ok plan.context.service l ∧
      ∃ (service : Tree) (resources schemas : List Tree),
        w.model.forest = service :: (resources ++ schemas) ∧
        List.Forall₂ (MirrorsSchema plan.context) (plan.keptServiceSchemas ⟨{}, l⟩) schemas := by
  obtain ⟨hcontext, l, hread, top, resources, schemas, hforest, -, hschemas⟩ :=
    exists_forms_of_buildDocument hconfig hpipeline h
  have hvalue : plan.context.suffix = .str "Value" := by rw [Context.suffix, hcontext, hsuffix]
  exact ⟨hcontext, l, hread, top, resources, schemas, hforest,
    hschemas.imp fun _ _ => mirrorsSchema_of_schemaForm hvalue⟩

/-- A document with a schema whose fields meet the property of the interface, each other, and the
classes of the objects described on the spot, and with one that refers to no schema. -/
def orderDocument : Json :=
  .object [("name", "shop"),
    ("schemas", .object [
      ("Order", .object [("properties", .object [
        ("ETag", .object [("type", "string")]),
        ("etag", .object [("type", "string"), ("format", "int64")]),
        ("lines", .object [("type", "array"), ("items", .object [("type", "object"),
          ("additionalProperties", .object [("properties", .object [
            ("ETag", .object [("type", "string")]),
            ("lines", .object [("properties", .object [
              ("count", .object [("type", "integer")])])])])])])]),
        ("linesData", .object [("type", "boolean")]),
        ("class", .object [("$ref", "Order")])])]),
      ("Lost", .object [("properties", .object [("of", .object [("$ref", "Nothing")])])])])]

/-- The default settings, but for the interface of schemas. -/
def orderConfig : Config :=
  { schemaBaseInterface := .str "IEntity" }

/-- The classes of the schemas of the document above mirror them. -/
theorem mirrorsSchemas_orderDocument :
    orderConfig.HasDefaultDecorators ∧ orderConfig.uniqueSuffix = .str "Value" ∧
    Pipeline.ofConfig orderConfig = .ok .registered ∧
    ∃ (plan : Plan) (w : Workbench),
      buildDocument orderConfig .registered orderDocument (Workbench.start orderDocument) =
        .ok plan w ∧
      w.model.nodes.toList.map (fun d => d.name.text) =
        ["ShopService", "Version", "Name", "ShopService", "Order", "ETagValue", "EtagValue",
         "Lines", "LinesData", "ETag", "Lines", "LinesDataValue", "Count", "LinesDataValue",
         "ClassValue", "ETag"] ∧
      ∃ (l : Ledger) (service : Tree) (resources schemas : List Tree),
        Document.read orderDocument (Workbench.start orderDocument).ledger =
          .ok plan.context.service l ∧
        w.model.forest = service :: (resources ++ schemas) ∧
        List.Forall₂ (MirrorsSchema plan.context) (plan.keptServiceSchemas ⟨{}, l⟩) schemas := by
  have hconfig : orderConfig.HasDefaultDecorators := ⟨rfl, rfl, rfl, rfl⟩
  have hrun : Session.passes (fun _ w => w.model.nodes.toList.map (fun d => d.name.text) ==
        ["ShopService", "Version", "Name", "ShopService", "Order", "ETagValue", "EtagValue",
         "Lines", "LinesData", "ETag", "Lines", "LinesDataValue", "Count", "LinesDataValue",
         "ClassValue", "ETag"])
      (buildDocument orderConfig .registered orderDocument (Workbench.start orderDocument)) =
        true := by
    decide +kernel
  obtain ⟨plan, w, hbuild, hnames⟩ := Session.exists_of_passes hrun
  obtain ⟨-, l, hread, service, resources, schemas, hforest, hschemas⟩ :=
    mirrorsSchemas_of_buildDocument hconfig rfl hconfig.ofConfig hbuild
  exact ⟨hconfig, rfl, hconfig.ofConfig, plan, w, hbuild, eq_of_beq hnames, l, service, resources,
    schemas, hread, hforest, hschemas⟩

end ClientGen
