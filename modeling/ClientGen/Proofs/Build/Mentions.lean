import ClientGen.Proofs.Build.Outline
import ClientGen.Proofs.Build.Usable
import ClientGen.Proofs.Code.Scopes
import ClientGen.Proofs.Naming.Stems

/-!
# What the types of a model stand for

The types that a model takes over from a document are those of the properties that can be set,
those of the parameters of constructors and methods, and the type argument of the base class
of a request (`ClientGen.Tree.writtenTypes`). Each of them stands for a type of the document,
and it is the properties with their keys that tell which (`ClientGen.Stands`): the property of
a field in the class of its schema, or in the class for an object described on the spot; the
property of a parameter or of a body in the class of a request; the base class of a request;
and a parameter that is assigned to one of these properties.

How the core of such a type is written, that is the type without the lists and tables around
it, is the same for all of them (`ClientGen.Context.Default.exists_ofType`).
-/

namespace ClientGen

open Build Decorator ClientGen.Tree

/-! ### Types and their cores -/

namespace TypeRef

/-- What a type is a list or a table of, through any number of lists and tables. -/
def core : TypeRef → TypeRef
  | .array items => items.core
  | .map values => values.core
  | type => type

/-- The type as it is written when its core is written as a name. -/
def wrap : TypeRef → String → String
  | .array items, name => TypeName.listOf (items.wrap name)
  | .map values, name => TypeName.tableOf (values.wrap name)
  | _, name => name

theorem inline?_eq_some_iff {label : String} {schema : Schema} :
    ∀ {type : TypeRef}, type.inline? = some (label, schema) ↔ type.core = .object label schema
  | .array items => by rw [inline?, core]; exact inline?_eq_some_iff
  | .map values => by rw [inline?, core]; exact inline?_eq_some_iff
  | .primitive .. => by simp [inline?, core]
  | .ref _ => by simp [inline?, core]
  | .object .. => by simp [inline?, core]
  | .any _ => by simp [inline?, core]

end TypeRef

/-- The type of a parameter, as a list if it may be given several times. -/
def Parameter.fullType (p : Parameter) : TypeRef :=
  if p.repeated then .array p.type else p.type

theorem ofType_fullType {c : Context} {p : Parameter} {location : String} {type : Json}
    (h : RequestPass.parameterType c p location = .ok type) :
    TypeName.ofType c.schemaIndex location .null p.fullType = .ok type := by
  obtain ⟨single, hsingle, h⟩ := Outcome.bind_eq_ok.1 h
  rw [Parameter.fullType]
  split at h
  · rw [if_pos ‹_›, TypeName.ofType, hsingle]
    exact h
  · rw [if_neg ‹_›, hsingle]
    exact h

/-! ### Default contexts -/

/-- A context of a building with the default settings. -/
structure Context.Default (c : Context) : Prop where
  config : c.config = {}
  usable : c.Usable
  named : ∀ s ∈ c.service.schemas, c.naming.schemas.has s.name = true
  injective : Naming.IsInjective c.naming.schemas
  resources : Naming.EntriesHave (IsStemmed "Value" "Resource") c.naming.resources

theorem default_planFor {pipeline : Pipeline} {service : Service} {plan : Plan}
    (h : planFor {} pipeline service = .ok plan) : plan.context.Default := by
  have hs : IsDisarming "Value" := by decide +kernel
  have husable := usable_planFor rfl hs h
  obtain ⟨naming, hnaming, h⟩ := Outcome.bind_eq_ok.1 h
  cases h
  refine ⟨rfl, husable, Naming.has_resolve hnaming, Naming.injective_resolve ?_ hnaming,
    Naming.isStemmed_resources hnaming⟩
  intro used candidate name hname
  obtain ⟨text, rfl, -⟩ := Naming.isUsable_choose hs hname
  simp

/-- What the core of a type is written as: a reference as the name of the class of a schema, an
object described on the spot as the class given for it, or as the class its field suggests. -/
def IsCoreName (c : Context) (inline : Json) : TypeRef → String → Prop
  | .ref target, name => ∃ s ∈ c.service.schemas, target = .str s.name ∧
      c.naming.schemas.find? s.name = some (.str name)
  | .object label _, name =>
    .str name = if inline.truthy then inline else .str (TypeName.inlineClass label)
  | _, _ => True

namespace Context.Default

variable {c : Context} (hc : c.Default)

include hc

theorem exists_className {target location type : Json}
    (h : c.schemaIndex.className target location = .ok type) :
    ∃ s ∈ c.service.schemas, target = .str s.name ∧ ∃ name, type = .str name ∧
      c.naming.schemas.find? s.name = some (.str name) := by
  obtain ⟨key, hkey, h⟩ := Outcome.bind_eq_ok.1 h
  obtain rfl := Json.asKey_eq_ok hkey
  split at h
  · rename_i hknown
    obtain ⟨_, hmem, hsame⟩ := List.any_eq_true.1 hknown
    obtain ⟨s, hs, rfl⟩ := List.mem_map.1 hmem
    obtain rfl := Json.eq_of_sameKey_str hsame
    obtain ⟨value, hvalue⟩ := Option.isSome_iff_exists.1 (hc.named s hs)
    obtain ⟨name, rfl, -⟩ := hc.usable.schemaClasses _ _ hvalue
    have hfound : c.schemaIndex.classes.find? s.name = some (.str name) := hvalue
    cases h
    exact ⟨s, hs, rfl, name, by rw [hfound, Option.getD_some], hvalue⟩
  · cases h

/-- **A type is written as its core, with its lists and tables around it.** -/
theorem exists_ofType {location inline : Json} (hinline : inline = .null ∨ ∃ n, inline = .str n) :
    ∀ {type : TypeRef} {text : Json},
      TypeName.ofType c.schemaIndex location inline type = .ok text →
      ∃ name, text = .str (type.wrap name) ∧ IsCoreName c inline type.core name
  | .primitive name format _, text, h => by
    obtain ⟨written, -, h⟩ := Outcome.bind_eq_ok.1 h
    cases h
    exact ⟨written, rfl, trivial⟩
  | .ref target, text, h => by
    obtain ⟨s, hs, htarget, name, rfl, hname⟩ := hc.exists_className h
    exact ⟨name, rfl, s, hs, htarget, hname⟩
  | .array items, text, h => by
    obtain ⟨item, hitem, h⟩ := Outcome.bind_eq_ok.1 h
    obtain ⟨written, hwritten, h⟩ := Outcome.bind_eq_ok.1 h
    obtain ⟨name, rfl, hname⟩ := exists_ofType hinline hitem
    cases hwritten
    cases h
    exact ⟨name, rfl, hname⟩
  | .map values, text, h => by
    obtain ⟨value, hvalue, h⟩ := Outcome.bind_eq_ok.1 h
    obtain ⟨written, hwritten, h⟩ := Outcome.bind_eq_ok.1 h
    obtain ⟨name, rfl, hname⟩ := exists_ofType hinline hvalue
    cases hwritten
    cases h
    exact ⟨name, rfl, hname⟩
  | .object label schema, text, h => by
    rcases hinline with rfl | ⟨n, rfl⟩
    · cases h
      exact ⟨_, rfl, rfl⟩
    · rw [TypeName.ofType] at h
      split at h
      · cases h
        exact ⟨n, rfl, (if_pos ‹_›).symm⟩
      · cases h
        exact ⟨_, rfl, (if_neg ‹_›).symm⟩
  | .any _, text, h => by
    cases h
    exact ⟨_, rfl, trivial⟩

end Context.Default

/-! ### Types that a model takes over from a document -/

/-- The argument of a type `base<argument>`. -/
def typeArgument? (base type : String) : Option String :=
  let start := (base ++ "<").toList
  if start.isPrefixOf type.toList then
    some (String.ofList (type.toList.drop start.length).dropLast)
  else none

theorem typeArgument?_append (base argument : String) :
    typeArgument? base (base ++ "<" ++ argument ++ ">") = some argument := by
  have hsplit : (base ++ "<" ++ argument ++ ">").toList =
      (base ++ "<").toList ++ (argument.toList ++ ['>']) := by simp
  have hprefix : (base ++ "<").toList.isPrefixOf
      ((base ++ "<").toList ++ (argument.toList ++ ['>'])) = true :=
    List.isPrefixOf_iff_prefix.2 (List.prefix_append _ _)
  rw [typeArgument?, hsplit, if_pos hprefix, List.drop_left, List.dropLast_concat,
    String.ofList_toList]

/-- **The types that a declaration takes over from a document**: that of a property that can be
set, those of the parameters of a method, or of a constructor after the service, and the
argument of the base class of a request. -/
def Tree.writtenTypes (base : String) (t : Tree) : List Json :=
  match t.decl.body with
  | .property p => if p.hasSet then [p.type] else []
  | .method b => (if b.isConstructor then b.parameters.drop 1 else b.parameters).map Argument.type
  | .ofClass [.str type] _ => ((typeArgument? base type).map Json.str).toList
  | _ => []

theorem Tree.writtenTypes_of_baseTypes? {t : Tree} {base type : String}
    (h : t.baseTypes? = some [.str type]) :
    t.writtenTypes base = ((typeArgument? base type).map Json.str).toList := by
  obtain ⟨⟨name, access, modifiers, attributes, comment, parent, body⟩, members⟩ := t
  cases body with
  | ofClass bases places =>
    obtain rfl := Option.some.inj h
    rfl
  | _ => cases h

theorem Tree.IsAside.writtenTypes {t : Tree} (h : t.IsAside) (base : String) :
    t.writtenTypes base = [] := by
  rw [Tree.writtenTypes]
  have hclass := h.noClass
  split
  · rename_i p hp
    rw [h.property p hp]
    rfl
  · rename_i b hb
    obtain ⟨hconstructor, hlength⟩ := h.method b hb
    rw [hconstructor, if_pos rfl, List.drop_eq_nil_of_le hlength, List.map_nil]
  · rename_i type members hbody
    rw [Tree.isClass, Declaration.isClass, Declaration.members?, hbody] at hclass
    cases hclass
  · rfl

/-! ### What they stand for -/

/-- What a type of a document is the type of. -/
inductive TypeRole
  /-- A field of a schema or of an object described on the spot. -/
  | field
  /-- A parameter of a method. -/
  | parameter
  /-- A request or a response. -/
  | message

section Standing

variable (c : Context) (forest : List Tree)

/-- **The class of a schema** is at the top level, and told from other classes by its base. -/
structure IsSchemaClass (s : Schema) (t : Tree) : Prop where
  member : t ∈ forest
  name : c.naming.schemas.find? s.name = some t.name
  bases : t.baseTypes? = some c.schemaBases

/-- **The class of an object**, with the classes around it: the class of a schema, or the class
for an object that describes a field, of which the property of the field has the type. -/
inductive ObjectClass : List Tree → Schema → Prop
  | schema {s : Schema} {t : Tree} (hs : s ∈ c.service.schemas)
    (ht : IsSchemaClass c forest s t) : ObjectClass [t] s
  | inline {e p u : Tree} {scopes : List Tree} {x y : Schema} {f : Field} {label name : String}
    {own : Json} (h : ObjectClass (e :: scopes) x) (hf : f ∈ x.fields)
    (hy : f.type.inline? = some (label, y)) (hp : p ∈ e.members)
    (hdecl : p.decl =
      SchemaPass.fieldProperty own f.name (.str (f.type.wrap name)) f.description)
    (hu : u ∈ e.members) (hnamed : u.isClassNamed name = true) : ObjectClass (u :: e :: scopes) y

/-- A class tells the key of a resource. -/
def TellsResource (r : Resource) (t : Tree) : Prop :=
  c.resourceClass r.path = .ok t.name ∧
    ∃ k ∈ t.members, k.name = "Resource" ∧ k.decl.body = .constant "string" (.str r.name)

/-- **The class of a resource**, with the classes around it. -/
inductive ResourceClass : List Tree → Resource → Prop
  | top {r : Resource} {t : Tree} (hr : r ∈ c.service.resources) (ht : t ∈ forest)
    (htells : TellsResource c r t) : ResourceClass [t] r
  | inner {e u : Tree} {scopes : List Tree} {r r' : Resource} (h : ResourceClass (e :: scopes) r)
    (hr : r' ∈ r.resources) (hu : u ∈ e.members) (htells : TellsResource c r' u) :
    ResourceClass (u :: e :: scopes) r'

/-- **The class of the requests of a method**, with the classes around it. -/
inductive RequestClass : List Tree → Method → Prop
  | intro {e q : Tree} {scopes : List Tree} {r : Resource} {m : Method}
    (h : ResourceClass c forest (e :: scopes) r) (hm : m ∈ r.methods) (hq : q ∈ e.members)
    (htells : leaf (RequestPass.overriding "MethodName" (.str m.name)) ∈ q.members) :
    RequestClass (q :: e :: scopes) m

/-- **What a written type stands for**: `Stands scopes t text role type` says that the
declaration `t` inside some scopes takes over a type of the document and writes it as `text`. -/
inductive Stands : List Tree → Tree → Json → TypeRole → TypeRef → Prop
  | field {e t : Tree} {scopes : List Tree} {x : Schema} {f : Field} {name text : Json}
    (h : ObjectClass c forest (e :: scopes) x) (ht : t ∈ e.members) (hf : f ∈ x.fields)
    (hdecl : t.decl = SchemaPass.fieldProperty name f.name text f.description) :
    Stands (e :: scopes) t text .field f.type
  | parameter {q t : Tree} {scopes : List Tree} {m : Method} {p : Parameter} {text : Json}
    (h : RequestClass c forest (q :: scopes) m) (ht : t ∈ q.members) (hp : p ∈ m.parameters)
    (htells : t.decl.attributes = [RequestPass.parameterAttribute p])
    (htype : t.decl.type? = some text) : Stands (q :: scopes) t text .parameter p.fullType
  | body {q t : Tree} {scopes : List Tree} {m : Method} {schema : String} {text : Json}
    (h : RequestClass c forest (q :: scopes) m) (ht : t ∈ q.members)
    (hrequest : m.request = some schema) (hname : t.name = "Body")
    (htype : t.decl.type? = some text) :
    Stands (q :: scopes) t text .message (.ref (.str schema))
  | response {q : Tree} {scopes : List Tree} {m : Method} {schema text : String}
    (h : RequestClass c forest (q :: scopes) m) (hresponse : m.response = some schema)
    (hbase : q.baseTypes? = some [.str (c.config.requestBaseClass.text ++ "<" ++ text ++ ">")]) :
    Stands scopes q (.str text) .message (.ref (.str schema))
  | constructor {q p k : Tree} {scopes : List Tree} {b : MethodBody} {a : Argument}
    {role : TypeRole} {type : TypeRef} (h : Stands (q :: scopes) p a.type role type)
    (hp : p ∈ q.members) (hk : k ∈ q.members) (hbody : k.decl.body = .method b)
    (hconstructor : b.isConstructor = true) (ha : a ∈ b.parameters.drop 1)
    (hassigned : IsAssigned b.statements a p) : Stands (q :: scopes) k a.type role type
  | factory {e q k t : Tree} {scopes : List Tree} {b b' : MethodBody} {a a' : Argument}
    {role : TypeRole} {type : TypeRef} (h : Stands (q :: e :: scopes) k a'.type role type)
    (hk : k ∈ q.members) (hbody' : k.decl.body = .method b')
    (hconstructor' : b'.isConstructor = true) (ha' : a' ∈ b'.parameters.drop 1)
    (ht : t ∈ e.members) (hbody : t.decl.body = .method b) (hconstructor : b.isConstructor = false)
    (hmakes : b.returnType = q.name) (ha : a ∈ b.parameters) (hname : a'.name = a.name)
    (htype : a'.type = a.type) : Stands (e :: scopes) t a.type role type

/-- How the core of a written type is named: a reference by the class of a schema, an object
described on the spot by a class of the innermost scope for a field, and by the class that its
field suggests for a parameter. -/
def IsNamed (scopes : List Tree) (role : TypeRole) : TypeRef → String → Prop
  | .ref target, name => ∃ s ∈ c.service.schemas, target = .str s.name ∧
      c.naming.schemas.find? s.name = some (.str name)
  | .object label _, name => match role with
    | .field => ∃ e ∈ scopes.head?, ∃ u ∈ e.members, u.isClassNamed name = true
    | _ => name = TypeName.inlineClass label
  | _, _ => True

/-- A written type, with what it stands for and how that is named. -/
structure IsUse (scopes : List Tree) (t : Tree) (text : Json) (role : TypeRole) (type : TypeRef)
    (name : String) : Prop where
  stands : Stands c forest scopes t text role type
  text : text = .str (type.wrap name)
  named : IsNamed c scopes role type.core name

/-- The stems of the names of nested classes. -/
def nestedStems : List String :=
  ["Data", "Request", "Resource"]

/-- A class that is no class of a schema and has a name with one of some stems. -/
def IsApart (stems : List String) (u : Tree) : Prop :=
  (∃ stem ∈ stems, IsStemmed "Value" stem u.name) ∧ u.baseTypes? ≠ some c.schemaBases

/-- The classes right inside a class are apart from those of schemas. -/
def NestsApart (stems : List String) (e : Tree) : Prop :=
  ∀ u ∈ e.members, u.isClass = true → IsApart c stems u

/-- **A written type is explained**: it is the type of texts, or it stands for a type of the
document. The classes around it nest only classes apart; for the type of a parameter or of a
message, no class for an object is right inside the innermost. -/
structure Explained (scopes : List Tree) (t : Tree) (text : Json) : Prop where
  use : text = .str "string" ∨ ∃ role type name, IsUse c forest scopes t text role type name ∧
    (role ≠ .field → ∀ e ∈ scopes.head?, NestsApart c ["Request", "Resource"] e)
  around : ∀ e ∈ scopes, NestsApart c nestedStems e

end Standing

end ClientGen
