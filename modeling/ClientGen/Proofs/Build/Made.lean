import ClientGen.Proofs.Build.Steady
import ClientGen.Proofs.Naming.Words

/-!
# What a building makes

The decorators put declarations together from few kinds of parts: names that were made
safe, names chosen for classes, a handful of fixed words; types of the document and of the
client library; literals; and the names of parameters. This module says so once, for
every configuration (`ClientGen.Made`), and goes through all steps of a building to see
that each of them is steady and adds declarations of this form only. What holds of every
generated declaration is then a matter of its parts.
-/

namespace ClientGen

open Build Decorator

/-! ### The parts of declarations -/

/-- The names that decorators give members as they are. -/
def fixedNames : List Json :=
  ["Version", "Name", "BaseUri", "Resource", serviceMember, "MethodName", "HttpMethod", "RestPath",
   "Body", "GetBody", "ETag"]

/-- The types that decorators use as they are. -/
def fixedTypes : List Json :=
  ["bool", "int", "double", "string", "object", "void", clientService]

/-- The texts of the target language that decorators use as they are. -/
def fixedSnippets : List Json :=
  ["this", "service", "initializer", "Body", serviceMember]

/-- Names that are different keys. -/
def AreApart (names : List Json) : Prop :=
  names.Pairwise fun v w => w.sameKey v = false

section Parts

variable (c : Context)

/-- **The names of a building**: names made safe, from the keywords and more, the names
chosen for classes, and fixed words. -/
inductive IsName : Json → Prop
  | safe {candidate : String} {name : Json} {reserved : List Json}
    (hk : Identifier.keywordValues ⊆ reserved)
    (h : Identifier.safeWith candidate c.suffix reserved = .ok name) : IsName name
  | service : IsName c.naming.serviceClass
  | schema {key : String} {name : Json} (h : c.naming.schemas.find? key = some name) : IsName name
  | resource {path : String} {name : Json} (h : c.naming.resources.find? path = some name) :
    IsName name
  | fixed {name : Json} (h : name ∈ fixedNames) : IsName name

/-- **The types of a building**: types of the document, lists of them, classes, and types of
the client library. -/
inductive IsType : Json → Prop
  | ofType {location inline type : Json} {t : TypeRef} (hi : inline = .null ∨ IsName c inline)
    (h : TypeName.ofType c.schemaIndex location inline t = .ok type) : IsType type
  | list {type : Json} {text : String} (h : IsType type) (ht : type.written = .ok text) :
    IsType (.str (TypeName.listOf text))
  | ofName {name : Json} (h : IsName c name) : IsType name
  | initializer : IsType (.str (c.config.serviceBaseClass.text ++ ".Initializer"))
  | fixed {type : Json} (h : type ∈ fixedTypes) : IsType type

/-- The base types of classes. -/
inductive IsBase : Json → Prop
  | service : IsBase c.config.serviceBaseClass
  | request {type : Json} {text : String} (h : IsType c type) (ht : type.written = .ok text) :
    IsBase (.str (c.config.requestBaseClass.text ++ "<" ++ text ++ ">"))
  | schema : IsBase c.config.schemaBaseInterface

/-- The names of parameters. -/
inductive IsLocal : Json → Prop
  | service : IsLocal "service"
  | initializer : IsLocal "initializer"
  | fresh {wanted : String} {start name : Json} {used : List Json}
    (hs : Identifier.localName wanted c.suffix Identifier.keywordValues = .ok start)
    (h : Identifier.fresh c.suffix used start = .ok name) : IsLocal name

/-- The texts of the target language. -/
def IsSnippet (text : Json) : Prop :=
  text ∈ fixedSnippets ∨ IsLocal c text

/-- The expressions of a building. -/
def IsExpression : Expression → Prop
  | .literal _ => True
  | .snippet text => IsSnippet c text
  | .create type arguments =>
    IsType c type ∧ ∀ e ∈ arguments, ∃ text, e = .snippet text ∧ IsSnippet c text
  | .bare => False
  | .absent => False

/-- The statements of a building. -/
def IsStatement : Statement → Prop
  | .ret value => IsExpression c value
  | .assign target value => IsName c target ∧ IsExpression c value
  | .snippet _ => False
  | .bare => False

/-- The parameters of a building. -/
structure IsArgument (a : Argument) : Prop where
  name : IsLocal c a.name
  type : IsType c a.type
  default : a.default = .absent

/-- The attributes of a building: they carry the name on the wire. -/
inductive IsAttribute : Attribute → Prop
  | field (wireName : String) : IsAttribute ⟨jsonProperty, [.literal (.str wireName)]⟩
  | parameter (p : Parameter) : IsAttribute (RequestPass.parameterAttribute p)

/-- The bodies of declarations in a building. -/
def IsBody : DeclarationBody → Prop
  | .bare => False
  | .ofClass baseTypes _ => ∀ b ∈ baseTypes, IsBase c b
  | .property p => IsType c p.type ∧ p.setter = [] ∧ ∀ s ∈ p.getter, IsStatement c s
  | .method m => IsType c m.returnType ∧ (∀ a ∈ m.parameters, IsArgument c a) ∧
    (∀ s ∈ m.statements, IsStatement c s) ∧
    (∀ arguments, m.baseCall = some arguments → ∀ e ∈ arguments, IsExpression c e) ∧
    AreApart (m.parameters.map Argument.name)
  | .constant type _ => IsType c type

/-- **A declaration as a building makes it.** At the top level there are only classes. -/
structure Made (d : Declaration) : Prop where
  name : IsName c d.name
  topLevel : d.parent = none → d.isClass = true
  attributes : ∀ a ∈ d.attributes, IsAttribute a
  body : IsBody c d.body

end Parts

variable {c : Context}

theorem Made.mapMembers {d : Declaration} (h : Made c d) (f : List Nat → List Nat) :
    Made c (d.mapMembers f) := by
  obtain ⟨name, access, modifiers, attributes, comment, parent, body⟩ := d
  cases body with
  | ofClass bases members => exact ⟨h.name, fun _ => rfl, h.attributes, h.body⟩
  | _ => exact h

/-- The declarations that a building makes, as a trait. -/
def made (c : Context) : Trait where
  holds := Made c
  commented _ h := ⟨h.name, h.topLevel, h.attributes, h.body⟩
  mapMembers f h := h.mapMembers f

/-- The type of a property or a constant. -/
theorem Made.type {d : Declaration} (h : Made c d) {type : Json} (ht : d.type? = some type) :
    IsType c type := by
  have hbody := h.body
  rw [Declaration.type?] at ht
  split at ht
  · rename_i p hp
    cases ht
    rw [hp] at hbody
    exact hbody.1
  · rename_i type' value hv
    cases ht
    rw [hv] at hbody
    exact hbody
  · cases ht

theorem isType_literalType (value : Json) : IsType c (literalType value) := by
  refine .fixed ?_
  cases value <;> simp [literalType, fixedTypes]

/-! ### Adding -/

variable {base : List Declaration}

theorem steady_member {owner : Int} {d : Declaration} (ho : 0 ≤ owner) (hd : d.members? = none)
    (hname : IsName c d.name) (hattributes : ∀ a ∈ d.attributes, IsAttribute a)
    (hbody : IsBody c d.body) : SteadyStep (made c) base (addMember owner d) :=
  .addMember ho (fun _ h => by rw [hd] at h; cases h)
    ⟨hname, fun h => (by cases h), hattributes, hbody⟩

theorem steady_class {owner : Option Int} {name comment : Json} {bases : List Json}
    (ho : ∀ o, owner = some o → 0 ≤ o) (hname : IsName c name) (hbases : ∀ b ∈ bases, IsBase c b) :
    Steady (made c) base (fun place => (base.length : Int) ≤ place)
      (addClass owner (Declaration.ofClass name bases comment)) :=
  .addClass ho (fun _ h => (Option.some.inj h).symm)
    ⟨hname, fun _ => rfl, fun _ h => (by cases h), hbases⟩

/-- The words that the name of a new member must avoid: the reserved ones, the names in the scope,
further ones, and in a class the name of the class. -/
theorem CodeModel.exists_of_avoided {m : CodeModel} {owner : Option Int}
    {extra words : List Json} (h : m.avoided owner extra = .ok words) :
    ∃ taken own, m.memberNames owner = .ok taken ∧
      words = m.reserved ++ taken ++ extra ++ own := by
  obtain ⟨taken, htaken, h⟩ := Outcome.bind_eq_ok.1 h
  obtain ⟨keys, hkeys, h⟩ := Outcome.bind_eq_ok.1 h
  rw [asKeys_eq_ok hkeys] at h
  cases owner with
  | none =>
    cases h
    exact ⟨taken, [], htaken, by rw [List.append_nil]⟩
  | some o =>
    obtain ⟨scope, -, h⟩ := Outcome.bind_eq_ok.1 h
    cases h
    exact ⟨taken, _, htaken, rfl⟩

theorem steady_safeName {owner : Int} {candidate : String} {extra : List Json} :
    Steady (made c) base (IsName c) (safeName owner candidate c.suffix extra) := by
  refine .look fun m name hm h => ?_
  obtain ⟨ds, -, -, -, rfl⟩ := hm
  obtain ⟨words, hwords, h⟩ := Outcome.bind_eq_ok.1 h
  obtain ⟨taken, own, -, rfl⟩ := CodeModel.exists_of_avoided hwords
  refine .safe (fun word hword => Identifier.mem_asSet.2 ?_) h
  simp only [List.mem_append]
  exact .inl (.inl (.inl hword))

theorem isName_resourceClass {path : String} {type : Json} (h : c.resourceClass path = .ok type) :
    IsName c type := by
  rw [Context.resourceClass] at h
  split at h
  · rename_i name hname
    cases h
    exact .resource hname
  · cases h

/-- A property that returns a literal. -/
theorem isBody_constantProperty {name value type comment : Json} {modifiers : List Modifier}
    (h : type.truthy = true → IsType c type) :
    IsBody c (constantProperty name value type modifiers comment).body := by
  refine ⟨?_, rfl, fun s hs => ?_⟩
  · split
    · exact h ‹_›
    · exact isType_literalType value
  · rw [List.mem_singleton.1 hs]
    trivial

end ClientGen
