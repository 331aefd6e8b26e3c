import ClientGen.Document.Reader
import ClientGen.Proofs.Document.Keys
import ClientGen.Proofs.Session

/-!
# What the parts of a document are read as

A schema or a method of a document is read as an item, or it has an issue. What is read is told by
relations between a value of the document and the item read off it, down to the fields of objects
described on the spot (`ClientGen.Document.TypeReads`).

An issue can arise at any depth of a type description, and it is located where it arose. That
place is always within the part that is read: at its path, or at a dotted extension of it
(`ClientGen.Document.IsWithin`).

The readers of single items are all followed by one judgement, `ClientGen.Document.Yields`: an item
as described, or an issue within a path.
-/

namespace ClientGen.Document

/-! ### Places within a part -/

/-- **A place within a part of a document**: the path of the part, or a dotted extension. -/
def IsWithin (path : String) (location : Json) : Prop :=
  location = .str path ∨ ∃ rest, location = .str (dotted path rest)

theorem IsWithin.self (path : String) : IsWithin path (.str path) :=
  .inl rfl

theorem IsWithin.of_dotted {path part : String} {location : Json}
    (h : IsWithin (dotted path part) location) : IsWithin path location := by
  rcases h with rfl | ⟨rest, rfl⟩
  · exact .inr ⟨part, rfl⟩
  · refine .inr ⟨dotted part rest, ?_⟩
    simp only [dotted, String.append_assoc]

/-- An issue of a part of a document: something in it is malformed. -/
structure IsIssueOf (path : String) (i : Issue) : Prop where
  /-- The document is to blame. -/
  kind : i.kind = .malformedDocument
  /-- The issue lies within the part. -/
  location : IsWithin path i.location

/-- **A reading yields** an item with a property, or an issue within a path. Faults end the reading
of the whole document, and nothing is said about them. -/
def Yields {α : Type} (path : String) (P : α → Prop) : Outcome α → Prop
  | .ok a => P a
  | .error (.issue i) => IsIssueOf path i
  | .error (.fault _) => True

namespace Yields

variable {α β : Type} {path : String} {P : α → Prop} {Q : β → Prop}

theorem issue {cause : Cause} (hkind : cause.kind = .malformedDocument) :
    Yields path P (Outcome.issue cause (.str path)) :=
  ⟨hkind, IsWithin.self path⟩

theorem bind {o : Outcome α} {f : α → Outcome β} (h : Yields path P o)
    (hf : ∀ a, P a → Yields path Q (f a)) : Yields path Q (o >>= f) := by
  rcases o with (i | f) | a
  · exact h
  · trivial
  · exact hf a h

theorem of_dotted {part : String} {o : Outcome α} (h : Yields (dotted path part) P o) :
    Yields path P o := by
  rcases o with (i | f) | a
  · exact ⟨h.kind, h.location.of_dotted⟩
  · trivial
  · exact h

/-- Reading the items of a list one by one yields a list of items, related pairwise. -/
theorem mapM {R : α → β → Prop} {f : α → Outcome β} (as : List α)
    (h : ∀ a ∈ as, Yields path (R a) (f a)) : Yields path (List.Forall₂ R as) (as.mapM f) := by
  induction as with
  | nil => exact .nil
  | cons a as ih =>
    rw [List.mapM_cons]
    refine (h a List.mem_cons_self).bind fun b hb => ?_
    refine (ih fun a' ha' => h a' (List.mem_cons_of_mem a ha')).bind fun bs hbs => ?_
    exact .cons hb hbs

/-- Values of unknown shape that are taken apart meet faults and no issues. -/
theorem entries {fields : Fields} (key : String) :
    Yields path (· = fields.objectAt key) (fields.get key).entries := by
  cases h : (fields.get key).entries with
  | ok es => exact (Fields.objectAt_of_entries h).symm
  | error e =>
    rw [Json.entries.eq_def] at h
    split at h
    · cases h
    · split at h <;> cases h
      trivial

theorem elementsOrNone (v : Json) : Yields path (fun _ => True) v.elementsOrNone := by
  unfold Json.elementsOrNone
  split
  · cases v <;> trivial
  · trivial

theorem keyText? (v : Json) : Yields path (fun t => ∀ s, t = some s → v = .str s) v.keyText? := by
  cases v with
  | str s =>
    rintro _ ⟨⟩
    rfl
  | list xs => trivial
  | object fs => trivial
  | _ => rintro _ ⟨⟩

end Yields

/-! ### Types and schemas -/

mutual

/-- **The type that a description is read as.** Objects described on the spot are named after the
field that they describe, and all of their fields are there. -/
inductive TypeReads : (path label : String) → Fields → TypeRef → Prop
  | ref {path label : String} {fields : Fields} {target : Json}
    (href : fields.find? "$ref" = some target) : TypeReads path label fields (.ref target)
  | list {path label : String} {fields items : Fields} {type : TypeRef}
    (href : fields.find? "$ref" = none) (htype : fields.get "type" = .str "array")
    (hitems : fields.find? "items" = some (.object items))
    (hread : TypeReads (dotted path "items") label items type) :
    TypeReads path label fields (.array type)
  | listOfAny {path label : String} {fields : Fields}
    (href : fields.find? "$ref" = none) (htype : fields.get "type" = .str "array")
    (hitems : ∀ items, fields.find? "items" ≠ some (.object items)) :
    TypeReads path label fields (.array (.any ""))
  | object {path label : String} {fields properties : Fields} {parts : List Field}
    (href : fields.find? "$ref" = none) (hobject : describesObject fields = true)
    (hproperties : fields.find? "properties" = some (.object properties))
    (hsome : (fields.get "properties").truthy = true)
    (hread : FieldsRead path properties parts) :
    TypeReads path label fields
      (.object label ⟨label, fields.get "description", parts, path⟩)
  | map {path label : String} {fields values : Fields} {type : TypeRef}
    (href : fields.find? "$ref" = none) (hobject : describesObject fields = true)
    (hnone : (fields.get "properties").truthy = false)
    (hvalues : fields.find? "additionalProperties" = some (.object values))
    (hread : TypeReads (dotted path "additionalProperties") label values type) :
    TypeReads path label fields (.map type)
  | anyObject {path label : String} {fields : Fields}
    (href : fields.find? "$ref" = none) (hobject : describesObject fields = true)
    (hnone : (fields.get "properties").truthy = false)
    (hvalues : ∀ values, fields.find? "additionalProperties" ≠ some (.object values)) :
    TypeReads path label fields (.any "object")
  | any {path label : String} {fields : Fields}
    (href : fields.find? "$ref" = none) (htype : fields.get "type" = .str "any") :
    TypeReads path label fields (.any "any")
  | primitive {path label name : String} {fields : Fields} {values : List Json}
    (href : fields.find? "$ref" = none) (htype : fields.get "type" = .str name)
    (hname : name ∈ primitiveNames) :
    TypeReads path label fields (.primitive name (fields.get "format") values)

/-- **The fields that properties are read as**: one for each key, in the order of the keys. -/
inductive FieldsRead : (path : String) → Fields → List Field → Prop
  | nil {path : String} : FieldsRead path [] []
  | cons {path name : String} {fields rest : Fields} {type : TypeRef} {later : List Field}
    (htype : TypeReads (dotted path name) name fields type)
    (hrest : FieldsRead path rest later) :
    FieldsRead path ((name, .object fields) :: rest)
      (⟨name, type, fields.get "description", (fields.get "required").truthy,
        dotted path name⟩ :: later)

end

/-- **The schema that a value is read as**, under its key and at its path. -/
structure SchemaReads (path name : String) (value : Json) (s : Schema) : Prop where
  /-- The key is the name. -/
  name_eq : s.name = name
  /-- The path is that of the value. -/
  path_eq : s.path = path
  /-- All properties are there, in the order of their keys. -/
  fields : ∃ fields : Fields, value = .object fields ∧
    FieldsRead path (fields.objectAt "properties") s.fields

theorem readSimpleType_yields {fields : Fields} (href : fields.find? "$ref" = none)
    (values : List Json) (path label : String) :
    Yields path (TypeReads path label fields) (readSimpleType fields values path) := by
  refine (Yields.keyText? _).bind fun t ht => ?_
  rcases t with _ | s
  · exact Yields.issue rfl
  · have hs := ht s rfl
    dsimp only
    split
    · next hany => exact .any href (hany ▸ hs)
    · split
      · next hprimitive => exact .primitive href hs hprimitive
      · exact Yields.issue rfl

mutual

theorem readType_yields (fields : Fields) (path label : String) :
    Yields path (TypeReads path label fields) (readType fields path label) := by
  rw [readType]
  split
  · next target href => exact .ref href
  · next href =>
    refine (Yields.elementsOrNone _).bind fun values _ => ?_
    split
    · next hlist =>
      split
      · next items hitems =>
        exact (readType_yields items (dotted path "items") label).of_dotted.bind fun type htype =>
          .list href (Json.isText_iff.1 hlist) hitems htype
      · next hitems => exact .listOfAny href (Json.isText_iff.1 hlist) fun items h => hitems items h
    · split
      · next hobject =>
        split
        · next hsome =>
          split
          · next properties hproperties =>
            exact (readProperties_yields properties path).bind fun parts hparts =>
              .object href hobject hproperties hsome hparts
          · trivial
        · next hnone =>
          rw [Bool.not_eq_true] at hnone
          split
          · next values hvalues =>
            exact (readType_yields values (dotted path "additionalProperties")
              label).of_dotted.bind fun type htype => .map href hobject hnone hvalues htype
          · next hvalues => exact .anyObject href hobject hnone fun values h => hvalues values h
      · exact readSimpleType_yields href values path label
termination_by sizeOf fields
decreasing_by
  all_goals
    have := Fields.sizeOf_lt_of_find? ‹Fields.find? _ _ = some _›
    simp only [Json.object.sizeOf_spec] at this
    omega

theorem readProperties_yields (properties : Fields) (path : String) :
    Yields path (FieldsRead path properties) (readProperties properties path) := by
  match properties with
  | [] =>
    rw [readProperties]
    exact .nil
  | (name, value) :: rest =>
    rw [readProperties.eq_def]
    dsimp only
    split
    · next fields =>
      refine (readType_yields fields (dotted path name) name).of_dotted.bind fun type htype => ?_
      refine (readProperties_yields rest path).bind fun later hlater => ?_
      exact .cons htype hlater
    · exact Yields.of_dotted (Yields.issue rfl)
termination_by sizeOf properties

end

theorem readSchema_yields (name : String) (value : Json) (path : String) :
    Yields path (SchemaReads path name value) (readSchema name value path) := by
  unfold readSchema
  split
  · next fields =>
    refine (Yields.entries "properties").bind fun entries hentries => ?_
    refine (readProperties_yields entries path).bind fun parts hparts => ?_
    exact ⟨rfl, rfl, fields, rfl, hentries ▸ hparts⟩
  · exact Yields.issue rfl

/-! ### Methods -/

/-- The parameter that a value is read as, under its key. -/
structure ParameterReads (path : String) (entry : String × Json) (p : Parameter) : Prop where
  /-- The key is the name. -/
  name_eq : p.name = entry.1
  /-- The type is the one that the value describes. -/
  type : ∃ fields, entry.2 = .object fields ∧ TypeReads (dotted path entry.1) "" fields p.type

/-- **The method that a value is read as**, under its key. -/
structure MethodReads (path name : String) (value : Json) (m : Method) : Prop where
  /-- The key is the name. -/
  name_eq : m.name = name
  /-- All parameters are there, in the order of their keys. -/
  parameters : ∃ fields : Fields, value = .object fields ∧
    List.Forall₂ (ParameterReads path) (fields.objectAt "parameters") m.parameters

theorem readParameter_yields (entry : String × Json) (path : String) :
    Yields path (ParameterReads path entry)
      (readParameter entry.1 entry.2 (dotted path entry.1)) := by
  suffices h : Yields (dotted path entry.1) (ParameterReads path entry)
      (readParameter entry.1 entry.2 (dotted path entry.1)) from h.of_dotted
  unfold readParameter
  split
  · next fields hvalue =>
    split
    · exact Yields.issue rfl
    · refine (readType_yields fields (dotted path entry.1) "").bind fun type htype => ?_
      exact ⟨rfl, fields, hvalue, htype⟩
  · exact Yields.issue rfl

theorem readMessage_yields (value : Json) (role : MessageRole) (path : String)
    (names : List String) :
    Yields path (fun _ => True) (readMessage value role path names) := by
  unfold readMessage
  split
  · trivial
  · extract_lets target
    split
    · refine (Yields.keyText? target).bind fun t _ => ?_
      rcases t with _ | s
      · exact Yields.issue rfl
      · dsimp only
        split
        · trivial
        · exact Yields.issue rfl
    · exact Yields.issue rfl

theorem readOrder_yields (names : List String) (path : String) (order : List Json) :
    Yields path (fun _ => True) (readOrder names path order) := by
  induction order with
  | nil => trivial
  | cons entry rest ih =>
    refine (Yields.keyText? entry).bind fun t _ => ?_
    rcases t with _ | s
    · exact Yields.issue rfl
    · dsimp only
      split
      · exact ih.bind fun _ _ => trivial
      · exact Yields.issue rfl

theorem readMethod_yields (name : String) (value : Json) (path : String) (names : List String) :
    Yields path (MethodReads path name value) (readMethod name value path names) := by
  unfold readMethod
  split
  · next fields =>
    dsimp only
    split
    · exact Yields.issue rfl
    · split
      · exact Yields.issue rfl
      · refine (readMessage_yields _ .request path names).bind fun request _ => ?_
        refine (readMessage_yields _ .response path names).bind fun response _ => ?_
        refine (Yields.entries "parameters").bind fun entries hentries => ?_
        have hparameters := Yields.mapM entries fun entry _ => readParameter_yields entry path
        refine hparameters.bind fun parameters hread => ?_
        refine (Yields.elementsOrNone _).bind fun order _ => ?_
        refine (readOrder_yields _ path order).bind fun parameterOrder _ => ?_
        refine (Yields.elementsOrNone _).bind fun scopes _ => ?_
        exact ⟨rfl, fields, rfl, hentries ▸ hread⟩
  · exact Yields.issue rfl

end ClientGen.Document
