import ClientGen.Proofs.Document.Verdicts

/-!
# What becomes of the parts of a document

A reading that ends with a service has accounted for every schema, method and resource of its
document. Each of them is sound and read, under its key and in its place, or malformed and left out
with one issue of its own; and there are no other issues. So the service and the issues together
tell the whole document (`ClientGen.Document.accounted_read`).

A part that is broken is neither: the reading of the whole document ends with its fault. For a
document of a service nothing else stops it, and whether something does is told from the document
alone (`ClientGen.Document.read_ends_iff_unbroken`).

Both come from one judgement on readings, `ClientGen.Document.Ends`, which says what stops a reading
and what it has recorded otherwise.
-/

namespace ClientGen

namespace Document

open Verdict

/-! ### Readings that end -/

/-- **How a reading ends**: in a fault if something breaks it, and otherwise with a result that has
a property together with the issues recorded on the way. An issue never ends a reading. -/
def Ends {α : Type} (breaks : Bool) (P : α → List Issue → Prop) (x : Reading α) : Prop :=
  ∀ l, match x l with
    | .ok a l' => breaks = false ∧ ∃ issues, l'.issues = l.issues ++ issues ∧ P a issues
    | .error (.issue _) _ => False
    | .error (.fault _) _ => breaks = true

namespace Ends

variable {α β : Type} {b b' : Bool} {P : α → List Issue → Prop} {Q : β → List Issue → Prop}

theorem pure {a : α} (h : P a []) : Ends false P (Pure.pure a) :=
  fun _ => ⟨rfl, [], (List.append_nil _).symm, h⟩

theorem bind {x : Reading α} {f : α → Reading β} (hx : Ends b P x)
    (hf : ∀ a issues, P a issues → Ends b' (fun c later => Q c (issues ++ later)) (f a)) :
    Ends (b || b') Q (x >>= f) := by
  intro l
  have hl := hx l
  rw [Session.bind_run]
  rcases hrun : x l with ⟨a, l₁⟩ | ⟨i | f, l₁⟩ <;> rw [hrun] at hl
  · obtain ⟨rfl, issues, hl₁, ha⟩ := hl
    have hnext := hf a issues ha l₁
    dsimp only
    rcases hrun' : f a l₁ with ⟨c, l₂⟩ | ⟨i | f, l₂⟩ <;> rw [hrun'] at hnext
    · obtain ⟨hb', later, hl₂, hc⟩ := hnext
      exact ⟨hb', issues ++ later, by rw [hl₂, hl₁, List.append_assoc], hc⟩
    · exact hnext
    · exact hnext
  · exact hl
  · rw [hl]
    rfl

theorem map {x : Reading α} {g : α → β} (hx : Ends b P x)
    (hg : ∀ a issues, P a issues → Q (g a) issues) :
    Ends b Q (x >>= fun a => Pure.pure (g a)) := by
  rw [← Bool.or_false b]
  refine hx.bind fun a issues ha => .pure ?_
  rw [List.append_nil]
  exact hg a issues ha

/-- A value whose shape is taken for granted. -/
theorem lift {o : Outcome α} {trusted : Bool} (hverdict : verdictOf o = ofTrust trusted) :
    Ends (!trusted) (fun a issues => o = .ok a ∧ issues = []) (liftM o : Reading α) := by
  intro l
  rw [Session.lift_run]
  rcases o with (i | f) | a
  · cases trusted <;> cases hverdict
  · cases trusted with
    | false => rfl
    | true => cases hverdict
  · cases trusted with
    | false => cases hverdict
    | true => exact ⟨rfl, [], (List.append_nil _).symm, rfl, rfl⟩

/-- What a reading that ended with a result has recorded. -/
theorem of_ok {x : Reading α} (h : Ends b P x) {l l' : Ledger} {a : α} (hrun : x l = .ok a l') :
    ∃ issues, l'.issues = l.issues ++ issues ∧ P a issues := by
  have hl := h l
  rw [hrun] at hl
  exact hl.2

end Ends

/-! ### Items that are kept or left out -/

/-- **Items account for entries**: each entry in turn is sound and read as the next item, or
malformed and left out with the next issue, which is an issue of the entry. -/
inductive Accounted {α : Type} (judge : Json → Verdict) (pathOf : String → String)
    (Reads : String → Json → α → Prop) : Fields → List α → List Issue → Prop
  | nil : Accounted judge pathOf Reads [] [] []
  | kept {name : String} {value : Json} {a : α} {entries : Fields} {items : List α}
    {issues : List Issue} (hsound : judge value = .sound) (hread : Reads name value a)
    (hrest : Accounted judge pathOf Reads entries items issues) :
    Accounted judge pathOf Reads ((name, value) :: entries) (a :: items) issues
  | leftOut {name : String} {value : Json} {i : Issue} {entries : Fields} {items : List α}
    {issues : List Issue} (hmalformed : judge value = .malformed)
    (hissue : IsIssueOf (pathOf name) i)
    (hrest : Accounted judge pathOf Reads entries items issues) :
    Accounted judge pathOf Reads ((name, value) :: entries) items (i :: issues)

/-- Whether one of some entries is broken. -/
def anyBroken (judge : Json → Verdict) (entries : Fields) : Bool :=
  entries.any fun e => judge e.2 = .broken

section Each

variable {α : Type} {read : String → Json → Outcome α} {judge : Json → Verdict}
  {pathOf : String → String} {Reads : String → Json → α → Prop}

/-- An item is kept, or left out with its issue recorded. -/
theorem ends_attempt {name : String} {value : Json}
    (hverdict : verdictOf (read name value) = judge value)
    (hyield : Yields (pathOf name) (Reads name value) (read name value)) :
    Ends (decide (judge value = .broken))
      (fun item issues => ∀ entries items later, Accounted judge pathOf Reads entries items later →
        Accounted judge pathOf Reads ((name, value) :: entries) (item.toList ++ items)
          (issues ++ later))
      (attempt (read name value)) := by
  intro l
  rcases hread : read name value with (i | f) | a <;> rw [hread] at hverdict hyield
  · have hmalformed : judge value = .malformed := hverdict.symm
    refine ⟨by rw [hmalformed]; rfl, [i], rfl, fun entries items later hrest => ?_⟩
    exact .leftOut hmalformed hyield hrest
  · exact decide_eq_true hverdict.symm
  · have hsound : judge value = .sound := hverdict.symm
    refine ⟨by rw [hsound]; rfl, [], (List.append_nil _).symm, fun entries items later hrest => ?_⟩
    exact .kept hsound hyield hrest

theorem ends_readEach (hverdict : ∀ name value, verdictOf (read name value) = judge value)
    (hyield : ∀ name value, Yields (pathOf name) (Reads name value) (read name value))
    (entries : Fields) :
    Ends (anyBroken judge entries) (Accounted judge pathOf Reads entries)
      (readEach read entries) := by
  induction entries with
  | nil => exact .pure .nil
  | cons e rest ih =>
    obtain ⟨name, value⟩ := e
    refine (ends_attempt (hverdict name value) (hyield name value)).bind fun item issues hitem => ?_
    exact ih.map fun later issues' hlater => hitem rest later issues' hlater

end Each

/-- The schemas of a document. -/
theorem ends_readSchemas (entries : Fields) :
    Ends (anyBroken judgeSchema entries)
      (Accounted judgeSchema (dotted "schemas") (fun n => SchemaReads (dotted "schemas" n) n)
        entries)
      (readEach (fun n v => readSchema n v (dotted "schemas" n)) entries) :=
  ends_readEach (fun n v => verdict_readSchema n v (dotted "schemas" n))
    (fun n v => readSchema_yields n v (dotted "schemas" n)) entries

namespace Accounted

variable {α : Type} {judge : Json → Verdict} {pathOf : String → String}
  {Reads : String → Json → α → Prop} {entries : Fields} {items : List α} {issues : List Issue}
  (h : Accounted judge pathOf Reads entries items issues)

include h

theorem exists_reads {a : α} (ha : a ∈ items) : ∃ name value, Reads name value a := by
  induction h with
  | nil => cases ha
  | kept _ hread _ ih =>
    rcases List.mem_cons.1 ha with rfl | ha
    · exact ⟨_, _, hread⟩
    · exact ih ha
  | leftOut _ _ _ ih => exact ih ha

variable {nameOf : α → String} (hname : ∀ n v a, Reads n v a → nameOf a = n)

include hname

/-- Items with the names of their keys keep the order of the keys. -/
theorem sublist :
    (items.map nameOf).Sublist (entries.map Prod.fst) := by
  induction h with
  | nil => exact .slnil
  | kept _ hread _ ih =>
    rw [List.map_cons, List.map_cons, hname _ _ _ hread]
    exact ih.cons_cons _
  | leftOut _ _ _ ih => exact ih.cons _

/-- Without issues every key has its item. -/
theorem names_eq (hnone : issues = []) : items.map nameOf = entries.map Prod.fst := by
  induction h with
  | nil => rfl
  | kept _ hread _ ih => rw [List.map_cons, List.map_cons, hname _ _ _ hread, ih hnone]
  | leftOut => cases hnone

end Accounted

/-! ### The tree of resources -/

/-- What stands under a key is smaller than the object. -/
theorem sizeOf_objectAt_lt (fields : Fields) (key : String) :
    sizeOf (fields.objectAt key) < sizeOf (Json.object fields) := by
  have hnil : sizeOf ([] : Fields) < sizeOf (Json.object fields) := by
    cases fields <;> simp +arith
  rw [Fields.objectAt, Fields.get]
  cases hfound : fields.find? key with
  | none => exact hnil
  | some found =>
    have hlt := Fields.sizeOf_lt_of_find? hfound
    cases found with
    | object inner =>
      simp only [Json.object.sizeOf_spec, Option.getD_some, Json.fieldsOf] at hlt ⊢
      omega
    | _ => exact hnil

/-- The resources inside a resource are those of what stands for them, an object or nothing. -/
theorem readResource_entries (name path : String) (names : List String) (fields : Fields) :
    readResource name (.object fields) path names = (do
      let entries ← (Fields.get fields "methods").entries
      let methods ← readEach (fun n v => readMethod n v (dotted path n) names) entries
      let inner ← (Fields.get fields "resources").entries
      let resources ← readResources inner (dotted path) names
      return some ⟨name, methods, resources, path⟩) := by
  rw [readResource]
  congr
  funext entries
  congr
  funext methods
  have hempty : (do
      let resources ← readResources [] (dotted path) names
      return some ⟨name, methods, resources, path⟩ : Reading (Option Resource))
        = pure (some ⟨name, methods, [], path⟩) := by
    rw [readResources]
    rfl
  rw [Fields.get]
  split
  · next inner hfound =>
    rw [hfound]
    rfl
  · next other hother hfound =>
    rw [hfound]
    cases other with
    | object inner => exact absurd rfl (hother inner)
    | _ =>
      -- what counts as false stands for no resources, anything else is a fault
      dsimp only [Option.getD_some, Json.entries]
      split
      · rfl
      · exact hempty.symm
  · next hfound =>
    rw [hfound]
    exact hempty.symm

mutual

/-- Whether something in a resource breaks its reading: its methods or the resources inside it are
no objects, or one of those is broken in turn. -/
def resourceBreaks (names : List String) : Json → Bool
  | .object fields =>
    !hasFields (Fields.get fields "methods") ||
      (anyBroken (judgeMethod names) (Fields.objectAt fields "methods") ||
        (!hasFields (Fields.get fields "resources") ||
          resourcesBreak names (Fields.objectAt fields "resources")))
  | _ => false
termination_by value => sizeOf value
decreasing_by exact sizeOf_objectAt_lt fields "resources"

/-- Whether something in one of some resources breaks its reading. -/
def resourcesBreak (names : List String) : Fields → Bool
  | [] => false
  | (_, value) :: rest => resourceBreaks names value || resourcesBreak names rest
termination_by entries => sizeOf entries

end

mutual

/-- **A value is accounted for as a resource**: an object is kept, with its methods and the
resources inside it accounted for; anything else is left out with one issue. The issues of the
methods come before those of the resources inside. -/
inductive ResourceAccounted (names : List String) :
    (name path : String) → Json → Option Resource → List Issue → Prop
  | kept {name path : String} {fields : Fields} {methods : List Method}
    {resources : List Resource} {ofMethods ofResources : List Issue}
    (hmethods : Accounted (judgeMethod names) (dotted path) (fun n => MethodReads (dotted path n) n)
      (fields.objectAt "methods") methods ofMethods)
    (hresources : ResourcesAccounted names (dotted path) (fields.objectAt "resources") resources
      ofResources) :
    ResourceAccounted names name path (.object fields) (some ⟨name, methods, resources, path⟩)
      (ofMethods ++ ofResources)
  | leftOut {name path : String} {value : Json} (hvalue : ∀ fields, value ≠ .object fields) :
    ResourceAccounted names name path value none [⟨.notObject .resource, .str path⟩]

/-- **Entries are accounted for as resources**, one by one. -/
inductive ResourcesAccounted (names : List String) :
    (pathOf : String → String) → Fields → List Resource → List Issue → Prop
  | nil {pathOf : String → String} : ResourcesAccounted names pathOf [] [] []
  | cons {pathOf : String → String} {name : String} {value : Json} {entries : Fields}
    {r? : Option Resource} {rs : List Resource} {here later : List Issue}
    (hr : ResourceAccounted names name (pathOf name) value r? here)
    (hrest : ResourcesAccounted names pathOf entries rs later) :
    ResourcesAccounted names pathOf ((name, value) :: entries) (r?.toList ++ rs) (here ++ later)

end

mutual

theorem ends_readResource (name path : String) (names : List String) (value : Json) :
    Ends (resourceBreaks names value) (ResourceAccounted names name path value)
      (readResource name value path names) := by
  match value with
  | .object fields =>
    rw [readResource_entries, resourceBreaks]
    refine (Ends.lift (verdictOf_entries _)).bind fun entries _ hentries => ?_
    obtain ⟨hentries, rfl⟩ := hentries
    rw [Fields.objectAt_of_entries hentries]
    refine (ends_readEach (fun n v => verdict_readMethod n v (dotted path n) names)
      (fun n v => readMethod_yields n v (dotted path n) names) entries).bind
        fun methods ofMethods hmethods => ?_
    refine (Ends.lift (verdictOf_entries _)).bind fun inner _ hinner => ?_
    obtain ⟨hinner, rfl⟩ := hinner
    rw [← Fields.objectAt_of_entries hinner]
    refine (ends_readResources (dotted path) names (Fields.objectAt fields "resources")).map
      fun resources ofResources hresources => ?_
    rw [← Fields.objectAt_of_entries hentries] at hmethods
    exact (ResourceAccounted.kept hmethods hresources :)
  | .null | .bool _ | .int _ | .float _ | .str _ | .list _ =>
    rw [readResource, resourceBreaks]
    · exact fun l => ⟨rfl, _, rfl, .leftOut nofun⟩
    · simp
    · simp
termination_by sizeOf value
decreasing_by
  exact sizeOf_objectAt_lt fields "resources"

theorem ends_readResources (pathOf : String → String) (names : List String) (entries : Fields) :
    Ends (resourcesBreak names entries) (ResourcesAccounted names pathOf entries)
      (readResources entries pathOf names) := by
  match entries with
  | [] =>
    rw [readResources, resourcesBreak]
    exact .pure .nil
  | (name, value) :: rest =>
    rw [readResources, resourcesBreak]
    refine (ends_readResource name (pathOf name) names value).bind fun r? here hr => ?_
    exact (ends_readResources pathOf names rest).map fun rs later hrest => .cons hr hrest
termination_by sizeOf entries

end

/-! ### Documents -/

theorem exists_readFields {fields : Fields} {l l' : Ledger} {service : Service}
    (h : read (.object fields) l = .ok service l') :
    ∃ name, readFields fields name l = .ok service l' := by
  rw [read] at h
  cases hname : Fields.get fields "name" with
  | str name =>
    rw [hname] at h
    dsimp only at h
    split at h
    · cases h
    · exact ⟨name, h⟩
  | _ =>
    rw [hname] at h
    cases h

/-- The schemas of a document are read first, and then its resources. -/
theorem exists_of_read {document : Json} {l l' : Ledger} {service : Service}
    (h : read document l = .ok service l') :
    ∃ (fields : Fields) (l₀ l₁ : Ledger), document = .object fields ∧ l₀.issues = l.issues ∧
      readEach (fun n v => readSchema n v (dotted "schemas" n)) (fields.objectAt "schemas") l₀ =
        .ok service.schemas l₁ ∧
      readResources (fields.objectAt "resources") id ((fields.objectAt "schemas").map Prod.fst) l₁ =
        .ok service.resources l' := by
  obtain ⟨fields, rfl⟩ : ∃ fields, document = .object fields := by
    cases document with
    | object fields => exact ⟨fields, rfl⟩
    | _ => cases h
  obtain ⟨name, h⟩ := exists_readFields h
  rw [readFields] at h
  obtain ⟨_, l₀, hstart, h⟩ := Session.bind_eq_ok.1 h
  cases hstart
  obtain ⟨schemaEntries, _, hlift, h⟩ := Session.bind_eq_ok.1 h
  obtain ⟨hschemaEntries, rfl⟩ := Session.lift_eq_ok.1 hlift
  obtain ⟨schemas, l₁, hschemas, h⟩ := Session.bind_eq_ok.1 h
  obtain ⟨resourceEntries, _, hlift, h⟩ := Session.bind_eq_ok.1 h
  obtain ⟨hresourceEntries, rfl⟩ := Session.lift_eq_ok.1 hlift
  obtain ⟨resources, l₂, hresources, h⟩ := Session.bind_eq_ok.1 h
  obtain ⟨baseUri, _, hbase, h⟩ := Session.bind_eq_ok.1 h
  obtain ⟨-, rfl⟩ := Session.lift_eq_ok.1 hbase
  obtain ⟨scopes, _, hscopes, h⟩ := Session.bind_eq_ok.1 h
  obtain ⟨-, rfl⟩ := Session.lift_eq_ok.1 hscopes
  cases h
  rw [← Fields.objectAt_of_entries hschemaEntries] at hschemas hresources
  rw [← Fields.objectAt_of_entries hresourceEntries] at hresources
  refine ⟨fields, _, l₁, rfl, ?_, hschemas, hresources⟩
  rfl

/-- **The schemas of a service have different names**, if the keys of its document are distinct. -/
theorem nodup_schemaNames {document : Json} (hd : document.hasDistinctKeys = true)
    {l l' : Ledger} {service : Service} (h : read document l = .ok service l') :
    (service.schemas.map Schema.name).Nodup := by
  obtain ⟨fields, l₀, l₁, rfl, -, hschemas, -⟩ := exists_of_read h
  obtain ⟨issues, -, haccounted⟩ := (ends_readSchemas _).of_ok hschemas
  have hsublist := haccounted.sublist fun _ _ _ hread => hread.name_eq
  have hfields := (Json.hasDistinctKeys_object.1 hd).2
  exact hsublist.nodup (Json.distinctKeys_objectAt hfields "schemas").1

/-- **A reading accounts for its document**: the schemas, and the resources with their methods, are
those of the document in the order of its keys, save those that were left out because they are
malformed; and the issues recorded are one for each part left out, located within it, those of the
schemas first. -/
theorem accounted_read {document : Json} {l l' : Ledger} {service : Service}
    (h : read document l = .ok service l') :
    ∃ (fields : Fields) (ofSchemas ofResources : List Issue), document = .object fields ∧
      l'.issues = l.issues ++ (ofSchemas ++ ofResources) ∧
      Accounted judgeSchema (dotted "schemas") (fun n => SchemaReads (dotted "schemas" n) n)
        (fields.objectAt "schemas") service.schemas ofSchemas ∧
      ResourcesAccounted ((fields.objectAt "schemas").map Prod.fst) id
        (fields.objectAt "resources") service.resources ofResources := by
  obtain ⟨fields, l₀, l₁, rfl, hl₀, hschemas, hresources⟩ := exists_of_read h
  obtain ⟨ofSchemas, hl₁, hschemas⟩ := (ends_readSchemas _).of_ok hschemas
  obtain ⟨ofResources, hl', hresources⟩ := (ends_readResources id _ _).of_ok hresources
  refine ⟨fields, ofSchemas, ofResources, rfl, ?_, hschemas, hresources⟩
  rw [hl', hl₁, hl₀, List.append_assoc]

/-- A document with parts that are left out at every depth: a schema that is no object and one with
an unknown type deep inside, a method with a parameter that travels nowhere, a resource inside a
resource that is a list, and a resource that is a number. -/
def tornDocument : Json :=
  .object [("name", "torn"),
    ("schemas", .object [
      ("Leaf", .int 7),
      ("Page", .object [("properties", .object [
        ("notes", .object [("type", "array"), ("items", .object [
          ("properties", .object [("text", .object [("type", "string")])])])])])]),
      ("Sheet", .object [("properties", .object [
        ("fold", .object [("properties", .object [("by", .object [("type", "odd")])])])])])]),
    ("resources", .object [
      ("pages", .object [
        ("methods", .object [
          ("turn", .object [("httpMethod", "POST"), ("path", "turn"), ("parameters", .object [
            ("to", .object [("type", "integer"), ("location", "moon")])])]),
          ("get", .object [("httpMethod", "GET"), ("path", "pages"), ("parameters", .object [
            ("from", .object [("type", "integer"), ("location", "query")]),
            ("to", .object [("type", "integer"), ("location", "query")])])])]),
        ("resources", .object [("lines", .list []), ("words", .object [])])]),
      ("index", .int 3)])]

/-- What is left of the document above, and where the issues are. -/
theorem accounted_tornDocument :
    ∃ (service : Service) (l : Ledger), read tornDocument {} = .ok service l ∧
      service.schemas.map Schema.name = ["Page"] ∧
      (Resource.allNested service.resources).map Resource.path = ["pages", "pages.words"] ∧
      l.issues.map (fun i => i.location.text) =
        ["schemas.Leaf", "schemas.Sheet.fold.by", "pages.turn.to", "pages.lines", "index"] ∧
      ∃ (fields : Fields) (ofSchemas ofResources : List Issue), tornDocument = .object fields ∧
        l.issues = [] ++ (ofSchemas ++ ofResources) ∧
        Accounted judgeSchema (dotted "schemas") (fun n => SchemaReads (dotted "schemas" n) n)
          (fields.objectAt "schemas") service.schemas ofSchemas ∧
        ResourcesAccounted ((fields.objectAt "schemas").map Prod.fst) id
          (fields.objectAt "resources") service.resources ofResources := by
  have hrun : Session.passes
      (fun (service : Service) (l : Ledger) =>
        service.schemas.map Schema.name == ["Page"] &&
        (Resource.allNested service.resources).map Resource.path == ["pages", "pages.words"] &&
        l.issues.map (fun i => i.location.text) ==
          ["schemas.Leaf", "schemas.Sheet.fold.by", "pages.turn.to", "pages.lines", "index"])
      (read tornDocument {}) = true := by
    decide +kernel
  obtain ⟨service, l, hread, h⟩ := Session.exists_of_passes hrun
  obtain ⟨h, hissues⟩ := (Bool.and_eq_true _ _).mp h
  obtain ⟨hschemas, hresources⟩ := (Bool.and_eq_true _ _).mp h
  exact ⟨service, l, hread, eq_of_beq hschemas, eq_of_beq hresources, eq_of_beq hissues,
    accounted_read hread⟩

/-! ### Documents of services -/

/-- Whether a value is an object. -/
def isObject : Json → Bool
  | .object _ => true
  | _ => false

/-- **The fields of a document of a service**: a name that is a text and not empty, objects of
schemas and of resources or none, no scopes, and texts for everything else. -/
structure IsServiceDocument (fields : Fields) : Prop where
  /-- The document has a name. -/
  name : fields.has "name" = true ∧ (fields.get "name").truthy = true
  /-- The schemas are an object or absent. -/
  schemas : fields.has "schemas" = true → isObject (fields.get "schemas") = true
  /-- The resources are an object or absent. -/
  resources : fields.has "resources" = true → isObject (fields.get "resources") = true
  /-- There are no scopes. -/
  auth : fields.has "auth" = false
  /-- All else are texts. -/
  texts : ∀ key ∈ fields.map Prod.fst, key ≠ "schemas" → key ≠ "resources" →
    (fields.get key).isString = true

instance : DecidablePred IsServiceDocument := fun fields =>
  decidable_of_iff
    ((fields.has "name" = true ∧ (fields.get "name").truthy = true) ∧
      (fields.has "schemas" = true → isObject (fields.get "schemas") = true) ∧
      (fields.has "resources" = true → isObject (fields.get "resources") = true) ∧
      fields.has "auth" = false ∧
      ∀ key ∈ fields.map Prod.fst, key ≠ "schemas" → key ≠ "resources" →
        (fields.get key).isString = true)
    ⟨fun h => ⟨h.1, h.2.1, h.2.2.1, h.2.2.2.1, h.2.2.2.2⟩,
      fun h => ⟨h.name, h.schemas, h.resources, h.auth, h.texts⟩⟩

/-- Whether something in a document breaks its reading: a schema, or something in a resource. -/
def documentBreaks (fields : Fields) : Bool :=
  anyBroken judgeSchema (fields.objectAt "schemas") ||
    resourcesBreak ((fields.objectAt "schemas").map Prod.fst) (fields.objectAt "resources")

namespace IsServiceDocument

variable {fields : Fields}

theorem entries_of_isObject {key : String}
    (h : fields.has key = true → isObject (fields.get key) = true) :
    (fields.get key).entries = .ok (fields.objectAt key) := by
  rw [Fields.objectAt]
  rw [Fields.has, Fields.get] at h
  rw [Fields.get]
  cases hfound : fields.find? key with
  | none => rfl
  | some v =>
    rw [hfound] at h
    cases v with
    | object inner => rfl
    | _ => cases h rfl

/-- A field that is there is a text. -/
theorem exists_text (h : IsServiceDocument fields) {key : String} {v : Json}
    (hfound : fields.find? key = some v) (hschemas : key ≠ "schemas")
    (hresources : key ≠ "resources") : ∃ s : String, v = .str s := by
  have hmem : key ∈ fields.map Prod.fst := List.mem_map_of_mem (Fields.mem_of_find? hfound)
  have htext := h.texts key hmem hschemas hresources
  rw [Fields.get, hfound, Option.getD_some] at htext
  cases v with
  | str s => exact ⟨s, rfl⟩
  | _ => cases htext

theorem exists_getD_text (h : IsServiceDocument fields) (key : String) (hschemas : key ≠ "schemas")
    (hresources : key ≠ "resources") :
    ∃ s : String, (fields.find? key).getD (.str "") = .str s := by
  cases hfound : fields.find? key with
  | none => exact ⟨"", rfl⟩
  | some v => exact h.exists_text hfound hschemas hresources

theorem exists_name (h : IsServiceDocument fields) :
    ∃ name : String, fields.get "name" = .str name ∧ name.isEmpty = false := by
  obtain ⟨v, hfound⟩ := Option.isSome_iff_exists.1 h.name.1
  obtain ⟨name, rfl⟩ := h.exists_text hfound (by decide) (by decide)
  have hget : fields.get "name" = .str name := by
    rw [Fields.get, hfound, Option.getD_some]
  refine ⟨name, hget, ?_⟩
  have htruthy := h.name.2
  rw [hget] at htruthy
  simpa [Json.truthy] using htruthy

theorem exists_readBaseUri (h : IsServiceDocument fields) :
    ∃ uri, readBaseUri fields = .ok uri := by
  rw [readBaseUri]
  dsimp only
  split
  · exact ⟨_, rfl⟩
  · obtain ⟨root, hroot⟩ := h.exists_getD_text "rootUrl" (by decide) (by decide)
    obtain ⟨path, hpath⟩ := h.exists_getD_text "servicePath" (by decide) (by decide)
    rw [hroot, hpath]
    exact ⟨_, rfl⟩

theorem readScopes_eq (h : IsServiceDocument fields) : readScopes fields = .ok [] := by
  have hnone : fields.find? "auth" = none := by
    simpa [Fields.has] using h.auth
  rw [readScopes, Fields.get, hnone]
  rfl

end IsServiceDocument

/-- **A service accounts for a document**, with the issues of the schemas before those of the
resources. -/
structure ServiceAccounted (fields : Fields) (service : Service) (issues : List Issue) : Prop where
  /-- The service has the name of the document. -/
  name : fields.get "name" = .str service.name
  /-- The schemas and the resources are accounted for. -/
  parts : ∃ ofSchemas ofResources, issues = ofSchemas ++ ofResources ∧
    Accounted judgeSchema (dotted "schemas") (fun n => SchemaReads (dotted "schemas" n) n)
      (fields.objectAt "schemas") service.schemas ofSchemas ∧
    ResourcesAccounted ((fields.objectAt "schemas").map Prod.fst) id (fields.objectAt "resources")
      service.resources ofResources

theorem ends_readFields {fields : Fields} (h : IsServiceDocument fields) {name : String}
    (hname : fields.get "name" = .str name) :
    Ends (documentBreaks fields) (ServiceAccounted fields) (readFields fields name) := by
  obtain ⟨uri, huri⟩ := h.exists_readBaseUri
  have hstart : Ends false (fun _ issues => issues = [])
      (modify fun l : Ledger => { l with serviceName := name }.write .debug
        ("Parsing discovery document for " ++ name) : Reading PUnit) :=
    fun l => ⟨rfl, [], (List.append_nil _).symm, rfl⟩
  rw [readFields, IsServiceDocument.entries_of_isObject h.schemas,
    IsServiceDocument.entries_of_isObject h.resources, huri, h.readScopes_eq]
  simp only [Session.lift_ok_bind]
  refine hstart.bind fun _ _ hnone => ?_
  subst hnone
  refine (ends_readSchemas _).bind fun schemas ofSchemas hschemas => ?_
  refine (ends_readResources id _ _).map fun resources ofResources hresources => ?_
  exact ⟨hname, ofSchemas, ofResources, rfl, hschemas, hresources⟩

/-- **What stops the reading of a document.** The reading of a document of a service ends in one
of two ways. If nothing breaks it, it gives a service in which exactly the malformed parts are
missing, and each of them has its issue in the report; a part that is merely malformed never
stops the rest. If something breaks it, it ends with a fault and gives no service. -/
theorem read_ends_iff_unbroken {fields : Fields} (h : IsServiceDocument fields) (l : Ledger) :
    (documentBreaks fields = false →
      ∃ (service : Service) (l' : Ledger) (issues : List Issue),
        read (.object fields) l = .ok service l' ∧ l'.issues = l.issues ++ issues ∧
        ServiceAccounted fields service issues) ∧
    (documentBreaks fields = true →
      ∃ (f : Fault) (l' : Ledger), read (.object fields) l = .error (.fault f) l') := by
  obtain ⟨name, hname, hempty⟩ := h.exists_name
  have hread : read (.object fields) = readFields fields name := by
    rw [read, hname]
    exact if_neg (by rw [hempty]; decide)
  have hends := ends_readFields h hname l
  rw [hread]
  rcases hrun : readFields fields name l with ⟨service, l'⟩ | ⟨i | f, l'⟩ <;> rw [hrun] at hends
  · obtain ⟨hunbroken, issues, hissues, haccounted⟩ := hends
    refine ⟨fun _ => ⟨service, l', issues, rfl, hissues, haccounted⟩, fun hbroken => ?_⟩
    rw [hunbroken] at hbroken
    cases hbroken
  · exact hends.elim
  · refine ⟨fun hunbroken => ?_, fun _ => ⟨f, l', rfl⟩⟩
    rw [hends] at hunbroken
    cases hunbroken

/-- In the document with parts that are left out at every depth nothing is broken. -/
theorem read_ends_iff_unbroken_tornDocument :
    IsServiceDocument tornDocument.fieldsOf ∧ documentBreaks tornDocument.fieldsOf = false ∧
      ∃ (service : Service) (l : Ledger) (issues : List Issue),
        read (.object tornDocument.fieldsOf) {} = .ok service l ∧ l.issues = [] ++ issues ∧
        ServiceAccounted tornDocument.fieldsOf service issues := by
  have hdocument : IsServiceDocument tornDocument.fieldsOf := by decide +kernel
  have hunbroken : documentBreaks tornDocument.fieldsOf = false := by decide +kernel
  exact ⟨hdocument, hunbroken, (read_ends_iff_unbroken hdocument {}).1 hunbroken⟩

/-- A document with a schema whose only property has a list for a type. -/
def listTypeDocument : Fields :=
  [("name", "x"), ("schemas", .object [
    ("A", .object [("properties", .object [
      ("b", .object [("type", .list ["string", "null"])])])])])]

/-- Whether a run ends with the fault that an operation does not take values of a kind. -/
def endsOnKind {σ α : Type} : EStateM.Result Failure σ α → Bool
  | .error (.fault .wrongKind) _ => true
  | _ => false

theorem exists_of_endsOnKind {σ α : Type} {r : EStateM.Result Failure σ α}
    (h : endsOnKind r = true) : ∃ s, r = .error (.fault .wrongKind) s := by
  unfold endsOnKind at h
  split at h
  · next s => exact ⟨s, rfl⟩
  · cases h

/-- **A broken item can stop the service**: the document above is one of a service, and its
reading ends with a fault, not with a service without the schema. -/
theorem exists_fault_listTypeDocument :
    IsServiceDocument listTypeDocument ∧
      ∃ l, read (.object listTypeDocument) {} = .error (.fault .wrongKind) l := by
  have hrun : endsOnKind (read (.object listTypeDocument) {}) = true := by decide +kernel
  exact ⟨by decide +kernel, exists_of_endsOnKind hrun⟩

end Document

end ClientGen
