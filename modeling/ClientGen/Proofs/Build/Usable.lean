import ClientGen.Proofs.Build.Absence
import ClientGen.Proofs.Code.Walk
import ClientGen.Proofs.Naming.Usable

/-!
# Every declared name can be used

In the model of a document every declaration and every parameter has a name that is an
identifier, the names of a scope are told apart, and only constructors have the name of
their class (`ClientGen.usable_of_buildDocument`). This holds for every document and all
lists of decorators, as long as the suffix is disarming: the document cannot bring in a
name that is empty, starts with a digit or is a keyword.

That names are identifiers comes from the way in which they are made; that they are told
apart comes from the entries being coherent. The two meet in one place: names that are
different keys are different only because they are texts.
-/

namespace ClientGen

/-! ### The names of a building -/

/-- A context in which the names of classes can be used, and the suffix is disarming. -/
structure Context.Usable (c : Context) : Prop where
  suffix : ∃ s : String, c.suffix = .str s ∧ IsDisarming s
  serviceClass : IsUsable c.naming.serviceClass
  schemaClasses : Naming.EntriesHave IsUsable c.naming.schemas
  resourceClasses : Naming.EntriesHave IsUsable c.naming.resources

theorem usable_planFor {config : Config} {pipeline : Pipeline} {service : Service} {plan : Plan}
    {suffix : String} (hconfig : config.uniqueSuffix = .str suffix) (hs : IsDisarming suffix)
    (h : planFor config pipeline service = .ok plan) : plan.context.Usable := by
  obtain ⟨naming, hnaming, h⟩ := Outcome.bind_eq_ok.1 h
  cases h
  rw [hconfig] at hnaming
  obtain ⟨hservice, hschemas, hresources⟩ :=
    Naming.entriesHave_resolve (Naming.isUsable_choose hs) hnaming
  exact ⟨⟨suffix, hconfig, hs⟩, hservice, hschemas, hresources⟩

theorem isUsable_of_mem_fixedNames : ∀ name ∈ fixedNames, IsUsable name := by
  decide +kernel

theorem Context.Usable.name {c : Context} (hc : c.Usable) {name : Json} (h : IsName c name) :
    IsUsable name := by
  obtain ⟨suffix, hsuffix, hs⟩ := hc.suffix
  cases h with
  | safe hk h =>
    rw [hsuffix] at h
    exact Identifier.isUsable_safeWith hs hk h
  | service => exact hc.serviceClass
  | schema h => exact hc.schemaClasses _ _ h
  | resource h => exact hc.resourceClasses _ _ h
  | fixed h => exact isUsable_of_mem_fixedNames name h

theorem Context.Usable.parameter {c : Context} (hc : c.Usable) {name : Json}
    (h : IsLocal c name) : IsUsable name := by
  obtain ⟨suffix, hsuffix, hs⟩ := hc.suffix
  cases h with
  | service => decide +kernel
  | initializer => decide +kernel
  | fresh hstart h =>
    rw [hsuffix] at hstart h
    have hsafe := Identifier.isUsable_safeWith hs (List.Subset.refl _) hstart
    exact Identifier.isUsable_freshWithin hs hsafe h

/-! ### Models -/

/-- **A model whose names can be used.** -/
structure CodeModel.Usable (m : CodeModel) : Prop where
  /-- Every declaration has an identifier for a name. -/
  names : ∀ {i : Nat} {d : Declaration}, m.nodes[i]? = some d → IsUsable d.name
  /-- The parameters of constructors and methods have different identifiers for names. -/
  parameters : ∀ {i : Nat} {d : Declaration} {b : MethodBody}, m.nodes[i]? = some d →
    d.body = .method b →
      (∀ a ∈ b.parameters, IsUsable a.name) ∧ (b.parameters.map Argument.name).Nodup
  /-- The names at the top level are different. -/
  topLevel : ∃ names, m.memberNames none = .ok names ∧ names.Nodup
  /-- The names of the members of a class are different. -/
  members : ∀ {i : Nat} {d : Declaration}, m.nodes[i]? = some d → d.isClass = true →
    ∃ names, m.memberNames (some i) = .ok names ∧ names.Nodup
  /-- A member with the name of its class is a constructor. -/
  constructors : ∀ {i j : Nat} {c d : Declaration}, m.nodes[i]? = some c →
    j ∈ m.memberPlaces i → m.nodes[j]? = some d → d.name = c.name → d.isConstructor = true

/-! ### Different keys and different names -/

theorem AreApart.nodup {names : List Json} (h : AreApart names)
    (hu : ∀ name ∈ names, IsUsable name) : names.Nodup := by
  refine List.Pairwise.imp_of_mem (fun {v w} hv _ hvw heq => ?_) h
  rw [← heq, (hu v hv).sameKey_self] at hvw
  cases hvw

/-- The names in a scope of coherent entries are different keys. -/
theorem Coherent.areApart_names {ds : List Declaration} (h : Coherent ds) (owner : Option Int) :
    AreApart ((placesOf ds owner).map (CodeModel.nameAt ds)) := by
  rw [AreApart, List.pairwise_map]
  refine (pairwise_placesOf ds owner).imp_of_mem fun {i j} hi hj hij => ?_
  obtain ⟨d, hd, hdo⟩ := mem_placesOf.1 hi
  obtain ⟨e, he, heo⟩ := mem_placesOf.1 hj
  rw [CodeModel.nameAt, CodeModel.nameAt, hd, he]
  exact h.apart hij hd he (hdo.trans heo.symm)

theorem Coherent.nodup_names {ds : List Declaration} (h : Coherent ds)
    (hu : ∀ d ∈ ds, IsUsable d.name) (owner : Option Int) :
    ((placesOf ds owner).map (CodeModel.nameAt ds)).Nodup := by
  refine (h.areApart_names owner).nodup fun name hname => ?_
  obtain ⟨i, hi, rfl⟩ := List.mem_map.1 hname
  obtain ⟨d, hd, -⟩ := mem_placesOf.1 hi
  rw [CodeModel.nameAt, hd]
  exact hu d (List.mem_of_getElem? hd)

/-! ### Models over declarations as a building makes them -/

theorem Context.Usable.declaration {c : Context} (hc : c.Usable) {d : Declaration} (hd : Made c d) :
    IsUsable d.name ∧ ∀ b, d.body = .method b →
      (∀ a ∈ b.parameters, IsUsable a.name) ∧ (b.parameters.map Argument.name).Nodup := by
  refine ⟨hc.name hd.name, fun b hb => ?_⟩
  have hbody := hd.body
  rw [hb] at hbody
  obtain ⟨-, hparameters, -, -, hapart⟩ := hbody
  have husable : ∀ a ∈ b.parameters, IsUsable a.name :=
    fun a ha => hc.parameter (hparameters a ha).name
  refine ⟨husable, hapart.nodup fun name hname => ?_⟩
  obtain ⟨a, ha, rfl⟩ := List.mem_map.1 hname
  exact husable a ha

theorem Context.Usable.model {c : Context} (hc : c.Usable) {m : CodeModel}
    (h : Over (made c) [] m) : m.Usable := by
  obtain ⟨ds, hds, -, hmade, rfl⟩ := h
  have hu : ∀ d ∈ ds, IsUsable d.name := fun d hd => (hc.declaration (hmade d hd)).1
  -- a declaration of the model is an entry with the places of its members
  have hnode : ∀ {i : Nat} {d : Declaration}, (CodeModel.ofEntries ds).nodes[i]? = some d →
      ∃ e, ds[i]? = some e ∧ settle ds i e = d ∧ Made c d := by
    intro i d hd
    rw [CodeModel.ofEntries, CodeModel.withEntries_nodes] at hd
    obtain ⟨e, he, rfl⟩ := Option.map_eq_some_iff.1 hd
    exact ⟨e, he, rfl, (hmade e (List.mem_of_getElem? he)).mapMembers _⟩
  refine ⟨fun hd => ?_, fun hd hb => ?_, ?_, fun {i d} hd hclass => ?_, ?_⟩
  · obtain ⟨-, -, -, hd⟩ := hnode hd
    exact (hc.declaration hd).1
  · obtain ⟨-, -, -, hd⟩ := hnode hd
    exact (hc.declaration hd).2 _ hb
  · exact ⟨_, CodeModel.memberNames_withEntries_none, hds.nodup_names hu none⟩
  · obtain ⟨e, he, rfl, -⟩ := hnode hd
    have hclass : e.isClass = true := by
      rw [Declaration.isClass, settle_members?] at hclass
      split at hclass
      · assumption
      · cases hclass
    exact ⟨_, CodeModel.memberNames_withEntries_some he hclass, hds.nodup_names hu (some i)⟩
  · intro i j c' d hc' hj hd hname
    obtain ⟨e, he, rfl, -⟩ := hnode hc'
    obtain ⟨f, hf, rfl, -⟩ := hnode hd
    rw [CodeModel.ofEntries, CodeModel.memberPlaces_withEntries hds] at hj
    obtain ⟨f', hf', ho⟩ := mem_placesOf.1 hj
    obtain rfl : f = f' := Option.some.inj (hf.symm.trans hf')
    rw [settle_name, settle_name] at hname
    rw [settle, Declaration.mapMembers_isConstructor]
    refine hds.constructors hf ho he ?_
    rw [hname]
    exact (hu e (List.mem_of_getElem? he)).sameKey_self

/-! ### Documents -/

/-- **Every declared name can be used**: in the model of a document, whatever the decorators,
if the suffix is disarming. -/
theorem usable_of_buildDocument {config : Config} {pipeline : Pipeline} {document : Json}
    {plan : Plan} {w : Workbench} {suffix : String} (hconfig : config.uniqueSuffix = .str suffix)
    (hs : IsDisarming suffix)
    (h : buildDocument config pipeline document (Workbench.start document) = .ok plan w) :
    w.model.Usable := by
  obtain ⟨service, l, -, hplan, hbuild⟩ := exists_build_of_buildDocument h
  have hover : Over (made plan.context) [] w.model :=
    plan.steady_build.over_of_ok Over.nil hbuild
  exact (usable_planFor hconfig hs hplan).model hover

/-- A document whose names are keywords, start with digits or have no letters at all. -/
def awkwardDocument : Json :=
  .object [("name", "class"),
    ("schemas", .object [
      ("string", .object [("properties", .object [
        ("1st", .object [("type", "string")]),
        ("!", .object [("properties", .object [("new", .object [("type", "string")])])]),
        ("object", .object [("$ref", "String")])])]),
      ("String", .object [])]),
    ("resources", .object [
      ("in", .object [("methods", .object [
        ("new", .object [("httpMethod", "POST"), ("path", "new"),
          ("request", .object [("$ref", "string")]),
          ("parameters", .object [
            ("service", .object [("type", "string"), ("location", "query"),
              ("required", .bool true)]),
            ("in", .object [("type", "string"), ("location", "query"),
              ("required", .bool true)])])])])])])]

/-- The names in the model of the document above, with another suffix than the default. -/
theorem usable_awkwardDocument :
    IsDisarming "Item" ∧ ∃ (plan : Plan) (w : Workbench),
      buildDocument { uniqueSuffix := "Item" } Pipeline.registered awkwardDocument
        (Workbench.start awkwardDocument) = .ok plan w ∧
      w.model.nodes.toList.map (fun d => d.name.text) =
        ["ClassService", "InResource", "Resource", "Service", "InResource", "NewRequest",
         "MethodName", "HttpMethod", "RestPath", "ServiceItem", "InItem", "Body", "GetBody",
         "NewRequest", "NewItem", "Version", "Name", "InItem", "ClassService", "StringItem",
         "Item1St", "Item", "Data", "NewItem", "ObjectItem", "ETag", "StringItemItem", "ETag"] ∧
      w.model.Usable := by
  have hs : IsDisarming "Item" := by decide +kernel
  have hnames : (match buildDocument { uniqueSuffix := "Item" } Pipeline.registered awkwardDocument
      (Workbench.start awkwardDocument) with
    | .ok _ w => w.model.nodes.toList.map fun d => d.name.text
    | .error _ _ => []) =
      ["ClassService", "InResource", "Resource", "Service", "InResource", "NewRequest",
       "MethodName", "HttpMethod", "RestPath", "ServiceItem", "InItem", "Body", "GetBody",
       "NewRequest", "NewItem", "Version", "Name", "InItem", "ClassService", "StringItem",
       "Item1St", "Item", "Data", "NewItem", "ObjectItem", "ETag", "StringItemItem", "ETag"] := by
    decide +kernel
  cases hbuild : buildDocument { uniqueSuffix := "Item" } Pipeline.registered awkwardDocument
      (Workbench.start awkwardDocument) with
  | error e w =>
    rw [hbuild] at hnames
    cases hnames
  | ok plan w =>
    rw [hbuild] at hnames
    exact ⟨hs, plan, w, rfl, hnames, usable_of_buildDocument rfl hs hbuild⟩

end ClientGen
