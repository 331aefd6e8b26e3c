import ClientGen.Proofs.Build.Closure
import ClientGen.Proofs.Build.Usable

/-!
# Captured names

The class of a schema is at the top level, and its name is written inside other classes. Where
one of those declares a class with the same name, the name stands for the nested class: it is
**captured**.

Class names at the top level are different from each other, but nothing keeps the name of a
schema from being that of a nested class. So a name resolves to the class of its schema exactly
if no class around it declares it (`ClientGen.resolve?_iff_of_buildDocument`). Nested classes are
those of objects, requests and resources, and their names end accordingly: only a schema with a
name of that form can be captured.
-/

namespace ClientGen

open Build ClientGen.Tree

/-! ### The top level -/

/-- The names at the top level of a forest are those of the entries without an owner. -/
theorem map_name_forest (ds : List Declaration) :
    (CodeModel.ofEntries ds).forest.map Tree.name =
      (placesOf ds none).map (CodeModel.nameAt ds) := by
  have hplaces : ∀ i ∈ placesOf ds none, ∃ d, ds[i]? = some d := by
    intro i hi
    obtain ⟨d, hd, -⟩ := mem_placesOf.1 hi
    exact ⟨d, hd⟩
  rw [CodeModel.forest, CodeModel.ofEntries, CodeModel.withEntries_topLevel,
    CodeModel.withEntries_size]
  cases hlength : ds.length with
  | zero =>
    obtain rfl := List.length_eq_zero_iff.1 hlength
    rfl
  | succ fuel =>
    rw [CodeModel.treesAt, List.map_filterMap, ← List.filterMap_eq_map]
    refine List.filterMap_congr fun i hi => ?_
    obtain ⟨d, hd⟩ := hplaces i hi
    simp [CodeModel.nameAt, hd]

/-- **No two classes at the top level have the same name.** -/
theorem Context.Usable.nodup_forest {c : Context} (hc : c.Usable) {m : CodeModel}
    (h : Over (made c) [] m) : (m.forest.map Tree.name).Nodup := by
  obtain ⟨ds, hds, -, hmade, rfl⟩ := h
  rw [map_name_forest]
  exact hds.nodup_names (fun d hd => (hc.declaration (hmade d hd)).1) none

variable {c : Context} {forest scopes : List Tree} {s : Schema} {u : Tree} {name : String}

/-- The class of a schema is what its name stands for at the top level. -/
theorem IsSchemaClass.find?_eq_some (hu : IsSchemaClass c forest s u)
    (hnames : (forest.map Tree.name).Nodup) (hname : u.name = .str name) :
    forest.find? (·.isClassNamed name) = some u := by
  have hnamed : u.isClassNamed name = true :=
    isClassNamed_iff.2 ⟨isClass_of_baseTypes? hu.bases, hname⟩
  cases hfound : forest.find? (·.isClassNamed name) with
  | none => exact absurd hnamed (List.find?_eq_none.1 hfound u hu.member)
  | some v =>
    have hv : v.isClassNamed name = true := by simpa using List.find?_some hfound
    have hsame : v.name = u.name := (isClassNamed_iff.1 hv).2.trans hname.symm
    rw [List.inj_on_of_nodup_map hnames (List.mem_of_find?_eq_some hfound) hu.member hsame]

/-! ### Capture -/

/-- **A name resolves to the class of its schema exactly if no class around it declares it.** -/
theorem IsSchemaClass.resolve?_eq_some_iff (hu : IsSchemaClass c forest s u)
    (hnames : (forest.map Tree.name).Nodup) (hname : u.name = .str name)
    (haround : ∀ e ∈ scopes, NestsApart c nestedStems e) :
    resolve? forest scopes name = some u ↔ ∀ e ∈ scopes, e.nested? name = none := by
  constructor
  · intro hresolve e he
    by_contra hdeclared
    obtain ⟨e', he', v, hv, hnamed, hres⟩ : ∃ e' ∈ scopes, ∃ v ∈ e'.members,
        v.isClassNamed name = true ∧ resolve? forest scopes name = some v :=
      exists_of_resolve? he hdeclared
    -- a nested class does not have the base of schemas
    obtain rfl := Option.some.inj (hres.symm.trans hresolve)
    exact (haround e' he' v hv (isClassNamed_iff.1 hnamed).1).2 hu.bases
  · intro hfree
    rw [resolve?_of_nested?_eq_none hfree]
    exact hu.find?_eq_some hnames hname

/-- A name that a class declares for a nested class has one of the stems. -/
theorem NestsApart.exists_isStemmed {e : Tree} {stems : List String} (h : NestsApart c stems e)
    (hdeclared : e.nested? name ≠ none) : ∃ stem ∈ stems, IsStemmed "Value" stem (.str name) := by
  obtain ⟨v, hv⟩ := Option.ne_none_iff_exists'.1 hdeclared
  rw [nested?] at hv
  have hnamed : v.isClassNamed name = true := by simpa using List.find?_some hv
  obtain ⟨hclass, hname⟩ := isClassNamed_iff.1 hnamed
  rw [← hname]
  exact (h v (List.mem_of_find?_eq_some hv) hclass).1

/-- **Which names are captured.** Every type that the model of a document takes over from it
stands for a type of the document. If that leads to a schema with a class, the type is written
with the name of the class, and the name resolves to it exactly if no class around declares a
class with that name, which only names that end like those of nested classes allow. -/
theorem resolve?_iff_of_buildDocument {pipeline : Pipeline} {document : Json} {plan : Plan}
    {w : Workbench} (hpipeline : Pipeline.ofConfig {} = .ok pipeline)
    (h : buildDocument {} pipeline document (Workbench.start document) = .ok plan w) :
    ∀ scopes t, Occurs [] w.model.forest scopes t →
      ∀ text ∈ t.writtenTypes plan.context.requestBase, text = .str "string" ∨
        ∃ role type name, Stands plan.context w.model.forest scopes t text role type ∧
          text = .str (type.wrap name) ∧
          ∀ s ∈ plan.context.service.schemas, type.core = .ref (.str s.name) →
            ∀ u, IsSchemaClass plan.context w.model.forest s u →
              u.name = .str name ∧
              (resolve? w.model.forest scopes name = some u ↔
                ∀ e ∈ scopes, e.nested? name = none) ∧
              ∀ e ∈ scopes, e.nested? name ≠ none →
                ∃ stem ∈ nestedStems, IsStemmed "Value" stem (.str name) := by
  have hdefault : Config.HasDefaultDecorators {} := ⟨rfl, rfl, rfl, rfl⟩
  rw [hdefault.ofConfig] at hpipeline
  obtain rfl := Except.ok.inj hpipeline
  obtain ⟨service, l, -, hplan, hbuild⟩ := exists_build_of_buildDocument h
  obtain ⟨rfl, -⟩ := planFor_context hplan
  have hc := default_planFor hplan
  have hnames := hc.usable.nodup_forest (plan.steady_build.over_of_ok Over.nil hbuild)
  obtain ⟨top, resources, schemas, hforest, htop, hresources, hschemas⟩ :=
    Plan.exists_outline (planFor_pipeline hplan) hbuild
  intro scopes t ht text htext
  have hexplained := explained_of_outline hc hforest htop hresources
    (fun s hs => Plan.mem_of_mem_keptSchemas hs) hschemas ht htext
  rcases hexplained.use with hstring | ⟨role, type, name, huse, -⟩
  · exact .inl hstring
  · refine .inr ⟨role, type, name, huse.stands, huse.text, fun s hs hcore u hu => ?_⟩
    have hname : u.name = .str name := by
      have hnamed := huse.named
      rw [hcore] at hnamed
      obtain ⟨s', -, htarget, hfound⟩ := hnamed
      rw [← Json.str.inj htarget] at hfound
      exact Option.some.inj (hu.name.symm.trans hfound)
    exact ⟨hname, hu.resolve?_eq_some_iff hnames hname hexplained.around,
      fun e he hdeclared => (hexplained.around e he).exists_isStemmed hdeclared⟩

/-- A document with schemas whose names are those of the class of an object and of a request, and
one whose name no nested class has. -/
def catalogDocument : Json :=
  .object [("name", "catalog"),
    ("schemas", .object [
      ("FooData", .object [("properties", .object [("u", .object [("type", "string")])])]),
      ("ListRequest", .object [("properties", .object [("size", .object [("type", "string")])])]),
      ("Item", .object [("properties", .object [
        ("foo", .object [("properties", .object [("v", .object [("type", "string")])])]),
        ("bar", .object [("type", "array"), ("items", .object [("$ref", "FooData")])]),
        ("next", .object [("$ref", "Item")])])])]),
    ("resources", .object [("items", .object [("methods", .object [
      ("list", .object [("httpMethod", "POST"), ("path", "items"),
        ("request", .object [("$ref", "Item")]),
        ("response", .object [("$ref", "ListRequest")])])])])])]

/-- The names in the model of the document above, some of them captured. -/
theorem resolve?_iff_catalogDocument :
    Pipeline.ofConfig {} = .ok .registered ∧
    ∃ (plan : Plan) (w : Workbench),
      buildDocument {} .registered catalogDocument (Workbench.start catalogDocument) =
        .ok plan w ∧
      w.model.forest.map (fun t => t.name.text) =
        ["CatalogService", "ItemsResource", "FooData", "ListRequest", "Item"] ∧
      ∀ scopes t, Occurs [] w.model.forest scopes t →
        ∀ text ∈ t.writtenTypes plan.context.requestBase, text = .str "string" ∨
          ∃ role type name, Stands plan.context w.model.forest scopes t text role type ∧
            text = .str (type.wrap name) ∧
            ∀ s ∈ plan.context.service.schemas, type.core = .ref (.str s.name) →
              ∀ u, IsSchemaClass plan.context w.model.forest s u →
                u.name = .str name ∧
                (resolve? w.model.forest scopes name = some u ↔
                  ∀ e ∈ scopes, e.nested? name = none) ∧
                ∀ e ∈ scopes, e.nested? name ≠ none →
                  ∃ stem ∈ nestedStems, IsStemmed "Value" stem (.str name) := by
  have hpipeline : Pipeline.ofConfig {} = .ok .registered :=
    Config.HasDefaultDecorators.ofConfig ⟨rfl, rfl, rfl, rfl⟩
  have hrun : Session.passes
      (fun _ w => w.model.forest.map (fun t => t.name.text) ==
        ["CatalogService", "ItemsResource", "FooData", "ListRequest", "Item"])
      (buildDocument {} .registered catalogDocument (Workbench.start catalogDocument)) =
        true := by
    decide +kernel
  obtain ⟨plan, w, hbuild, hnames⟩ := Session.exists_of_passes hrun
  exact ⟨hpipeline, plan, w, hbuild, eq_of_beq hnames,
    resolve?_iff_of_buildDocument hpipeline hbuild⟩

/-- A document in which the name of a schema is that of the class of an object. -/
def captureDocument : Json :=
  .object [("name", "x"),
    ("schemas", .object [
      ("FooData", .object [("properties", .object [("u", .object [("type", "string")])])]),
      ("A", .object [("properties", .object [
        ("foo", .object [("properties", .object [("v", .object [("type", "string")])])]),
        ("bar", .object [("$ref", "FooData")])])])])]

/-- Inside the class `A`, the type `FooData` of the property `Bar` is not the class `FooData` at
the top level. -/
theorem exists_captured_captureDocument :
    ∃ (plan : Plan) (w : Workbench),
      buildDocument {} .registered captureDocument (Workbench.start captureDocument) =
        .ok plan w ∧
      ∃ e ∈ w.model.forest, e.isClassNamed "A" = true ∧
        (∃ t ∈ e.members, t.name = .str "Bar" ∧
          .str "FooData" ∈ t.writtenTypes plan.context.requestBase) ∧
        ∃ u ∈ w.model.forest, u.isClassNamed "FooData" = true ∧
          resolve? w.model.forest [e] "FooData" ≠ some u := by
  -- the two classes differ in the number of their bases
  have hrun : Session.passes
      (fun plan w => w.model.forest.any fun e => e.isClassNamed "A" &&
        (e.members.any fun t => t.name.isText "Bar" &&
          (t.writtenTypes plan.context.requestBase).any (·.isText "FooData")) &&
        w.model.forest.any fun u => u.isClassNamed "FooData" &&
          decide (((resolve? w.model.forest [e] "FooData").bind baseTypes?).map List.length ≠
            u.baseTypes?.map List.length))
      (buildDocument {} .registered captureDocument (Workbench.start captureDocument)) =
        true := by
    decide +kernel
  obtain ⟨plan, w, hbuild, hrun⟩ := Session.exists_of_passes hrun
  obtain ⟨e, he, h⟩ := List.any_eq_true.1 hrun
  obtain ⟨h, htop⟩ := (Bool.and_eq_true _ _).mp h
  obtain ⟨hname, hproperty⟩ := (Bool.and_eq_true _ _).mp h
  refine ⟨plan, w, hbuild, e, he, hname, ?_, ?_⟩
  · obtain ⟨t, ht, h⟩ := List.any_eq_true.1 hproperty
    obtain ⟨hbar, h⟩ := (Bool.and_eq_true _ _).mp h
    obtain ⟨text, htext, h⟩ := List.any_eq_true.1 h
    exact ⟨t, ht, Json.isText_iff.1 hbar, Json.isText_iff.1 h ▸ htext⟩
  · obtain ⟨u, hu, h⟩ := List.any_eq_true.1 htop
    obtain ⟨hnamed, hbases⟩ := (Bool.and_eq_true _ _).mp h
    refine ⟨u, hu, hnamed, fun hresolve => of_decide_eq_true hbases ?_⟩
    rw [hresolve, Option.bind_some]

end ClientGen
