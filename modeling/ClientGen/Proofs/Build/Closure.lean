import ClientGen.Proofs.Build.Complete
import ClientGen.Proofs.Build.Explained

/-!
# Closed references

A type that a model takes over from the document names a class when it leads to a schema or to
an object described on the spot. Such a name is **closed** if the class is in the model: the
class of the schema at the top level, or a class right inside the class where the name is
written (`ClientGen.IsClosed`).

Not all names are closed. A schema that meets an issue is taken back, but other schemas and
requests go on naming its class; and an object that describes a parameter gets a name, but no
class. These are the only names that are not closed
(`ClientGen.isClosed_iff_of_buildDocument`).
-/

namespace ClientGen

open Build ClientGen.Tree

/-- **A name for the core of a type is closed** inside some scopes: there is the class that it
should stand for. -/
def IsClosed (c : Context) (forest scopes : List Tree) : TypeRef → String → Prop
  | .ref target, name => ∃ s ∈ c.service.schemas, target = .str s.name ∧
      ∃ u, IsSchemaClass c forest s u ∧ u.name = .str name
  | .object _ _, name => ∃ e ∈ scopes.head?, ∃ u ∈ e.members, u.isClassNamed name = true
  | _, _ => True

/-- **The core of a type dangles**: it refers to one of the schemas that failed, or it describes
an object on the spot outside of fields. -/
def Dangles (failed : List String) (role : TypeRole) : TypeRef → Prop
  | .ref target => ∃ name ∈ failed, target = .str name
  | .object _ _ => role ≠ .field
  | _ => False

/-! ### The schemas that have a class -/

namespace Plan

variable {plan : Plan} {w : Workbench} {s : Schema} {schemas : List Schema}

theorem mem_of_mem_keptSchemas (h : s ∈ plan.keptSchemas schemas w) : s ∈ schemas := by
  induction schemas generalizing w with
  | nil => cases h
  | cons s' rest ih =>
    rw [keptSchemas] at h
    split at h
    · dsimp only at h
      split at h
      · exact List.mem_cons_of_mem _ (ih h)
      · rcases List.mem_cons.1 h with rfl | h
        · exact List.mem_cons_self
        · exact List.mem_cons_of_mem _ (ih h)
    · exact List.mem_cons_of_mem _ (ih h)

theorem keptSchemas_cons (h : plan.context.ignoresSchema s.name = .ok false) :
    plan.keptSchemas (s :: schemas) w =
      let later := plan.keptSchemas schemas ((guarded s.path (plan.buildSchema s)).after w)
      if (plan.buildSchema s).meetsIssue w then later else s :: later := by
  simp only [keptSchemas, h]

/-- Where no schema is to be left out, one that was kept has not met an issue, if it is the only
one with its name. -/
theorem not_mem_failing_of_mem_keptSchemas
    (hignored : ∀ s ∈ schemas, plan.context.ignoresSchema s.name = .ok false)
    (hnames : (schemas.map Schema.name).Nodup) (h : s ∈ plan.keptSchemas schemas w) :
    s.name ∉ plan.failing schemas w := by
  induction schemas generalizing w with
  | nil => cases h
  | cons s' rest ih =>
    obtain ⟨hfirst, hrest⟩ := List.forall_mem_cons.1 hignored
    obtain ⟨hnew, hnames⟩ := List.nodup_cons.1 hnames
    rw [keptSchemas_cons hfirst] at h
    rw [failing_cons_of_kept hfirst]
    dsimp only at h ⊢
    split at h
    · rename_i hissue
      rw [if_pos hissue]
      have hother : s.name ≠ s'.name := by
        intro hname
        exact hnew (hname ▸ List.mem_map_of_mem (mem_of_mem_keptSchemas h))
      exact List.not_mem_cons_of_ne_of_not_mem hother (ih hrest hnames h)
    · rename_i hfine
      rw [if_neg hfine]
      rcases List.mem_cons.1 h with rfl | h
      · exact fun hmem => hnew (name_mem_of_mem_failing hmem)
      · exact ih hrest hnames h

/-- A schema that is not to be left out and has not met an issue was kept. -/
theorem mem_keptSchemas_of_not_mem_failing
    (hignored : ∀ s ∈ schemas, plan.context.ignoresSchema s.name = .ok false) (hs : s ∈ schemas)
    (h : s.name ∉ plan.failing schemas w) : s ∈ plan.keptSchemas schemas w := by
  induction schemas generalizing w with
  | nil => cases hs
  | cons s' rest ih =>
    obtain ⟨hfirst, hrest⟩ := List.forall_mem_cons.1 hignored
    rw [failing_cons_of_kept hfirst] at h
    rw [keptSchemas_cons hfirst]
    dsimp only at h ⊢
    split at h
    · rename_i hissue
      rw [if_pos hissue]
      rcases List.mem_cons.1 hs with rfl | hs
      · exact absurd List.mem_cons_self h
      · exact ih hrest hs fun hmem => h (List.mem_cons_of_mem _ hmem)
    · rename_i hfine
      rw [if_neg hfine]
      rcases List.mem_cons.1 hs with rfl | hs
      · exact List.mem_cons_self
      · exact List.mem_cons_of_mem _ (ih hrest hs h)

end Plan

variable {c : Context} {forest : List Tree}

/-- **A schema has a class at the top level exactly if it was kept**, up to its name. -/
theorem exists_isSchemaClass_iff (hc : c.Default) {service : Tree} {resources schemas : List Tree}
    (hforest : forest = service :: (resources ++ schemas)) (hservice : ServiceTree c service)
    {lost : String → Prop} (hresources : ResourceTrees c lost c.service.resources resources)
    {kept : List Schema} (hschemas : List.Forall₂ (SchemaTree c) kept schemas) {s : Schema} :
    (∃ u, IsSchemaClass c forest s u) ↔ ∃ s' ∈ kept, s'.name = s.name := by
  constructor
  · rintro ⟨u, hmember, hname, hbases⟩
    rw [hforest, List.mem_cons, List.mem_append] at hmember
    rcases hmember with rfl | hu | hu
    · -- the class of the service has another base
      obtain ⟨-⟩ := hservice
      rw [hc.schemaBases_eq, Tree.baseTypes?, hc.config] at hbases
      simp [Declaration.ofClass] at hbases
    · have hapart := hc.nestsApart_of_resourceTrees hresources u hu (isClass_of_baseTypes? hbases)
      exact absurd hbases hapart.2
    · obtain ⟨s', hs', htree⟩ := exists_left_of_forall₂ hschemas hu
      cases htree with
      | intro hname' _ _ => exact ⟨s', hs', hc.injective _ _ _ hname' hname⟩
  · rintro ⟨s', hs', hname⟩
    obtain ⟨u, hu, htree⟩ := exists_right_of_forall₂ hschemas hs'
    have hmember : u ∈ forest := by
      rw [hforest]
      exact List.mem_cons_of_mem _ (List.mem_append_right _ hu)
    refine ⟨u, hmember, ?_, ?_⟩
    · cases htree with
      | intro hname' _ _ => exact hname ▸ hname'
    · cases htree with
      | intro _ _ _ => rfl

/-! ### Closed names -/

variable {scopes : List Tree} {t : Tree} {text : Json} {role : TypeRole} {type : TypeRef}
  {name : String} {failed : List String}

/-- The class that a field suggests for its object is not among the classes of requests and
resources: it has another last letter. -/
theorem not_isClassNamed_inlineClass {e u : Tree} {label : String}
    (hapart : NestsApart c ["Request", "Resource"] e) (hu : u ∈ e.members) :
    u.isClassNamed (TypeName.inlineClass label) ≠ true := by
  intro hnamed
  obtain ⟨hclass, hname⟩ := isClassNamed_iff.1 hnamed
  obtain ⟨⟨stem, hstem, written, hwritten, hform⟩, -⟩ := hapart u hu hclass
  rw [hname] at hwritten
  obtain rfl := Json.str.inj hwritten
  have hlast : (TypeName.inlineClass label).toList.getLast? = some 'a' := by
    rw [TypeName.inlineClass, String.toList_append, List.getLast?_append_of_ne_nil _ (by decide)]
    decide
  have hne : stem.toList ≠ [] ∧ stem.toList.getLast? ≠ some 'a' := by
    simp only [List.mem_cons, List.not_mem_nil, or_false] at hstem
    rcases hstem with rfl | rfl <;> decide
  rcases hform.getLast? hne.1 (by decide) with h | h
  · exact hne.2 (h.symm.trans hlast)
  · exact absurd (h.symm.trans hlast) (by decide)

/-- **A name is closed unless its core dangles**, if exactly the schemas that failed have no
class. -/
theorem isClosed_iff_not_dangles
    (hpresent : ∀ s ∈ c.service.schemas, (∃ u, IsSchemaClass c forest s u) ↔ s.name ∉ failed)
    (hnamed : IsNamed c scopes role type.core name)
    (hhead : role ≠ .field → ∀ e ∈ scopes.head?, NestsApart c ["Request", "Resource"] e) :
    IsClosed c forest scopes type.core name ↔ ¬ Dangles failed role type.core := by
  cases hcore : type.core with
  | ref target =>
    rw [hcore] at hnamed
    obtain ⟨s, hs, rfl, hname⟩ := hnamed
    constructor
    · rintro ⟨s', hs', heq, u, hu, -⟩ ⟨n, hn, hfailed⟩
      have hkept := (hpresent s' hs').1 ⟨u, hu⟩
      rw [Json.str.inj (heq.symm.trans hfailed)] at hkept
      exact hkept hn
    · intro hfine
      obtain ⟨u, hu⟩ := (hpresent s hs).2 fun hmem => hfine ⟨s.name, hmem, rfl⟩
      exact ⟨s, hs, rfl, u, hu, Option.some.inj (hu.name.symm.trans hname)⟩
  | object label described =>
    rw [hcore] at hnamed
    cases role with
    | field => exact ⟨fun _ hne => hne rfl, fun _ => hnamed⟩
    | parameter | message =>
      have hother := hhead nofun
      obtain rfl : name = TypeName.inlineClass label := hnamed
      constructor
      · rintro ⟨e, he, u, hu, hclass⟩
        exact absurd hclass (not_isClassNamed_inlineClass (hother e he) hu)
      · exact fun hfine => absurd nofun hfine
  | _ => exact ⟨fun _ => id, fun _ => trivial⟩

/-- **Which names are closed.** Every type that the model of a document takes over from it
stands for a type of the document, and its name is closed exactly if its core does not dangle:
it refers to no schema that met an issue, and describes no object for a parameter. -/
theorem isClosed_iff_of_buildDocument {pipeline : Pipeline} {document : Json} {plan : Plan}
    {w : Workbench} (hpipeline : Pipeline.ofConfig {} = .ok pipeline)
    (hd : document.hasDistinctKeys = true)
    (h : buildDocument {} pipeline document (Workbench.start document) = .ok plan w) :
    ∃ l : Ledger, Document.read document (Workbench.start document).ledger =
        .ok plan.context.service l ∧
      ∀ scopes t, Occurs [] w.model.forest scopes t →
        ∀ text ∈ t.writtenTypes plan.context.requestBase, text = .str "string" ∨
          ∃ role type name, Stands plan.context w.model.forest scopes t text role type ∧
            text = .str (type.wrap name) ∧
            (IsClosed plan.context w.model.forest scopes type.core name ↔
              ¬ Dangles (plan.failedSchemas ⟨{}, l⟩) role type.core) := by
  have hdefault : Config.HasDefaultDecorators {} := ⟨rfl, rfl, rfl, rfl⟩
  rw [hdefault.ofConfig] at hpipeline
  obtain rfl := Except.ok.inj hpipeline
  obtain ⟨service, l, hread, hplan, hbuild⟩ := exists_build_of_buildDocument h
  obtain ⟨rfl, hconfig⟩ := planFor_context hplan
  have hc := default_planFor hplan
  have hnames := Document.nodup_schemaNames hd hread
  obtain ⟨top, resources, schemas, hforest, htop, hresources, hschemas⟩ :=
    Plan.exists_outline (planFor_pipeline hplan) hbuild
  have hignored : ∀ s ∈ plan.context.service.schemas,
      plan.context.ignoresSchema s.name = .ok false := by
    intro s _
    rw [Context.ignoresSchema, hconfig]
    rfl
  -- the schemas that were kept are those that have not failed
  have hpresent : ∀ s ∈ plan.context.service.schemas,
      (∃ u, IsSchemaClass plan.context w.model.forest s u) ↔
        s.name ∉ plan.failedSchemas ⟨{}, l⟩ := by
    intro s hs
    rw [exists_isSchemaClass_iff hc hforest htop hresources hschemas]
    constructor
    · rintro ⟨s', hs', hname⟩
      rw [← hname]
      exact Plan.not_mem_failing_of_mem_keptSchemas hignored hnames hs'
    · intro hfine
      exact ⟨s, Plan.mem_keptSchemas_of_not_mem_failing hignored hs hfine, rfl⟩
  refine ⟨l, hread, fun scopes t ht text htext => ?_⟩
  have hexplained := explained_of_outline hc hforest htop hresources
    (fun s hs => Plan.mem_of_mem_keptSchemas hs) hschemas ht htext
  rcases hexplained.use with hstring | ⟨role, type, name, huse, hhead⟩
  · exact .inl hstring
  · exact .inr ⟨role, type, name, huse.stands, huse.text,
      isClosed_iff_not_dangles hpresent huse.named hhead⟩

/-- A document with references to a schema that fails, and objects described on the spot for a
field and for a parameter. -/
def pressDocument : Json :=
  .object [("name", "press"),
    ("schemas", .object [
      ("Page", .object [("properties", .object [
        ("book", .object [("$ref", "Book")]),
        ("notes", .object [("type", "array"), ("items", .object [("type", "object"),
          ("properties", .object [("text", .object [("type", "string")])])])]),
        ("next", .object [("$ref", "Page")])])]),
      ("Book", .object [("properties", .object [("cover", .object [("$ref", "Nope")])])])]),
    ("resources", .object [("pages", .object [("methods", .object [
      ("put", .object [("httpMethod", "PUT"), ("path", "pages"),
        ("request", .object [("$ref", "Page")]), ("response", .object [("$ref", "Book")]),
        ("parameters", .object [("mark", .object [("location", "query"), ("type", "object"),
          ("properties", .object [("v", .object [("type", "string")])])])])])])])])]

/-- In the model of the document above, `Book` is the one schema whose class is missing. -/
theorem isClosed_iff_pressDocument :
    Pipeline.ofConfig {} = .ok .registered ∧ pressDocument.hasDistinctKeys = true ∧
    ∃ (plan : Plan) (w : Workbench) (l : Ledger),
      buildDocument {} .registered pressDocument (Workbench.start pressDocument) = .ok plan w ∧
      w.model.forest.map (fun t => t.name.text) = ["PressService", "PagesResource", "Page"] ∧
      plan.failedSchemas ⟨{}, l⟩ = ["Book"] ∧
      ∀ scopes t, Occurs [] w.model.forest scopes t →
        ∀ text ∈ t.writtenTypes plan.context.requestBase, text = .str "string" ∨
          ∃ role type name, Stands plan.context w.model.forest scopes t text role type ∧
            text = .str (type.wrap name) ∧
            (IsClosed plan.context w.model.forest scopes type.core name ↔
              ¬ Dangles ["Book"] role type.core) := by
  have hpipeline : Pipeline.ofConfig {} = .ok .registered :=
    Config.HasDefaultDecorators.ofConfig ⟨rfl, rfl, rfl, rfl⟩
  have hkeys : pressDocument.hasDistinctKeys = true := by decide +kernel
  have hrun : Session.passes
      (fun plan w => w.model.forest.map (fun t => t.name.text) ==
          ["PressService", "PagesResource", "Page"] &&
        Session.passes (fun _ l => plan.failedSchemas ⟨{}, l⟩ == ["Book"])
          (Document.read pressDocument (Workbench.start pressDocument).ledger))
      (buildDocument {} .registered pressDocument (Workbench.start pressDocument)) = true := by
    decide +kernel
  obtain ⟨plan, w, hbuild, hrun⟩ := Session.exists_of_passes hrun
  obtain ⟨hnames, hreading⟩ := (Bool.and_eq_true _ _).mp hrun
  obtain ⟨l, hread, hclosed⟩ := isClosed_iff_of_buildDocument hpipeline hkeys hbuild
  rw [hread] at hreading
  have hfailed : plan.failedSchemas ⟨{}, l⟩ = ["Book"] := eq_of_beq hreading
  rw [hfailed] at hclosed
  exact ⟨hpipeline, hkeys, plan, w, l, hbuild, eq_of_beq hnames, hfailed, hclosed⟩

/-- A document in which a schema refers to one that fails. -/
def danglingDocument : Json :=
  .object [("name", "x"),
    ("schemas", .object [
      ("A", .object [("properties", .object [("b", .object [("$ref", "B")])])]),
      ("B", .object [("properties", .object [("c", .object [("$ref", "Nope")])])])])]

/-- The class `A` has a property of type `B`, and there is no class `B`. -/
theorem exists_dangling_danglingDocument :
    ∃ (plan : Plan) (w : Workbench),
      buildDocument {} .registered danglingDocument (Workbench.start danglingDocument) =
        .ok plan w ∧
      (∃ e ∈ w.model.forest, e.isClassNamed "A" = true ∧
        ∃ t ∈ e.members, .str "B" ∈ t.writtenTypes plan.context.requestBase) ∧
      ∀ u ∈ w.model.forest, u.isClassNamed "B" = false := by
  have hrun : Session.passes
      (fun plan w => (w.model.forest.any fun e => e.isClassNamed "A" && e.members.any fun t =>
          (t.writtenTypes plan.context.requestBase).any (·.isText "B")) &&
        w.model.forest.all fun u => !u.isClassNamed "B")
      (buildDocument {} .registered danglingDocument (Workbench.start danglingDocument)) =
        true := by
    decide +kernel
  obtain ⟨plan, w, hbuild, hrun⟩ := Session.exists_of_passes hrun
  obtain ⟨hwritten, hmissing⟩ := (Bool.and_eq_true _ _).mp hrun
  refine ⟨plan, w, hbuild, ?_, fun u hu => by simpa using List.all_eq_true.1 hmissing u hu⟩
  obtain ⟨e, he, h⟩ := List.any_eq_true.1 hwritten
  obtain ⟨hname, h⟩ := (Bool.and_eq_true _ _).mp h
  obtain ⟨t, ht, h⟩ := List.any_eq_true.1 h
  obtain ⟨text, htext, h⟩ := List.any_eq_true.1 h
  exact ⟨e, he, hname, t, ht, Json.isText_iff.1 h ▸ htext⟩

end ClientGen
