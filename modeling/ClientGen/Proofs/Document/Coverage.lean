import ClientGen.Proofs.Document.Accounting

/-!
# Readings without issues

What a document has under a key and cannot be read is left out of the service, and an issue is
recorded. So a reading that ends without issues has left nothing out: there is a schema for each
key of the schemas, a resource for each key of the resources, and inside each resource a method
for each key of its methods, all in the order of the document
(`ClientGen.Document.covers_read`).
-/

namespace ClientGen.Document

mutual

/-- **A resource covers a value of a document**: it has a method for each key of the methods,
and its resources cover those of the value. -/
inductive ResourceCovers : (name path : String) → Json → Resource → Prop
  | intro {name path : String} {fields : Fields} {methods : List Method}
    {resources : List Resource}
    (hmethods : methods.map Method.name = (fields.objectAt "methods").map Prod.fst)
    (hresources : ResourcesCover (dotted path) (fields.objectAt "resources") resources) :
    ResourceCovers name path (.object fields) ⟨name, methods, resources, path⟩

/-- **Resources cover entries of a document**, one by one. -/
inductive ResourcesCover : (pathOf : String → String) → Fields → List Resource → Prop
  | nil {pathOf : String → String} : ResourcesCover pathOf [] []
  | cons {pathOf : String → String} {name : String} {value : Json} {rest : Fields} {r : Resource}
    {rs : List Resource} (hr : ResourceCovers name (pathOf name) value r)
    (hrest : ResourcesCover pathOf rest rs) :
    ResourcesCover pathOf ((name, value) :: rest) (r :: rs)

end

theorem ResourceCovers.path_eq {name path : String} {value : Json} {r : Resource}
    (h : ResourceCovers name path value r) : r.path = path := by
  cases h
  rfl

mutual

theorem ResourceAccounted.covers {names : List String} {name path : String} {value : Json}
    {r? : Option Resource} {issues : List Issue} (hnone : issues = []) :
    ResourceAccounted names name path value r? issues →
      ∃ r, r? = some r ∧ ResourceCovers name path value r
  | .kept hmethods hresources => by
    obtain ⟨hofMethods, hofResources⟩ := List.append_eq_nil_iff.1 hnone
    exact ⟨_, rfl, .intro (hmethods.names_eq (fun _ _ _ hread => hread.name_eq) hofMethods)
      (hresources.cover hofResources)⟩
  | .leftOut _ => by cases hnone

theorem ResourcesAccounted.cover {names : List String} {pathOf : String → String}
    {entries : Fields} {rs : List Resource} {issues : List Issue} (hnone : issues = []) :
    ResourcesAccounted names pathOf entries rs issues → ResourcesCover pathOf entries rs
  | .nil => .nil
  | .cons hr hrest => by
    obtain ⟨hhere, hlater⟩ := List.append_eq_nil_iff.1 hnone
    obtain ⟨r, rfl, hcovers⟩ := hr.covers hhere
    exact .cons hcovers (hrest.cover hlater)

end

/-- **A reading without issues covers the document.** -/
theorem covers_read {document : Json} {l l' : Ledger} {service : Service}
    (h : read document l = .ok service l') (hl : l'.issues = []) :
    ∃ fields : Fields, document = .object fields ∧
      ResourcesCover id (fields.objectAt "resources") service.resources ∧
      service.schemas.map Schema.name = (fields.objectAt "schemas").map Prod.fst := by
  obtain ⟨fields, l₀, l₁, rfl, -, hschemas, hresources⟩ := exists_of_read h
  obtain ⟨ofResources, hl', hresources⟩ := (ends_readResources id _ _).of_ok hresources
  obtain ⟨ofSchemas, hl₁, hschemas⟩ := (ends_readSchemas _).of_ok hschemas
  rw [hl', hl₁, List.append_eq_nil_iff, List.append_eq_nil_iff] at hl
  obtain ⟨⟨-, hofSchemas⟩, hofResources⟩ := hl
  exact ⟨fields, rfl, hresources.cover hofResources,
    hschemas.names_eq (fun _ _ _ hread => hread.name_eq) hofSchemas⟩

end ClientGen.Document
