import ClientGen.Proofs.Build.Made
import ClientGen.Proofs.CSharp.Literal
import ClientGen.Proofs.Naming.Words

/-!
# Plain contexts

A context is **plain** (`ClientGen.Context.Plain`) if its suffix and the names chosen for
classes are words and the base classes that it is configured with are inert code. A plan
with a suffix and base classes of this kind has a plain context, whatever the document
(`ClientGen.plain_planFor`).

In a plain context the names, types and texts of the target language that a building puts
into declarations are all inert code: the document has no way to bring a quote, a slash or
a brace into them.
-/

namespace ClientGen

open Output

/-! ### Inert values -/

/-- A value that is inert code. -/
def IsCode (v : Json) : Prop :=
  ∃ s : String, v = .str s ∧ Inert s

instance : DecidablePred IsCode :=
  Json.decidableText fun _ => inferInstance

theorem Output.Inert.isCode {s : String} (h : Inert s) : IsCode (.str s) :=
  ⟨s, rfl, h⟩

theorem IsCode.inert_text {v : Json} (h : IsCode v) : Inert v.text := by
  obtain ⟨s, rfl, hs⟩ := h
  exact hs

theorem IsCode.inert_of_written {v : Json} {text : String} (h : IsCode v)
    (ht : v.written = .ok text) : Inert text := by
  obtain ⟨s, rfl, hs⟩ := h
  cases ht
  exact hs

theorem IsWord.isCode {v : Json} (h : IsWord v) : IsCode v := by
  obtain ⟨s, rfl, hs⟩ := h
  exact ⟨s, rfl, fun c hc => isInert_of_isAlphanum (hs c hc)⟩

namespace TypeName

theorem inert_of_ofFormat? {name format text : String} (h : ofFormat? name format = some text) :
    Inert text := by
  unfold ofFormat? at h
  split at h <;> cases h <;> decide

theorem inert_ofPrimitive {name : String} {format : Json} {text : String}
    (h : ofPrimitive name format = .ok text) : Inert text := by
  have hname : Inert (ofName name) := by
    unfold ofName
    split <;> decide
  obtain ⟨f?, -, h⟩ := Outcome.bind_eq_ok.1 h
  split at h
  · rename_i f
    cases h
    cases hf : ofFormat? name f with
    | none => exact hname
    | some text => exact inert_of_ofFormat? hf
  · cases h
    exact hname

theorem inert_listOf {item : String} (h : Inert item) : Inert (listOf item) :=
  (Inert.append (by decide) h).append (by decide)

theorem inert_tableOf {value : String} (h : Inert value) : Inert (tableOf value) :=
  (Inert.append (by decide) h).append (by decide)

end TypeName

/-! ### Contexts -/

/-- **A plain context.** -/
structure Context.Plain (c : Context) : Prop where
  suffix : IsWord c.suffix
  serviceClass : IsWord c.naming.serviceClass
  schemaClasses : Naming.HasWords c.naming.schemas
  resourceClasses : Naming.HasWords c.naming.resources
  named : ∀ s ∈ c.service.schemas, c.naming.schemas.has s.name = true
  serviceBase : IsCode c.config.serviceBaseClass
  requestBase : IsCode c.config.requestBaseClass
  schemaBase : IsCode c.config.schemaBaseInterface

/-- **The context of a plan is plain**, if the suffix and the base classes allow it. -/
theorem plain_planFor {config : Config} {pipeline : Pipeline} {service : Service} {plan : Plan}
    (hs : IsWord config.uniqueSuffix) (hservice : IsCode config.serviceBaseClass)
    (hrequest : IsCode config.requestBaseClass) (hschema : IsCode config.schemaBaseInterface)
    (h : planFor config pipeline service = .ok plan) : plan.context.Plain := by
  obtain ⟨naming, hnaming, h⟩ := Outcome.bind_eq_ok.1 h
  cases h
  obtain ⟨hclass, hschemas, hresources, hnamed⟩ := Naming.isWord_resolve hs hnaming
  exact ⟨hs, hclass, hschemas, hresources, hnamed, hservice, hrequest, hschema⟩

variable {c : Context}

namespace Context.Plain

variable (hc : c.Plain)

include hc

/-! ### Names -/

theorem isCode_name {name : Json} (h : IsName c name) : IsCode name := by
  cases h with
  | safe _ h => exact (Identifier.isWord_safeWith hc.suffix h).isCode
  | service => exact hc.serviceClass.isCode
  | schema h => exact (hc.schemaClasses _ _ h).isCode
  | resource h => exact (hc.resourceClasses _ _ h).isCode
  | fixed h =>
    have hfixed : ∀ name ∈ fixedNames, IsCode name := by decide
    exact hfixed name h

theorem isCode_local {name : Json} (h : IsLocal c name) : IsCode name := by
  cases h with
  | service => decide
  | initializer => decide
  | fresh hs h =>
    have hstart := Identifier.isWord_safeWith hc.suffix hs
    exact (Identifier.isWord_freshWithin hc.suffix hstart h).isCode

theorem isCode_snippet {text : Json} (h : IsSnippet c text) : IsCode text := by
  rcases h with h | h
  · have hfixed : ∀ text ∈ fixedSnippets, IsCode text := by decide
    exact hfixed text h
  · exact hc.isCode_local h

/-! ### Types -/

/-- The class of a schema: a name that is known is a text with an entry. -/
theorem isCode_className {target location type : Json}
    (h : c.schemaIndex.className target location = .ok type) : IsCode type := by
  obtain ⟨key, -, h⟩ := Outcome.bind_eq_ok.1 h
  split at h
  · -- a known key is the name of a schema, which was given a class
    rename_i hknown
    obtain ⟨_, hmem, hsame⟩ := List.any_eq_true.1 hknown
    obtain ⟨s, hs, rfl⟩ := List.mem_map.1 hmem
    obtain rfl := Json.eq_of_sameKey_str hsame
    obtain ⟨name, hname⟩ := Option.isSome_iff_exists.1 (hc.named s hs)
    have hfound : c.schemaIndex.classes.find? s.name = some name := hname
    cases h
    rw [hfound]
    exact (hc.schemaClasses _ _ hname).isCode
  · cases h

theorem isCode_ofType {location inline : Json} (hi : inline = .null ∨ IsName c inline) :
    ∀ {t : TypeRef} {type : Json},
      TypeName.ofType c.schemaIndex location inline t = .ok type → IsCode type
  | .primitive name format _, type, h => by
    obtain ⟨text, htext, h⟩ := Outcome.bind_eq_ok.1 h
    cases h
    exact (TypeName.inert_ofPrimitive htext).isCode
  | .ref target, type, h => hc.isCode_className h
  | .array items, type, h => by
    obtain ⟨item, hitem, h⟩ := Outcome.bind_eq_ok.1 h
    obtain ⟨text, htext, h⟩ := Outcome.bind_eq_ok.1 h
    cases h
    exact (TypeName.inert_listOf ((isCode_ofType hi hitem).inert_of_written htext)).isCode
  | .map values, type, h => by
    obtain ⟨value, hvalue, h⟩ := Outcome.bind_eq_ok.1 h
    obtain ⟨text, htext, h⟩ := Outcome.bind_eq_ok.1 h
    cases h
    exact (TypeName.inert_tableOf ((isCode_ofType hi hvalue).inert_of_written htext)).isCode
  | .object name schema, type, h => by
    cases h
    split
    · rcases hi with rfl | hi
      · contradiction
      · exact hc.isCode_name hi
    · exact (Inert.append (Identifier.isWord_pascal name).isCode.inert_text (by decide)).isCode
  | .any _, type, h => by
    cases h
    decide

theorem isCode_type {type : Json} (h : IsType c type) : IsCode type := by
  induction h with
  | ofType hi h => exact hc.isCode_ofType hi h
  | list _ ht ih =>
    exact (TypeName.inert_listOf (ih.inert_of_written ht)).isCode
  | ofName h => exact hc.isCode_name h
  | initializer => exact (hc.serviceBase.inert_text.append (by decide)).isCode
  | fixed h =>
    have hfixed : ∀ type ∈ fixedTypes, IsCode type := by decide
    exact hfixed _ h

theorem isCode_base {type : Json} (h : IsBase c type) : IsCode type := by
  cases h with
  | service => exact hc.serviceBase
  | request h ht =>
    have hargument := (hc.isCode_type h).inert_of_written ht
    exact (((hc.requestBase.inert_text.append (by decide)).append hargument).append
      (by decide)).isCode
  | schema => exact hc.schemaBase

end Context.Plain

end ClientGen
