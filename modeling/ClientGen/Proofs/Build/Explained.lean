import ClientGen.Proofs.Build.Mentions

/-!
# Every written type is explained

For every type that a built model takes over from the document there is a type of the document
that it stands for (`ClientGen.explained_of_outline`). The proof goes through the outline of
the model: the fields of schemas and of objects described on the spot, the requests, the
resources.

What classes there are inside the classes around a written type is told along the way. They are
no classes of schemas, and their names have the stems of nested classes.
-/

namespace ClientGen

open Build Decorator ClientGen.Tree

/-! ### Nested classes -/

variable {c : Context} {forest : List Tree}

/-- The base class of requests, as it is configured. -/
abbrev Context.requestBase (c : Context) : String :=
  c.config.requestBaseClass.text

theorem NestsApart.mono {stems stems' : List String} {e : Tree} (h : NestsApart c stems e)
    (hsub : ∀ stem ∈ stems, stem ∈ stems') : NestsApart c stems' e := by
  intro u hu hclass
  obtain ⟨⟨stem, hstem, hname⟩, hbases⟩ := h u hu hclass
  exact ⟨⟨stem, hsub stem hstem, hname⟩, hbases⟩

namespace Context.Default

variable (hc : c.Default)

include hc

theorem suffix_eq : c.suffix = .str "Value" := by
  rw [Context.suffix, hc.config]

theorem schemaBases_eq : c.schemaBases = [.str "IDirectResponseSchema"] := by
  rw [Context.schemaBases, hc.config]
  rfl

theorem requestBase_eq : c.requestBase = "ClientServiceRequest" := by
  rw [Context.requestBase, hc.config]
  rfl

theorem isStemmed_of_isSafe {front stem : String} {name : Json} (hstem : stem ∈ nestedStems)
    (h : IsMadeSafe c (front ++ stem) name) : IsStemmed "Value" stem name := by
  obtain ⟨reserved, h⟩ := h
  rw [hc.suffix_eq] at h
  have hkept : ∀ stem ∈ nestedStems,
      Identifier.kept stem = stem.toList ∧ stem.toList ≠ [] := by decide
  obtain ⟨hsame, hne⟩ := hkept stem hstem
  exact Identifier.isStemmed_safeWith hsame hne h

theorem isStemmed_of_resourceClass {path : String} {name : Json}
    (h : c.resourceClass path = .ok name) : IsStemmed "Value" "Resource" name :=
  hc.resources _ _ (Context.resourceClass_eq_ok.1 h)

theorem ne_schemaBases_of_request (text : String) :
    some [Json.str (c.requestBase ++ "<" ++ text ++ ">")] ≠ some c.schemaBases := by
  rw [hc.schemaBases_eq, hc.requestBase_eq]
  intro h
  have h : "ClientServiceRequest" ++ "<" ++ text ++ ">" = "IDirectResponseSchema" := by
    simpa using h
  have := congrArg (fun s : String => s.toList.head?) h
  simp at this

theorem nestsApart_of_fieldTrees {fs : List Field} {ts : List Tree} (h : FieldTrees c fs ts) :
    ∀ u ∈ ts, u.isClass = true → IsApart c ["Data"] u := by
  induction h with
  | nil => nofun
  | plain _ _ _ _ ih => exact List.forall_mem_cons.2 ⟨nofun, ih⟩
  | inline _ _ hnested _ _ _ _ ih =>
    refine List.forall_mem_cons.2 ⟨nofun, List.forall_mem_cons.2 ⟨fun _ => ⟨?_, ?_⟩, ih⟩⟩
    · exact ⟨"Data", by simp, hc.isStemmed_of_isSafe (by simp [nestedStems]) hnested⟩
    · rw [hc.schemaBases_eq]
      simp [Tree.baseTypes?, Declaration.ofClass]

theorem nestsApart_of_requestTrees {lost : String → Prop} {r : Resource} {ms : List Method}
    {ts : List Tree} (h : RequestTrees c lost r ms ts) :
    ∀ u ∈ ts, u.isClass = true → IsApart c ["Request", "Resource"] u := by
  induction h with
  | nil => nofun
  | failed _ _ ih => exact ih
  | built h _ ih =>
    obtain ⟨⟨hname, -, -, -, -, -⟩, b, hbody, -⟩ := h
    refine List.forall_mem_cons.2 ⟨fun _ => ⟨?_, ?_⟩, List.forall_mem_cons.2 ⟨?_, ih⟩⟩
    · exact ⟨"Request", by simp, hc.isStemmed_of_isSafe (by simp [nestedStems]) hname⟩
    · exact hc.ne_schemaBases_of_request _
    · intro hclass
      rw [Tree.isClass, Tree.decl_leaf, Declaration.isClass, Declaration.members?, hbody] at hclass
      cases hclass

theorem nestsApart_of_resourceTrees {lost : String → Prop} :
    ∀ {rs : List Resource} {ts : List Tree}, ResourceTrees c lost rs ts →
      ∀ u ∈ ts, u.isClass = true → IsApart c ["Request", "Resource"] u
  | _, _, .nil => nofun
  | _, _, .ignored _ hrest => nestsApart_of_resourceTrees hrest
  | _, _, .failed _ hrest => nestsApart_of_resourceTrees hrest
  | _, _, .built _ (.intro hname _ _ _) hrest => by
    refine List.forall_mem_cons.2 ⟨fun _ => ⟨?_, ?_⟩, nestsApart_of_resourceTrees hrest⟩
    · exact ⟨"Resource", by simp, hc.isStemmed_of_resourceClass hname⟩
    · rw [hc.schemaBases_eq]
      simp [Tree.baseTypes?, Declaration.ofClass]

end Context.Default

/-! ### Fields -/

section Fields

variable {f : Field} {x : Schema} {e t : Tree} {around : List Tree} {own text : Json}
  (hc : c.Default) (hx : ObjectClass c forest (e :: around) x) (hf : f ∈ x.fields)
  (ht : t ∈ e.members)
  (hdecl : t.decl = SchemaPass.fieldProperty own f.name text f.description)

include hc hx hf ht hdecl

theorem isUse_of_plain (hinline : f.type.inline? = none)
    (htype : TypeName.ofType c.schemaIndex f.path .null f.type = .ok text) :
    ∃ name, IsUse c forest (e :: around) t text .field f.type name := by
  obtain ⟨name, rfl, hcore⟩ := hc.exists_ofType (.inl rfl) htype
  refine ⟨name, .field hx ht hf hdecl, rfl, ?_⟩
  cases hcoreType : f.type.core with
  | ref target =>
    rw [hcoreType] at hcore
    exact hcore
  | object label schema =>
    rw [TypeRef.inline?_eq_some_iff.2 hcoreType] at hinline
    cases hinline
  | _ => trivial

theorem isUse_of_inline {nested : Json} {label : String} {schema : Schema} {u : Tree}
    (hinline : f.type.inline? = some (label, schema))
    (hnested : IsMadeSafe c (TypeName.inlineClass label) nested)
    (htype : TypeName.ofType c.schemaIndex f.path nested f.type = .ok text) (hu : u ∈ e.members)
    (hclass : u.isClass = true) (hname : u.name = nested) :
    ∃ name, IsUse c forest (e :: around) t text .field f.type name ∧
      ObjectClass c forest (u :: e :: around) schema := by
  have htruthy := SchemaPass.truthy_of_isMadeSafe_inlineClass hnested
  obtain ⟨n, rfl, -⟩ := hc.isStemmed_of_isSafe (by simp [nestedStems]) hnested
  obtain ⟨name, rfl, hcore⟩ := hc.exists_ofType (.inr ⟨n, rfl⟩) htype
  have hcoreType := TypeRef.inline?_eq_some_iff.1 hinline
  rw [hcoreType, IsCoreName, if_pos htruthy] at hcore
  have hnamed : u.isClassNamed name = true := isClassNamed_iff.2 ⟨hclass, hname.trans hcore.symm⟩
  refine ⟨name, ⟨.field hx ht hf hdecl, rfl, ?_⟩, .inline hx hf hinline ht hdecl hu hnamed⟩
  rw [hcoreType]
  exact ⟨e, rfl, u, hu, hnamed⟩

end Fields

theorem explained_of_fieldTrees (hc : c.Default) {fs : List Field} {ts : List Tree}
    (h : FieldTrees c fs ts) {e : Tree} {around : List Tree} {x : Schema}
    (hx : ObjectClass c forest (e :: around) x) (hfields : ∀ f ∈ fs, f ∈ x.fields)
    (hmembers : ∀ t ∈ ts, t ∈ e.members) (haround : ∀ e' ∈ e :: around, NestsApart c nestedStems e')
    {scopes : List Tree} {t : Tree} (ht : Occurs (e :: around) ts scopes t) {text : Json}
    (htext : text ∈ t.writtenTypes c.requestBase) : Explained c forest scopes t text := by
  induction h generalizing e around x scopes t text with
  | nil => exact absurd ht Occurs.not_nil
  | @plain field rest ts name type _ hinline htype _ ih =>
    obtain ⟨hfield, hfields⟩ := List.forall_mem_cons.1 hfields
    obtain ⟨hproperty, hmembers⟩ := List.forall_mem_cons.1 hmembers
    rcases Occurs.cons_iff.1 ht with ⟨rfl, rfl⟩ | ht | ht
    · obtain rfl : text = type := List.mem_singleton.1 htext
      obtain ⟨written, hwritten⟩ := isUse_of_plain hc hx hfield hproperty rfl hinline htype
      exact ⟨.inr ⟨_, _, written, hwritten, fun h => absurd rfl h⟩, haround⟩
    · exact absurd ht Occurs.not_nil
    · exact ih hx hfields hmembers haround ht htext
  | @inline field rest inner ts name type nested label schema _ hinline hnested htype hinner _
      ihInner ih =>
    obtain ⟨hfield, hfields⟩ := List.forall_mem_cons.1 hfields
    obtain ⟨hproperty, hmembers⟩ := List.forall_mem_cons.1 hmembers
    obtain ⟨hclass, hmembers⟩ := List.forall_mem_cons.1 hmembers
    obtain ⟨written, hwritten, hobject⟩ :=
      isUse_of_inline hc hx hfield hproperty rfl hinline hnested htype hclass rfl rfl
    rcases Occurs.cons_iff.1 ht with ⟨rfl, rfl⟩ | ht | ht
    · obtain rfl : text = type := List.mem_singleton.1 htext
      exact ⟨.inr ⟨_, _, written, hwritten, fun h => absurd rfl h⟩, haround⟩
    · exact absurd ht Occurs.not_nil
    · rcases Occurs.cons_iff.1 ht with ⟨rfl, rfl⟩ | ht | ht
      · cases htext
      · -- inside the class for the object, the fields are those that were described on the spot
        refine ihInner hobject (fun f hf => hf) (fun t ht => ht) ?_ ht htext
        have hapart : NestsApart c ["Data"] (.node (Declaration.ofClass nested []
            schema.description) inner) := hc.nestsApart_of_fieldTrees hinner
        exact List.forall_mem_cons.2 ⟨hapart.mono (by simp [nestedStems]), haround⟩
      · exact ih hx hfields hmembers haround ht htext

theorem explained_of_schemaTree (hc : c.Default) {s : Schema} (hs : s ∈ c.service.schemas)
    {u : Tree} (hu : u ∈ forest) (h : SchemaTree c s u) {scopes : List Tree} {t : Tree}
    (ht : Occurs [] [u] scopes t) {text : Json} (htext : text ∈ t.writtenTypes c.requestBase) :
    Explained c forest scopes t text := by
  obtain ⟨hname, hfields, hrest⟩ := h
  rename_i name comment fields rest
  rcases Occurs.singleton_iff.1 ht with ⟨rfl, rfl⟩ | ht
  · -- the base of the class is not that of requests
    rw [hc.schemaBases_eq, hc.requestBase_eq] at htext
    have hnone : typeArgument? "ClientServiceRequest" "IDirectResponseSchema" = none := by decide
    simp [Tree.writtenTypes, Declaration.ofClass, hnone] at htext
  · have hobject : ObjectClass c forest [_] s := .schema hs ⟨hu, hname, rfl⟩
    have hapart : ∀ e ∈ [Tree.node (Declaration.ofClass name c.schemaBases comment)
        (fields ++ rest)], NestsApart c nestedStems e := by
      rintro e he
      obtain rfl := List.mem_singleton.1 he
      have hapart : NestsApart c ["Data"] (.node (Declaration.ofClass name c.schemaBases comment)
          (fields ++ rest)) := by
        refine List.forall_mem_append.2 ⟨hc.nestsApart_of_fieldTrees hfields, fun u hu hclass => ?_⟩
        rw [hrest u hu] at hclass
        cases hclass
      exact hapart.mono (by simp [nestedStems])
    rw [members_node] at ht
    rcases Occurs.append_iff.1 ht with ht | ht
    · exact explained_of_fieldTrees hc hfields hobject (fun f hf => hf)
        (fun t ht => List.mem_append_left _ ht) hapart ht htext
    · obtain ⟨rfl, hmem⟩ := ht.eq_of_leaves fun u hu => by rw [hrest u hu]; rfl
      rw [hrest t hmem] at htext
      exact ⟨.inl (List.mem_singleton.1 htext), hapart⟩

/-! ### Requests -/

theorem isNamed_of_isCoreName {scopes : List Tree} {role : TypeRole} (hrole : role ≠ .field)
    {type : TypeRef} {name : String} (h : IsCoreName c .null type name) :
    IsNamed c scopes role type name := by
  cases type with
  | ref target => exact h
  | object label schema =>
    cases role with
    | field => exact absurd rfl hrole
    | _ => exact Json.str.inj h
  | _ => trivial

theorem IsNamed.of_ne_field {scopes scopes' : List Tree} {role : TypeRole} (hrole : role ≠ .field)
    {type : TypeRef} {name : String} (h : IsNamed c scopes role type name) :
    IsNamed c scopes' role type name := by
  cases role with
  | field => exact absurd rfl hrole
  | _ => cases type <;> exact h

section Requests

/-- What is inside the class of a request: the head, the properties of parameters and of the
body, and a constructor. -/
structure RequestParts (c : Context) (location : String) (m : Method) (q : Tree)
    (ps bs : List Tree) (k : Declaration) : Prop where
  members : q.members = headTrees m ++ ps ++ bs ++ [leaf k]
  parameters : List.Forall₂ (IsParameter c location) m.parameters ps
  body : BodyTrees c location m.request bs
  constructor : IsRequestConstructor (ps ++ bs) k

/-- A parameter or a message whose type is written in or around the class of a request. -/
def IsRequestUse (c : Context) (forest scopes : List Tree) (t : Tree) (text : Json) : Prop :=
  ∃ role type name, role ≠ .field ∧ IsUse c forest scopes t text role type name

variable {m : Method} {e q : Tree} {around ps bs : List Tree} {location : String}
  {k : Declaration}

/-- A member of the class of a request is no class, and only the properties of parameters and
of the body and the constructor take over types. -/
theorem RequestParts.cases (h : RequestParts c location m q ps bs k) {t : Tree}
    (ht : t ∈ q.members) :
    t.members = [] ∧ t.isClass = false ∧
      ((t.decl.isConstructor = false ∧ ∀ base, ∀ text ∈ t.writtenTypes base,
        t ∈ ps ++ bs ∧ t.decl.type? = some text) ∨ t = leaf k) := by
  simp only [h.members, List.append_assoc, List.mem_append, List.mem_singleton] at ht
  rcases ht with ht | ht | ht | rfl
  · simp only [headTrees, List.mem_cons, List.not_mem_nil, or_false] at ht
    rcases ht with rfl | rfl | rfl <;>
      exact ⟨rfl, rfl, .inl ⟨rfl, fun _ _ h => absurd h List.not_mem_nil⟩⟩
  · obtain ⟨p, -, name, type, -, -, rfl⟩ := exists_left_of_forall₂ h.parameters ht
    refine ⟨rfl, rfl, .inl ⟨rfl, fun base text htext => ?_⟩⟩
    rw [List.mem_singleton.1 htext]
    exact ⟨List.mem_append_left _ ht, rfl⟩
  · have hbody := h.body
    cases hrequest : m.request with
    | none =>
      rw [hrequest] at hbody
      cases hbody
      cases ht
    | some schema =>
      rw [hrequest] at hbody
      cases hbody with
      | some htype =>
        have hmem := ht
        rcases List.mem_cons.1 ht with rfl | ht
        · refine ⟨rfl, rfl, .inl ⟨rfl, fun base text htext => ?_⟩⟩
          rw [List.mem_singleton.1 htext]
          exact ⟨List.mem_append_right _ hmem, rfl⟩
        · rw [List.mem_singleton.1 ht]
          exact ⟨rfl, rfl, .inl ⟨rfl, fun _ _ h => absurd h List.not_mem_nil⟩⟩
  · obtain ⟨b, hb, -⟩ := h.constructor
    refine ⟨rfl, ?_, .inr rfl⟩
    rw [Tree.isClass, decl_leaf, Declaration.isClass, Declaration.members?, hb]
    rfl

theorem RequestParts.nestsApart (h : RequestParts c location m q ps bs k)
    (stems : List String) : NestsApart c stems q := by
  intro u hu hclass
  rw [(h.cases hu).2.1] at hclass
  cases hclass

/-- A reference from a message to a schema. -/
theorem exists_of_message (hc : c.Default) {schema : String} {type : Json}
    (h : c.schemaIndex.className schema location = .ok type) :
    ∃ name, type = .str name ∧ ∀ scopes, IsNamed c scopes .message (.ref (.str schema)) name := by
  obtain ⟨s, hs, htarget, name, rfl, hname⟩ := hc.exists_className h
  exact ⟨name, rfl, fun _ => ⟨s, hs, htarget, hname⟩⟩

theorem RequestParts.isUse_property (h : RequestParts c location m q ps bs k)
    (hc : c.Default) (hq : RequestClass c forest (q :: e :: around) m) {t : Tree}
    (ht : t ∈ ps ++ bs) {text : Json} (htype : t.decl.type? = some text) :
    t ∈ q.members ∧ IsRequestUse c forest (q :: e :: around) t text := by
  have hmember : t ∈ q.members := by
    rw [h.members]
    simp only [List.append_assoc, List.mem_append] at ht ⊢
    tauto
  refine ⟨hmember, ?_⟩
  rcases List.mem_append.1 ht with ht | ht
  · obtain ⟨p, hp, name, type, -, hwritten, rfl⟩ := exists_left_of_forall₂ h.parameters ht
    obtain rfl : type = text := Option.some.inj htype
    obtain ⟨n, hn, hcore⟩ := hc.exists_ofType (.inl rfl) (ofType_fullType hwritten)
    have hrole : TypeRole.parameter ≠ .field := nofun
    exact ⟨.parameter, p.fullType, n, hrole, .parameter hq hmember hp rfl rfl, hn,
      isNamed_of_isCoreName hrole hcore⟩
  · have hbody := h.body
    cases hrequest : m.request with
    | none =>
      rw [hrequest] at hbody
      cases hbody
      cases ht
    | some schema =>
      rw [hrequest] at hbody
      cases hbody with
      | @some _ type hwritten =>
        rcases List.mem_cons.1 ht with rfl | ht
        · obtain rfl : type = text := Option.some.inj htype
          obtain ⟨n, rfl, hnamed⟩ := exists_of_message hc hwritten
          exact ⟨.message, .ref (.str schema), n, nofun, .body hq hmember hrequest rfl rfl, rfl,
            hnamed _⟩
        · rw [List.mem_singleton.1 ht] at htype
          cases htype

theorem RequestParts.isUse_constructor (h : RequestParts c location m q ps bs k)
    (hc : c.Default) (hq : RequestClass c forest (q :: e :: around) m) {b : MethodBody}
    (hb : k.body = .method b) {a : Argument} (ha : a ∈ b.parameters.drop 1) :
    IsRequestUse c forest (q :: e :: around) (leaf k) a.type := by
  obtain ⟨b', hb', hconstructor, hassigned⟩ := h.constructor
  obtain rfl : b' = b := DeclarationBody.method.inj (hb'.symm.trans hb)
  obtain ⟨p, hp, htype, hassign⟩ := hassigned a ha
  obtain ⟨hmember, role, type, n, hrole, huse⟩ := h.isUse_property hc hq hp htype
  refine ⟨role, type, n, hrole, .constructor huse.stands hmember ?_ hb hconstructor ha
    ⟨htype, hassign⟩, huse.text, huse.named⟩
  rw [h.members]
  exact List.mem_append_right _ (List.mem_singleton_self _)

theorem RequestParts.isUse_member (h : RequestParts c location m q ps bs k)
    (hc : c.Default) (hq : RequestClass c forest (q :: e :: around) m) {t : Tree}
    (ht : t ∈ q.members) {text : Json} (htext : text ∈ t.writtenTypes c.requestBase) :
    IsRequestUse c forest (q :: e :: around) t text := by
  rcases (h.cases ht).2.2 with ⟨-, htypes⟩ | rfl
  · obtain ⟨hproperty, htype⟩ := htypes _ text htext
    exact (h.isUse_property hc hq hproperty htype).2
  · obtain ⟨b, hb, hconstructor, -⟩ := h.constructor
    rw [Tree.writtenTypes, decl_leaf, hb] at htext
    dsimp only at htext
    rw [if_pos hconstructor] at htext
    obtain ⟨a, ha, rfl⟩ := List.mem_map.1 htext
    exact h.isUse_constructor hc hq hb ha

/-- The factory has the parameters of the constructor. -/
theorem RequestParts.isUse_factory (h : RequestParts c location m q ps bs k)
    (hc : c.Default) (hq : RequestClass c forest (q :: e :: around) m) {d : Declaration}
    (hd : IsFactory c m q d) (hmember : leaf d ∈ e.members) {text : Json}
    (htext : text ∈ (leaf d).writtenTypes c.requestBase) :
    IsRequestUse c forest (e :: around) (leaf d) text := by
  obtain ⟨b, hb, hmethod, hmakes, -, htaken⟩ := hd
  rw [Tree.writtenTypes, decl_leaf, hb] at htext
  dsimp only at htext
  rw [hmethod, if_neg Bool.false_ne_true] at htext
  obtain ⟨a, ha, rfl⟩ := List.mem_map.1 htext
  obtain ⟨u, hu, b', hb', hconstructor, a', ha', hname, htype⟩ := htaken a ha
  obtain rfl : u = leaf k := by
    rcases (h.cases hu).2.2 with ⟨hno, -⟩ | rfl
    · rw [Declaration.isConstructor, hb'] at hno
      exact Bool.noConfusion (hconstructor.symm.trans hno)
    · rfl
  obtain ⟨role, type, n, hrole, huse⟩ := h.isUse_constructor hc hq hb' ha'
  refine ⟨role, type, n, hrole, ?_, htype ▸ huse.text, huse.named.of_ne_field hrole⟩
  exact .factory huse.stands hu hb' hconstructor ha' hmember hb hmethod hmakes ha hname htype

theorem isUse_of_response (hc : c.Default) (hq : RequestClass c forest (q :: e :: around) m)
    {response : Json} (h : IsResponse c location m.response response) {text : String}
    (htext : response.written = .ok text)
    (hbase : q.baseTypes? = some [.str (c.requestBase ++ "<" ++ text ++ ">")]) :
    text = "string" ∨ IsRequestUse c forest (e :: around) q (.str text) := by
  cases hresponse : m.response with
  | none =>
    rw [hresponse] at h
    cases h
    cases htext
    exact .inl rfl
  | some schema =>
    rw [hresponse] at h
    cases h with
    | some htype =>
      obtain ⟨n, rfl, hnamed⟩ := exists_of_message hc htype
      cases htext
      exact .inr ⟨.message, .ref (.str schema), n, nofun, .response hq hresponse hbase, rfl,
        hnamed _⟩

theorem IsRequestUse.explained {scopes : List Tree} {t : Tree} {text : Json}
    (h : IsRequestUse c forest scopes t text)
    (hhead : ∀ e ∈ scopes.head?, NestsApart c ["Request", "Resource"] e)
    (haround : ∀ e ∈ scopes, NestsApart c nestedStems e) : Explained c forest scopes t text := by
  obtain ⟨role, type, n, -, huse⟩ := h
  exact ⟨.inr ⟨role, type, n, huse, fun _ => hhead⟩, haround⟩

theorem explained_of_methodTrees (hc : c.Default) {r : Resource}
    (hr : ResourceClass c forest (e :: around) r) (hm : m ∈ r.methods) {factory : Tree}
    (h : MethodTrees c r m [q, factory]) (hqe : q ∈ e.members) (hfe : factory ∈ e.members)
    (he : NestsApart c ["Request", "Resource"] e)
    (haround : ∀ e' ∈ e :: around, NestsApart c nestedStems e') {scopes : List Tree} {t : Tree}
    (ht : Occurs (e :: around) [q, factory] scopes t) {text : Json}
    (htext : text ∈ t.writtenTypes c.requestBase) : Explained c forest scopes t text := by
  obtain ⟨hrequest, hfactory⟩ := h
  obtain ⟨ps, bs, k, base, response, hparts, hresponse, hwritten, hbase⟩ :
      ∃ ps bs k base response, RequestParts c (r.locationOf m) m q ps bs k ∧
        IsResponse c (r.locationOf m) m.response response ∧ response.written = .ok base ∧
        q.baseTypes? = some [.str (c.requestBase ++ "<" ++ base ++ ">")] := by
    obtain ⟨-, hresponse, hwritten, hparameters, hbody, hconstructor⟩ := hrequest
    exact ⟨_, _, _, _, _, ⟨rfl, hparameters, hbody, hconstructor⟩, hresponse, hwritten, rfl⟩
  have hkey : leaf (RequestPass.overriding "MethodName" (.str m.name)) ∈ q.members := by
    simp [hparts.members, headTrees]
  have hclass : RequestClass c forest (q :: e :: around) m := .intro hr hm hqe hkey
  have hhead {u : Tree} {rest : List Tree} (hu : NestsApart c ["Request", "Resource"] u) :
      ∀ e' ∈ (u :: rest).head?, NestsApart c ["Request", "Resource"] e' := by
    intro e' he'
    obtain rfl := Option.some.inj he'
    exact hu
  rcases Occurs.cons_iff.1 ht with ⟨rfl, rfl⟩ | ht | ht
  · obtain rfl : text = .str base := by
      simpa [writtenTypes_of_baseTypes? hbase, typeArgument?_append] using htext
    rcases isUse_of_response hc hclass hresponse hwritten hbase with rfl | huse
    · exact ⟨.inl rfl, haround⟩
    · exact huse.explained (hhead he) haround
  · obtain ⟨rfl, hmem⟩ := ht.eq_of_leaves fun u hu => (hparts.cases hu).1
    exact (hparts.isUse_member hc hclass hmem htext).explained (hhead (hparts.nestsApart _))
      (List.forall_mem_cons.2 ⟨hparts.nestsApart _, haround⟩)
  · rcases Occurs.singleton_iff.1 ht with ⟨rfl, rfl⟩ | ht
    · exact (hparts.isUse_factory hc hclass hfactory hfe htext).explained (hhead he) haround
    · exact absurd ht Occurs.not_nil

end Requests

/-! ### Resources -/

section Resources

variable {lost : String → Prop}

theorem explained_of_requestTrees (hc : c.Default) {r : Resource} {e : Tree} {around : List Tree}
    (hr : ResourceClass c forest (e :: around) r) {ms : List Method} {ts : List Tree}
    (h : RequestTrees c lost r ms ts) (hms : ∀ m ∈ ms, m ∈ r.methods)
    (hmembers : ∀ t ∈ ts, t ∈ e.members) (he : NestsApart c ["Request", "Resource"] e)
    (haround : ∀ e' ∈ e :: around, NestsApart c nestedStems e') {scopes : List Tree} {t : Tree}
    (ht : Occurs (e :: around) ts scopes t) {text : Json}
    (htext : text ∈ t.writtenTypes c.requestBase) : Explained c forest scopes t text := by
  induction h with
  | nil => exact absurd ht Occurs.not_nil
  | failed _ _ ih => exact ih (List.forall_mem_cons.1 hms).2 hmembers ht
  | @built m ms request factory ts h _ ih =>
    obtain ⟨hm, hms⟩ := List.forall_mem_cons.1 hms
    obtain ⟨hrequest, hmembers⟩ := List.forall_mem_cons.1 hmembers
    obtain ⟨hfactory, hmembers⟩ := List.forall_mem_cons.1 hmembers
    have ht : Occurs (e :: around) ([request, factory] ++ ts) scopes t := ht
    rcases Occurs.append_iff.1 ht with ht | ht
    · exact explained_of_methodTrees hc hr hm h hrequest hfactory he haround ht htext
    · exact ih hms hmembers ht

mutual

theorem explained_of_resourceTree (hc : c.Default) :
    ∀ (r : Resource) {u : Tree} {around : List Tree}, ResourceTree c lost r u →
      (TellsResource c r u → ResourceClass c forest (u :: around) r) →
      (∀ e ∈ around, NestsApart c nestedStems e) → ∀ {scopes : List Tree} {t : Tree},
      Occurs around [u] scopes t → ∀ {text : Json}, text ∈ t.writtenTypes c.requestBase →
      Explained c forest scopes t text
  | ⟨name, methods, children, path⟩, u, around, h, hclass, haround, scopes, t, ht, text, htext => by
    obtain ⟨hname, hinner, hown, hrequests⟩ := h
    rename_i className comment inner own requests
    have hresource := hclass ⟨hname, by
      obtain ⟨k, hk, hkey⟩ := hown.wireName
      exact ⟨k, by simp [hk], hkey⟩⟩
    rcases Occurs.singleton_iff.1 ht with ⟨rfl, rfl⟩ | ht
    · cases htext
    · -- inside the class: other resources, members aside, and requests
      have hapart : NestsApart c ["Request", "Resource"]
          (.node (Declaration.ofClass className [] comment) (inner ++ own ++ requests)) := by
        refine List.forall_mem_append.2 ⟨List.forall_mem_append.2
          ⟨hc.nestsApart_of_resourceTrees hinner, fun v hv hnested => ?_⟩,
          hc.nestsApart_of_requestTrees hrequests⟩
        rw [(hown.aside v hv).noClass] at hnested
        cases hnested
      have haround := List.forall_mem_cons.2 ⟨hapart.mono (by simp [nestedStems]), haround⟩
      rw [members_node, Occurs.append_iff, Occurs.append_iff] at ht
      rcases ht with (ht | ht) | ht
      · refine explained_of_resourceTrees hc children hinner ?_ haround ht htext
        intro r hr v hv htells
        exact .inner hresource hr (by simp [hv]) htells
      · obtain ⟨rfl, hmem⟩ := ht.eq_of_leaves fun v hv => (hown.aside v hv).members
        rw [(hown.aside t hmem).writtenTypes] at htext
        cases htext
      · exact explained_of_requestTrees hc hresource hrequests (fun m hm => hm)
          (fun v hv => List.mem_append_right _ hv) hapart haround ht htext

theorem explained_of_resourceTrees (hc : c.Default) :
    ∀ (rs : List Resource) {ts : List Tree} {around : List Tree}, ResourceTrees c lost rs ts →
      (∀ r ∈ rs, ∀ u ∈ ts, TellsResource c r u → ResourceClass c forest (u :: around) r) →
      (∀ e ∈ around, NestsApart c nestedStems e) → ∀ {scopes : List Tree} {t : Tree},
      Occurs around ts scopes t → ∀ {text : Json}, text ∈ t.writtenTypes c.requestBase →
      Explained c forest scopes t text
  | [], _, _, .nil, _, _, _, _, ht, _, _ => absurd ht Occurs.not_nil
  | r :: rest, _, around, htrees, hclass, haround, scopes, t, ht, text, htext => by
    obtain ⟨hfirst, hlater⟩ := List.forall_mem_cons.1 hclass
    cases htrees with
    | ignored _ hrest => exact explained_of_resourceTrees hc rest hrest hlater haround ht htext
    | failed _ hrest => exact explained_of_resourceTrees hc rest hrest hlater haround ht htext
    | @built _ _ u ts _ hu hrest =>
      have ht : Occurs around ([u] ++ ts) scopes t := ht
      rcases Occurs.append_iff.1 ht with ht | ht
      · exact explained_of_resourceTree hc r hu (hfirst u List.mem_cons_self) haround ht htext
      · refine explained_of_resourceTrees hc rest hrest ?_ haround ht htext
        intro r' hr' v hv
        exact hlater r' hr' v (List.mem_cons_of_mem _ hv)

end

end Resources

/-! ### The whole model -/

theorem not_mem_writtenTypes_of_serviceTree (hc : c.Default) {u : Tree} (h : ServiceTree c u)
    {scopes : List Tree} {t : Tree} (ht : Occurs [] [u] scopes t) {text : Json} :
    text ∉ t.writtenTypes c.requestBase := by
  obtain ⟨hmembers⟩ := h
  rename_i comment members
  rcases Occurs.singleton_iff.1 ht with ⟨rfl, rfl⟩ | ht
  · have hnone : typeArgument? "ClientServiceRequest" "BaseClientService" = none := by decide
    rw [hc.requestBase_eq, hc.config]
    simp [Tree.writtenTypes, Declaration.ofClass, hnone]
  · rw [members_node] at ht
    cases ht with
    | here hmem =>
      rcases hmembers t hmem with haside | ⟨name, comment, ms, rfl, -⟩
      · rw [haside.writtenTypes]
        exact List.not_mem_nil
      · exact List.not_mem_nil
    | inside hv ht =>
      rcases hmembers _ hv with haside | ⟨name, comment, ms, rfl, hms⟩
      · rw [haside.members] at ht
        exact absurd ht Occurs.not_nil
      · obtain ⟨-, hmem⟩ := ht.eq_of_leaves fun v hv => (hms v hv).members
        rw [(hms t hmem).writtenTypes]
        exact List.not_mem_nil

/-- **Every written type of a built model is explained.** -/
theorem explained_of_outline (hc : c.Default) {service : Tree} {resources schemas : List Tree}
    (hforest : forest = service :: (resources ++ schemas)) (hservice : ServiceTree c service)
    {lost : String → Prop} (hresources : ResourceTrees c lost c.service.resources resources)
    {kept : List Schema} (hkept : ∀ s ∈ kept, s ∈ c.service.schemas)
    (hschemas : List.Forall₂ (SchemaTree c) kept schemas) {scopes : List Tree} {t : Tree}
    (ht : Occurs [] forest scopes t) {text : Json} (htext : text ∈ t.writtenTypes c.requestBase) :
    Explained c forest scopes t text := by
  have hsplit : Occurs [] ([service] ++ resources ++ schemas) scopes t := by
    simpa [hforest] using ht
  rw [Occurs.append_iff, Occurs.append_iff] at hsplit
  rcases hsplit with (ht | ht) | ht
  · exact absurd htext (not_mem_writtenTypes_of_serviceTree hc hservice ht)
  · refine explained_of_resourceTrees hc _ hresources (fun r hr u hu => ?_) (by simp) ht htext
    exact .top hr (by simp [hforest, hu])
  · -- an occurrence in a forest is one in a single tree of it
    obtain ⟨u, hu, ht⟩ := ht.exists_singleton
    obtain ⟨s, hs, hschema⟩ := exists_left_of_forall₂ hschemas hu
    exact explained_of_schemaTree hc (hkept s hs) (by simp [hforest, hu]) hschema ht htext

end ClientGen
