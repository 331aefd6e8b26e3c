import ClientGen.Proofs.Build.Closure
import ClientGen.Proofs.Build.Openings

/-!
# Classes and the properties for child resources

The service class, and each class of a resource, has a property for every child resource whose
class is there, and its constructor gives each of these properties a new object. The two are made
apart from the classes they refer to: whether a child has a class is read off the names in a scope,
and what the constructor creates is read off the types of the properties.

What the members of a class say about child resources is in `ClientGen.Refers`: the properties of
the types of child resources, none of which can be set, and the objects created in a constructor,
which are one for each of these properties. It is `ClientGen.Exposes` that tells which children
have such a property. At the top level these are exactly the children with a class. Inside the
class of a resource there is one more way: the names that are looked through are those of all
members, so that a child without a class has a property too when its class would have had the name
of another member, the constant `Resource` or an earlier property
(`ClientGen.exists_phantom_phantomDocument`). Where this does not happen, the properties are
exactly for the children with a class there as well.
-/

namespace ClientGen

open Build Decorator ClientGen.Tree Naming

/-! ### Names with stems -/

/-- A stem stays in a name. -/
theorem HasStem.subset {suffix stem name : String} (h : HasStem suffix stem name) :
    stem.toList ⊆ name.toList := by
  induction h with
  | base front =>
    rw [String.toList_append]
    exact List.subset_append_right _ _
  | more _ ih =>
    rw [String.toList_append]
    exact List.subset_append_of_subset_left _ ih

/-- The classes of requests and those of resources have different names. -/
theorem HasStem.request_ne_resource {request resource : String}
    (hrequest : HasStem "Value" "Request" request)
    (hresource : HasStem "Value" "Resource" resource) : request ≠ resource := by
  intro h
  induction hrequest generalizing resource with
  | base front =>
    rcases hresource.getLast? (by decide) (by decide) with hlast | hlast
    · rw [← h] at hlast
      simp at hlast
    · rw [← h] at hlast
      simp at hlast
  | more _ ih =>
    cases hresource with
    | base front =>
      have hbefore := congrArg (fun s : String => s.toList.reverse[1]?) h
      simp at hbefore
    | more hresource =>
      exact ih hresource (String.append_left_inj _ |>.1 h)

/-! ### Types of child resources -/

section Types

variable {c : Context} {rs : List Resource}

/-- The types that stand for some resources: the names found for their classes. -/
def Context.resourceTypes (c : Context) (rs : List Resource) : List Json :=
  rs.filterMap fun r => c.naming.resources.find? r.path

theorem resourceTypes_cons {r : Resource} {type : Json} (h : c.resourceClass r.path = .ok type) :
    c.resourceTypes (r :: rs) = type :: c.resourceTypes rs :=
  List.filterMap_cons_some (Context.resourceClass_eq_ok.1 h)

theorem resourceTypes_eq {names : List Json}
    (h : (rs.map fun r => c.naming.resources.find? r.path) = names.map some) :
    c.resourceTypes rs = names := by
  have hfilter : c.resourceTypes rs =
      (rs.map fun r => c.naming.resources.find? r.path).filterMap id := by
    rw [List.filterMap_map]
    rfl
  rw [hfilter, h, List.filterMap_map]
  exact List.filterMap_some

namespace Context.Default

variable (hc : c.Default)

include hc

theorem ignoresResource (path : String) : c.ignoresResource path = .ok false := by
  rw [Context.ignoresResource, hc.config]
  rfl

theorem isStemmed_of_mem {type : Json} (h : type ∈ c.resourceTypes rs) :
    IsStemmed "Value" "Resource" type := by
  obtain ⟨r, -, hfound⟩ := List.mem_filterMap.1 h
  exact hc.resources _ _ hfound

theorem any_sameKey_iff_mem {type : Json} :
    (c.resourceTypes rs).any type.sameKey = true ↔ type ∈ c.resourceTypes rs := by
  constructor
  · intro h
    obtain ⟨known, hknown, hsame⟩ := List.any_eq_true.1 h
    obtain ⟨text, rfl, -⟩ := hc.isStemmed_of_mem hknown
    rwa [Json.eq_of_sameKey_str hsame]
  · intro h
    obtain ⟨text, rfl, -⟩ := hc.isStemmed_of_mem h
    exact any_sameKey_iff.2 h

/-- A type written without a capital R stands for no resource. -/
theorem notMem_resourceTypes {text : String} (h : 'R' ∉ text.toList) :
    Json.str text ∉ c.resourceTypes rs := by
  intro hmem
  obtain ⟨_, ⟨⟩, hstem⟩ := hc.isStemmed_of_mem hmem
  exact h (hstem.subset (by decide))

end Context.Default

end Types

/-! ### What members say about child resources -/

/-- Whether a declaration is a property of one of some types. -/
def Declaration.isPropertyOf (types : List Json) (d : Declaration) : Bool :=
  match d.property? with
  | some p => types.any p.type.sameKey
  | none => false

/-- Whether a statement gives a property a new object of one of some types. -/
def Statement.createsOneOf (types : List Json) : Statement → Bool
  | .assign _ (.create type _) => types.any type.sameKey
  | _ => false

/-- The properties of some types among members. -/
def propertiesOf (types : List Json) (ms : List Tree) : List Tree :=
  ms.filter fun t => t.decl.isPropertyOf types

/-- The statements of constructors among members that create objects of some types. -/
def creationsOf (types : List Json) (ms : List Tree) : List Statement :=
  ms.flatMap fun t => match t.decl.body with
    | .method b => if b.isConstructor then b.statements.filter (·.createsOneOf types) else []
    | _ => []

/-- The statement that gives a property a new object of its type. -/
def creation (argument : String) (t : Tree) : Statement :=
  .assign t.name (.create (t.decl.type?.getD .null) [.snippet argument])

/-- **Members refer to child resources by some properties.** The properties are all those of the
types of child resources, they cannot be set, and for each of them a constructor creates an
object, in the same order; no other object of these types is created. -/
structure Refers (types : List Json) (argument : String) (ms props : List Tree) : Prop where
  properties : propertiesOf types ms = props
  getterOnly : ∀ t ∈ props, ∃ p, t.decl.property? = some p ∧ p.hasGet = true ∧ p.hasSet = false
  creations : creationsOf types ms = props.map (creation argument)

section Members

variable {types : List Json} {ms ns : List Tree} {t : Tree}

theorem propertiesOf_append :
    propertiesOf types (ms ++ ns) = propertiesOf types ms ++ propertiesOf types ns :=
  List.filter_append ..

theorem creationsOf_append :
    creationsOf types (ms ++ ns) = creationsOf types ms ++ creationsOf types ns :=
  List.flatMap_append

/-- A member that says nothing about child resources. -/
structure Tree.IsNeutral (types : List Json) (t : Tree) : Prop where
  property : t.decl.isPropertyOf types = false
  method : ∀ b, t.decl.body = .method b → b.isConstructor = false

theorem propertiesOf_eq_nil (h : ∀ t ∈ ms, t.IsNeutral types) : propertiesOf types ms = [] :=
  List.filter_eq_nil_iff.2 fun t ht => Bool.eq_false_iff.1 (h t ht).property

theorem creationsOf_eq_nil
    (h : ∀ t ∈ ms, ∀ b, t.decl.body = .method b → b.isConstructor = false) :
    creationsOf types ms = [] := by
  refine List.flatMap_eq_nil_iff.2 fun t ht => ?_
  split
  · next b hb => rw [h t ht b hb, if_neg Bool.false_ne_true]
  · rfl

theorem isNeutral_of_isClass (h : t.isClass = true) : t.IsNeutral types := by
  obtain ⟨⟨name, access, modifiers, attributes, comment, parent, body⟩, members⟩ := t
  cases body with
  | ofClass bases places => exact ⟨rfl, nofun⟩
  | _ => cases h

/-- The property for a child resource of one of some types. -/
def IsChildProperty (types : List Json) (t : Tree) : Prop :=
  ∃ name type label, type ∈ types ∧ t = leaf (ServicePass.resourceProperty name type label)

theorem IsChildProperty.mono {types' : List Json} (h : IsChildProperty types t)
    (hsub : types ⊆ types') : IsChildProperty types' t := by
  obtain ⟨name, type, label, htype, rfl⟩ := h
  exact ⟨name, type, label, hsub htype, rfl⟩

theorem Context.Default.propertiesOf_eq_self {c : Context} (hc : c.Default) {rs : List Resource}
    {props : List Tree} (h : ∀ t ∈ props, IsChildProperty (c.resourceTypes rs) t) :
    propertiesOf (c.resourceTypes rs) props = props := by
  refine List.filter_eq_self.2 fun t ht => ?_
  obtain ⟨name, type, label, htype, rfl⟩ := h t ht
  exact hc.any_sameKey_iff_mem.2 htype

/-- **A class refers to child resources by its properties for them** when the constructor creates
an object for each of these, and all else says nothing about child resources. -/
theorem Context.Default.refers_of_parts {c : Context} (hc : c.Default) {rs : List Resource}
    {before props between after : List Tree} {d : Declaration} {b : MethodBody} {argument : String}
    (first : List Statement)
    (hbefore : ∀ t ∈ before, t.IsNeutral (c.resourceTypes rs))
    (hprops : ∀ t ∈ props, IsChildProperty (c.resourceTypes rs) t)
    (hbetween : ∀ t ∈ between, t.IsNeutral (c.resourceTypes rs))
    (hafter : ∀ t ∈ after, t.IsNeutral (c.resourceTypes rs))
    (hbody : d.body = .method b) (hconstructor : b.isConstructor = true)
    (hstatements : b.statements = first ++ props.map (creation argument))
    (hfirst : ∀ s ∈ first, s.createsOneOf (c.resourceTypes rs) = false) :
    Refers (c.resourceTypes rs) argument (before ++ props ++ between ++ [leaf d] ++ after)
      props where
  properties := by
    have hnone : propertiesOf (c.resourceTypes rs) [leaf d] = [] := by
      simp [propertiesOf, Declaration.isPropertyOf, Declaration.property?, hbody]
    simp only [propertiesOf_append, propertiesOf_eq_nil hbefore, propertiesOf_eq_nil hbetween,
      propertiesOf_eq_nil hafter, hc.propertiesOf_eq_self hprops, hnone, List.nil_append,
      List.append_nil]
  getterOnly t ht := by
    obtain ⟨name, type, label, -, rfl⟩ := hprops t ht
    exact ⟨_, rfl, rfl, rfl⟩
  creations := by
    have hnone : creationsOf (c.resourceTypes rs) props = [] := by
      refine creationsOf_eq_nil fun t ht b hb => ?_
      obtain ⟨name, type, label, -, rfl⟩ := hprops t ht
      cases hb
    have hall : (props.map (creation argument)).filter (·.createsOneOf (c.resourceTypes rs)) =
        props.map (creation argument) := by
      refine List.filter_eq_self.2 fun s hs => ?_
      obtain ⟨t, ht, rfl⟩ := List.mem_map.1 hs
      obtain ⟨name, type, label, htype, rfl⟩ := hprops t ht
      exact hc.any_sameKey_iff_mem.2 htype
    have hskipped : first.filter (·.createsOneOf (c.resourceTypes rs)) = [] :=
      List.filter_eq_nil_iff.2 fun s hs => Bool.eq_false_iff.1 (hfirst s hs)
    have hcreated : creationsOf (c.resourceTypes rs) [leaf d] = props.map (creation argument) := by
      simp [creationsOf, hbody, hconstructor, hstatements, hall, hskipped]
    simp only [creationsOf_append, creationsOf_eq_nil fun t ht => (hbefore t ht).method,
      creationsOf_eq_nil fun t ht => (hbetween t ht).method,
      creationsOf_eq_nil fun t ht => (hafter t ht).method, hnone, hcreated, List.nil_append,
      List.append_nil]

/-- What a constructor creates is an object for each property of the type of a child resource. -/
theorem resourceAssignments_eq {c : Context} {rs : List Resource} {argument : String}
    {ds : List Declaration} {statements : List Statement}
    (hds : List.Forall₂ (fun (e : Declaration) (t : Tree) => e.detached = t.decl) ds ms)
    (h : resourceAssignments c rs argument ds = .ok statements) :
    statements = (propertiesOf (c.resourceTypes rs) ms).map (creation argument) := by
  induction hds generalizing statements with
  | nil =>
    cases h
    rfl
  | @cons e t ds ms hdecl _ ih =>
    have hname : e.name = t.name := by rw [Tree.name, ← hdecl, Declaration.detached_name]
    have hproperty : e.property? = t.decl.property? := by
      rw [← hdecl, Declaration.detached_property?]
    rw [resourceAssignments, hproperty] at h
    rw [propertiesOf, List.filter_cons, ← propertiesOf, Declaration.isPropertyOf]
    cases hp : t.decl.property? with
    | none =>
      rw [hp] at h
      exact ih h
    | some p =>
      rw [hp] at h
      obtain ⟨key, hkey, h⟩ := Outcome.bind_eq_ok.1 h
      obtain ⟨later, hlater, h⟩ := Outcome.bind_eq_ok.1 h
      obtain rfl := Json.asKey_eq_ok hkey
      have htype : t.decl.type? = some p.type := by
        cases hbody : t.decl.body <;> simp_all [Declaration.property?, Declaration.type?]
      rw [← Context.resourceTypes] at h
      dsimp only
      split at h
      · next hmem =>
        cases h
        rw [if_pos hmem, List.map_cons, ← ih hlater, creation, htype, hname]
        rfl
      · next hmem =>
        cases h
        rw [if_neg hmem]
        exact ih hlater

/-- Where all else says nothing about child resources, a constructor creates an object for each
property for a child. -/
theorem Context.Default.created_eq {c : Context} (hc : c.Default) {rs : List Resource}
    {argument : String} {ds : List Declaration} {statements : List Statement}
    {before props after : List Tree}
    (hds : List.Forall₂ (fun (e : Declaration) (t : Tree) => e.detached = t.decl) ds
      (before ++ props ++ after))
    (hbefore : ∀ t ∈ before, t.IsNeutral (c.resourceTypes rs))
    (hprops : ∀ t ∈ props, IsChildProperty (c.resourceTypes rs) t)
    (hafter : ∀ t ∈ after, t.IsNeutral (c.resourceTypes rs))
    (h : resourceAssignments c rs argument ds = .ok statements) :
    statements = props.map (creation argument) := by
  rw [resourceAssignments_eq hds h, propertiesOf_append, propertiesOf_append,
    propertiesOf_eq_nil hbefore, propertiesOf_eq_nil hafter, List.nil_append, List.append_nil,
    hc.propertiesOf_eq_self hprops]

end Members

/-! ### Which children have a property -/

/-- **Which children of a resource have a property**, and the properties: a child whose class is
one of some classes, and a child without a class whose name for it is among some taken names,
those of members that are no classes. The name of each property is taken after it. -/
inductive Exposes (c : Context) (classes : List Json) :
    List Json → List Resource → List Tree → Prop
  | nil {taken : List Json} : Exposes c classes taken [] []
  | shown {taken : List Json} {r : Resource} {rest : List Resource} {name type : Json}
    {props : List Tree} (htype : c.resourceClass r.path = .ok type) (hclass : type ∈ classes)
    (hrest : Exposes c classes (taken ++ [name]) rest props) :
    Exposes c classes taken (r :: rest)
      (leaf (ServicePass.resourceProperty name type r.name) :: props)
  | phantom {taken : List Json} {r : Resource} {rest : List Resource} {name type : Json}
    {props : List Tree} (htype : c.resourceClass r.path = .ok type) (hclass : type ∉ classes)
    (htaken : type ∈ taken) (hrest : Exposes c classes (taken ++ [name]) rest props) :
    Exposes c classes taken (r :: rest)
      (leaf (ServicePass.resourceProperty name type r.name) :: props)
  | absent {taken : List Json} {r : Resource} {rest : List Resource} {type : Json}
    {props : List Tree} (htype : c.resourceClass r.path = .ok type) (hclass : type ∉ classes)
    (hfree : type ∉ taken) (hrest : Exposes c classes taken rest props) :
    Exposes c classes taken (r :: rest) props

section Exposing

variable {c : Context} {classes taken : List Json} {rs : List Resource} {props : List Tree}

theorem Exposes.isChildProperty (h : Exposes c classes taken rs props) :
    ∀ t ∈ props, IsChildProperty (c.resourceTypes rs) t := by
  induction h with
  | nil => nofun
  | shown htype _ _ ih | phantom htype _ _ _ ih =>
    rw [resourceTypes_cons htype]
    refine List.forall_mem_cons.2 ⟨⟨_, _, _, List.mem_cons_self, rfl⟩, fun t ht => ?_⟩
    exact (ih t ht).mono (List.subset_cons_self _ _)
  | absent htype _ _ _ ih =>
    rw [resourceTypes_cons htype]
    exact fun t ht => (ih t ht).mono (List.subset_cons_self _ _)

/-- When no child without a class finds its name taken, the types of the properties are those of
the children with a class. -/
theorem Exposes.types_eq (hc : c.Default) (h : Exposes c classes taken rs props)
    (hlost : ∀ type ∈ c.resourceTypes rs, type ∉ classes → type ∉ taken ++ props.map Tree.name) :
    props.map (fun t => t.decl.type?) =
      ((c.resourceTypes rs).filter fun type => classes.any type.sameKey).map some := by
  have hany {type : Json} {path : String} (htype : c.resourceClass path = .ok type) :
      classes.any type.sameKey = true ↔ type ∈ classes := by
    obtain ⟨text, rfl, -⟩ := hc.isStemmed_of_resourceClass htype
    exact any_sameKey_iff
  induction h with
  | nil => rfl
  | shown htype hclass _ ih =>
    rw [resourceTypes_cons htype] at hlost ⊢
    rw [List.filter_cons, if_pos ((hany htype).2 hclass), List.map_cons, List.map_cons, ih]
    · rfl
    · intro type hmem hnone
      rw [List.append_assoc]
      exact hlost type (List.mem_cons_of_mem _ hmem) hnone
  | phantom htype hclass htaken =>
    rw [resourceTypes_cons htype] at hlost
    exact absurd (List.mem_append_left _ htaken) (hlost _ List.mem_cons_self hclass)
  | absent htype hclass _ _ ih =>
    rw [resourceTypes_cons htype] at hlost ⊢
    rw [List.filter_cons, if_neg fun h => hclass ((hany htype).1 h), ih]
    exact fun type hmem => hlost type (List.mem_cons_of_mem _ hmem)

/-- A test that holds of just the elements of a sublist picks the sublist. -/
theorem filter_eq_of_sublist {α : Type} {test : α → Bool} {all kept : List α} (hnodup : all.Nodup)
    (hkept : kept.Sublist all) (htest : ∀ a ∈ all, test a = true ↔ a ∈ kept) :
    all.filter test = kept := by
  induction hkept with
  | slnil => rfl
  | cons first h ih =>
    obtain ⟨hfirst, hnodup⟩ := List.nodup_cons.1 hnodup
    obtain ⟨hhead, htail⟩ := List.forall_mem_cons.1 htest
    rw [List.filter_cons_of_neg fun hmem => hfirst (h.subset (hhead.1 hmem))]
    exact ih hnodup htail
  | cons_cons first h ih =>
    obtain ⟨hfirst, hnodup⟩ := List.nodup_cons.1 hnodup
    obtain ⟨hhead, htail⟩ := List.forall_mem_cons.1 htest
    rw [List.filter_cons_of_pos (hhead.2 List.mem_cons_self)]
    refine congrArg _ (ih hnodup fun a ha => (htail a ha).trans ?_)
    exact List.mem_cons.trans (or_iff_right (ne_of_mem_of_not_mem ha hfirst))

end Exposing

/-! ### Decorators -/

variable {c : Context} {front : List Declaration} {f : List Tree} {p : Nat} {d : Declaration}

namespace ResourcePass

/-- The properties for the resources inside, added to a class in which only classes of resources
have names of resource types. -/
theorem exposes_addSubresources (hc : c.Default) (hempty : HasEmpty front p d)
    {classes : List Json} (rs : List Resource) {taken : List Json}
    (hnames : f.map Tree.name = classes ++ taken) :
    Adds front (some (p : Int)) f (addSubresources p c rs)
      fun _ g => Exposes c classes taken rs g := by
  induction rs generalizing f taken with
  | nil => exact .pure .nil
  | cons r rest ih =>
    refine .lift fun ignored hignored => ?_
    obtain rfl := Except.ok.inj ((hc.ignoresResource r.path).symm.trans hignored)
    refine .lift fun type htype => ?_
    obtain ⟨text, rfl, -⟩ := hc.isStemmed_of_resourceClass htype
    refine .after (P := fun names => names = classes ++ taken)
      (fun w hw => .look fun names h => (hw.memberNames hempty h).trans hnames) ?_
    rintro _ rfl
    refine .ite (fun hany => ?_) fun hany => ?_
    · refine .safeName fun name _ _ => .bind (.member rfl) ?_
      rintro _ _ rfl
      have hnext : (f ++ [leaf (ServicePass.resourceProperty name (.str text) r.name)]).map
          Tree.name = classes ++ (taken ++ [name]) := by
        rw [List.map_append, hnames, List.append_assoc]
        rfl
      refine (ih hnext).imp fun _ g hg => ?_
      by_cases hclass : Json.str text ∈ classes
      · exact .shown htype hclass hg
      · have htaken := (List.mem_append.1 (any_sameKey_iff.1 hany)).resolve_left hclass
        exact .phantom htype hclass htaken hg
    · have hfree : Json.str text ∉ classes ++ taken := fun h =>
        Bool.eq_false_iff.1 hany (any_sameKey_iff.2 h)
      rw [List.mem_append, not_or] at hfree
      exact (ih hnames).imp fun _ g hg => .absent htype hfree.1 hfree.2 hg

/-- The constant with the name of a resource on the wire. -/
def wireNameConstant (r : Resource) : Declaration :=
  { name := "Resource", access := .ownClass, body := .constant "string" (.str r.name) }

/-- The property that holds the service. -/
def serviceProperty : Declaration :=
  { name := serviceMember, comment := .str "The service which this resource belongs to."
    body := .property { type := clientService, hasSet := false } }

/-- The constructor of a resource class. -/
def resourceConstructor (own : Json) (created : List Statement) : Declaration :=
  { name := own, comment := .str "Constructs a new resource."
    body := .method {
      isConstructor := true
      parameters := [⟨"service", clientService, .absent⟩]
      statements := .assign serviceMember (.snippet "service") :: created } }

theorem isNeutral_wireNameConstant (types : List Json) (r : Resource) :
    (leaf (wireNameConstant r)).IsNeutral types :=
  ⟨rfl, nofun⟩

theorem isNeutral_serviceProperty (hc : c.Default) (rs : List Resource) :
    (leaf serviceProperty).IsNeutral (c.resourceTypes rs) := by
  refine ⟨Bool.eq_false_iff.2 fun h => ?_, nofun⟩
  exact hc.notMem_resourceTypes (by decide) (hc.any_sameKey_iff_mem.1 h)

/-- **The members of a resource class that do not depend on its methods**, after the classes of
the resources inside. -/
theorem adds_ownMembers (hc : c.Default) (hempty : HasEmpty front p d) (r : Resource)
    (hclasses : ∀ t ∈ f, t.isClass = true) :
    Adds front (some (p : Int)) f (Pipeline.registered.resource.forM fun pass => pass.run r p c)
      fun _ own => ∃ props, Exposes c (f.map Tree.name) [.str "Resource"] r.resources props ∧
        own = [leaf (wireNameConstant r)] ++ props ++ [leaf serviceProperty] ++
          [leaf (resourceConstructor d.name (props.map (creation "service")))] := by
  rw [forM_registered]
  refine .bind (.member rfl) ?_
  rintro _ _ rfl
  refine .bind (exposes_addSubresources hc hempty r.resources (List.map_append ..))
    fun _ props hprops => ?_
  refine .after (P := fun own => own.1.name = d.name)
    (fun w hw => .look fun own hown => (hw.getClass hempty hown).1) ?_
  rintro ⟨own, places⟩ hown
  refine .bind (.member rfl) ?_
  rintro _ _ rfl
  refine .after (fun w hw => .look fun ds hds => hw.members hempty hds) fun ds hds => ?_
  refine .lift fun created hcreated => ?_
  have hbefore : ∀ t ∈ f ++ [leaf (wireNameConstant r)],
      t.IsNeutral (c.resourceTypes r.resources) :=
    List.forall_mem_append.2 ⟨fun t ht => isNeutral_of_isClass (hclasses t ht),
      List.forall_mem_singleton.2 (isNeutral_wireNameConstant _ r)⟩
  have hafter : ∀ t ∈ [leaf serviceProperty], t.IsNeutral (c.resourceTypes r.resources) :=
    List.forall_mem_singleton.2 (isNeutral_serviceProperty hc _)
  obtain rfl := hc.created_eq hds hbefore hprops.isChildProperty hafter hcreated
  refine (Adds.member rfl).imp ?_
  rintro _ _ rfl
  refine ⟨props, hprops, ?_⟩
  rw [← hown, List.append_assoc, List.append_assoc]
  rfl

end ResourcePass

namespace ServicePass

/-- The types of literals stand for no resources. -/
theorem isNeutral_constantProperty (hc : c.Default) (rs : List Resource) (name value comment : Json)
    (modifiers : List Modifier) :
    (leaf (constantProperty name value "" modifiers comment)).IsNeutral (c.resourceTypes rs) := by
  refine ⟨Bool.eq_false_iff.2 fun h => ?_, nofun⟩
  have hliteral : 'R' ∉ (literalType value).toList := by
    unfold literalType
    split <;> decide
  exact hc.notMem_resourceTypes hliteral (hc.any_sameKey_iff_mem.1 h)

theorem isNeutral_addConstants (hc : c.Default) (service : Service) (rs : List Resource) {o : Int} :
    Adds front (some o) f (addConstants service o)
      fun _ g => ∀ t ∈ g, t.IsNeutral (c.resourceTypes rs) := by
  have hname := isNeutral_constantProperty hc rs "Name" (.str service.name)
    (.str "Gets the service name.") [.override]
  refine .bind (.member rfl) ?_
  rintro _ _ rfl
  refine .bind (.member rfl) ?_
  rintro _ _ rfl
  refine .ite (fun _ => ?_) fun _ => .pure ?_
  · refine (Adds.member rfl).imp ?_
    rintro _ _ rfl
    have hbase := isNeutral_constantProperty hc rs "BaseUri" service.baseUri
      (.str "Gets the service base URI.") [.override]
    simpa using ⟨⟨rfl, nofun⟩, hname, hbase⟩
  · simpa using ⟨⟨rfl, nofun⟩, hname⟩

theorem isNeutral_addScopes (service : Service) (types : List Json) {o : Int} :
    Adds front (some o) f (addScopes service o c) fun _ g => ∀ t ∈ g, t.IsNeutral types := by
  refine .ite (fun _ => ?_) fun _ => .pure nofun
  refine .safeName fun name _ _ => ?_
  refine (Adds.inside rfl fun _ _ _ _ => adds_addScopeConstants service.scopes).imp ?_
  rintro _ _ ⟨ms, rfl, -⟩
  exact List.forall_mem_singleton.2 (isNeutral_of_isClass rfl)

/-- The properties for the resources at the top level whose classes are there. -/
theorem types_addResources (hc : c.Default) (rs : List Resource) {o : Int} :
    Adds front (some o) f (addResources o c rs) fun _ g =>
      (∀ t ∈ g, IsChildProperty (c.resourceTypes rs) t) ∧
      g.map (fun t => t.decl.type?) = ((c.resourceTypes rs).filter fun type =>
        (scopeNames front none).any type.sameKey).map some := by
  induction rs generalizing f with
  | nil => exact .pure ⟨nofun, rfl⟩
  | cons r rest ih =>
    refine .lift fun ignored hignored => ?_
    obtain rfl := Except.ok.inj ((hc.ignoresResource r.path).symm.trans hignored)
    refine .lift fun type htype => ?_
    rw [resourceTypes_cons htype]
    have hmore {g : List Tree} (hg : ∀ t ∈ g, IsChildProperty (c.resourceTypes rest) t) :
        ∀ t ∈ g, IsChildProperty (type :: c.resourceTypes rest) t :=
      fun t ht => (hg t ht).mono (List.subset_cons_self _ _)
    refine .after (P := fun names => names = scopeNames front none)
      (fun w hw => .look fun names h => hw.topNames h) ?_
    rintro _ rfl
    refine .ite (fun hany => ?_) fun hany => ?_
    · refine .safeName fun name _ _ => .bind (.member rfl) ?_
      rintro _ _ rfl
      refine ih.imp fun _ g hg => ⟨?_, ?_⟩
      · exact forall_mem_append_singleton ⟨_, _, _, List.mem_cons_self, rfl⟩ (hmore hg.1)
      · rw [List.filter_cons, if_pos hany, List.map_append, hg.2]
        rfl
    · refine ih.imp fun _ g hg => ⟨hmore hg.1, ?_⟩
      rw [List.filter_cons, if_neg (Bool.eq_false_iff.1 hany), hg.2]

/-- The constructor of the service class. -/
def serviceConstructor (c : Context) (own : Json) (created : List Statement) : Declaration :=
  { name := own, comment := .str "Constructs a new service."
    body := .method {
      isConstructor := true
      parameters := [⟨"initializer", c.config.serviceBaseClass.text ++ ".Initializer", .absent⟩]
      statements := created
      baseCall := some [.snippet "initializer"] } }

/-- **The members of the service class** refer to the resources whose classes are at the top
level. -/
theorem refers_registered (hc : c.Default) (hempty : HasEmpty front p d) (service : Service) :
    Adds front (some (p : Int)) []
      (Pipeline.registered.service.forM fun pass => pass.run service p c) fun _ ms =>
      ∃ props, Refers (c.resourceTypes service.resources) "this" ms props ∧
        props.map (fun t => t.decl.type?) = ((c.resourceTypes service.resources).filter fun type =>
          (scopeNames front none).any type.sameKey).map some := by
  rw [forM_registered]
  refine .bind (isNeutral_addConstants hc service service.resources)
    fun _ constants hconstants => ?_
  refine .bind (isNeutral_addScopes service (c.resourceTypes service.resources))
    fun _ scopes hscopes => ?_
  refine .bind (types_addResources hc service.resources) fun _ props hprops => ?_
  refine .after (P := fun _ => True) (fun _ _ => .look (by simp)) ?_
  rintro ⟨own, places⟩ -
  refine .after (fun w hw => .look fun ds hds => hw.members hempty hds) fun ds hds => ?_
  refine .lift fun created hcreated => ?_
  have hbefore := List.forall_mem_append.2 ⟨hconstants, hscopes⟩
  have hnone : ∀ t ∈ ([] : List Tree), t.IsNeutral (c.resourceTypes service.resources) := nofun
  rw [List.nil_append, ← List.append_nil (constants ++ scopes ++ props)] at hds
  obtain rfl := hc.created_eq hds hbefore hprops.1 hnone hcreated
  refine (Adds.member rfl).imp ?_
  rintro _ _ rfl
  refine ⟨props, ?_, hprops.2⟩
  have hrefers := hc.refers_of_parts
    (d := serviceConstructor c own.name (props.map (creation "this"))) [] hbefore hprops.1 hnone
    hnone rfl rfl rfl nofun
  simpa [serviceConstructor] using hrefers

end ServicePass

/-! ### Resources -/

section Relation

variable (c : Context)

mutual

/-- **The class of a resource refers to the resources inside it**, and their classes do so too.
There is a class for each of some of the resources inside, in their order, and no other class has
the name of a class of one of them. The class refers to resources inside by properties, and it is
told which of them have one; these are the ones that have a class, unless one without a class
finds its name taken by the constant `Resource` or by one of the properties. -/
inductive ResourceRefers : Resource → Tree → Prop
  | intro {r : Resource} {t : Tree} {present : List Resource} {inner rest props : List Tree}
    (hname : c.resourceClass r.path = .ok t.name) (hclass : t.isClass = true)
    (hmembers : t.members = inner ++ rest) (hpresent : present.Sublist r.resources)
    (hinner : ResourcesRefer present inner)
    (hrest : ∀ u ∈ rest, u.isClass = true → u.name ∉ c.resourceTypes r.resources)
    (hrefers : Refers (c.resourceTypes r.resources) "service" t.members props)
    (hexposes : Exposes c (inner.map Tree.name) ["Resource"] r.resources props)
    (hexact : (∀ type ∈ c.resourceTypes r.resources, type ∉ inner.map Tree.name →
        type ≠ "Resource" ∧ type ∉ props.map Tree.name) →
      props.map (fun p => p.decl.type?) = inner.map fun u => some u.name) : ResourceRefers r t

/-- **The classes of resources refer to the resources inside them.** -/
inductive ResourcesRefer : List Resource → List Tree → Prop
  | nil : ResourcesRefer [] []
  | cons {r : Resource} {rs : List Resource} {t : Tree} {ts : List Tree}
    (h : ResourceRefers r t) (hrest : ResourcesRefer rs ts) : ResourcesRefer (r :: rs) (t :: ts)

end

end Relation

theorem ResourcesRefer.map_name {rs : List Resource} {ts : List Tree}
    (h : ResourcesRefer c rs ts) : ts.map Tree.name = c.resourceTypes rs := by
  induction rs generalizing ts with
  | nil =>
    cases h
    rfl
  | cons r rest ih =>
    obtain _ | ⟨⟨hname, -, -, -, -, -, -, -, -⟩, hrest⟩ := h
    rw [resourceTypes_cons hname, List.map_cons, ih hrest]

theorem ResourcesRefer.sublist {rs present : List Resource} {ts : List Tree}
    (h : ResourcesRefer c present ts) (hpresent : present.Sublist rs) :
    (ts.map Tree.name).Sublist (c.resourceTypes rs) := by
  rw [h.map_name]
  exact hpresent.filterMap _

theorem ResourcesRefer.isClass {rs : List Resource} {ts : List Tree} (h : ResourcesRefer c rs ts) :
    ∀ t ∈ ts, t.isClass = true := by
  induction rs generalizing ts with
  | nil =>
    cases h
    nofun
  | cons r rest ih =>
    obtain _ | ⟨⟨-, hclass, -, -, -, -, -, -, -⟩, hrest⟩ := h
    exact List.forall_mem_cons.2 ⟨hclass, ih hrest⟩

/-- The classes and factories of methods say nothing about child resources, and their names are
not those of classes of resources. -/
theorem isNeutral_of_requestForms (hc : c.Default) {path : String} {ms : List Method}
    {ts : List Tree} (rs : List Resource) (h : RequestForms (MethodForm c) path ms ts) :
    ∀ t ∈ ts, t.IsNeutral (c.resourceTypes rs) ∧
      (t.isClass = true → t.name ∉ c.resourceTypes rs) := by
  induction h with
  | nil => nofun
  | cons hm _ ih =>
    obtain ⟨hname, -, -, -, -⟩ := hm
    refine List.forall_mem_cons.2 ⟨⟨isNeutral_of_isClass rfl, fun _ hmem => ?_⟩,
      List.forall_mem_cons.2 ⟨⟨⟨rfl, ?_⟩, nofun⟩, ih⟩⟩
    · obtain ⟨request, hrequest, hstem⟩ := hc.isStemmed_of_isSafe (by decide) hname
      obtain ⟨resource, hresource, hstem'⟩ := hc.isStemmed_of_mem hmem
      exact hstem.request_ne_resource hstem' (Json.str.inj (hrequest.symm.trans hresource))
    · rintro _ ⟨⟩
      rfl

/-- **The class of a resource from its parts.** -/
theorem resourceRefers_of_parts (hc : c.Default) {r : Resource} {name comment : Json}
    {present : List Resource} {inner props requests : List Tree} {path : String} {ms : List Method}
    (hname : c.resourceClass r.path = .ok name) (htold : (c.resourceTypes r.resources).Nodup)
    (hpresent : present.Sublist r.resources) (hinner : ResourcesRefer c present inner)
    (hexposes : Exposes c (inner.map Tree.name) [.str "Resource"] r.resources props)
    (hrequests : RequestForms (MethodForm c) path ms requests) :
    ResourceRefers c r (.node (Declaration.ofClass name [] comment) (inner ++
      ([leaf (ResourcePass.wireNameConstant r)] ++ props ++ [leaf ResourcePass.serviceProperty] ++
        [leaf (ResourcePass.resourceConstructor name (props.map (creation "service")))]) ++
      requests)) := by
  have hneutral := isNeutral_of_requestForms hc r.resources hrequests
  refine .intro hname rfl (List.append_assoc ..) hpresent hinner ?_ ?_ hexposes ?_
  · simp only [List.forall_mem_append, List.forall_mem_singleton]
    refine ⟨⟨⟨⟨nofun, fun t ht => ?_⟩, nofun⟩, nofun⟩, fun t ht => (hneutral t ht).2⟩
    obtain ⟨_, _, _, -, rfl⟩ := hexposes.isChildProperty t ht
    nofun
  · have hbefore : ∀ t ∈ inner ++ [leaf (ResourcePass.wireNameConstant r)],
        t.IsNeutral (c.resourceTypes r.resources) :=
      List.forall_mem_append.2 ⟨fun t ht => isNeutral_of_isClass (hinner.isClass t ht),
        List.forall_mem_singleton.2 (ResourcePass.isNeutral_wireNameConstant _ r)⟩
    have hbetween : ∀ t ∈ [leaf ResourcePass.serviceProperty],
        t.IsNeutral (c.resourceTypes r.resources) :=
      List.forall_mem_singleton.2 (ResourcePass.isNeutral_serviceProperty hc _)
    have hrefers := hc.refers_of_parts
      (d := ResourcePass.resourceConstructor name (props.map (creation "service")))
      [.assign serviceMember (.snippet "service")] hbefore hexposes.isChildProperty hbetween
      (fun t ht => (hneutral t ht).1) rfl rfl rfl (List.forall_mem_singleton.2 rfl)
    simpa using hrefers
  · intro hlost
    rw [hexposes.types_eq hc fun type htype hnone => ?_]
    · have hsublist := hinner.sublist hpresent
      rw [filter_eq_of_sublist htold hsublist fun type htype => ?_, List.map_map]
      · rfl
      · obtain ⟨text, rfl, -⟩ := hc.isStemmed_of_mem htype
        exact any_sameKey_iff
    · rw [List.mem_append, List.mem_singleton, not_or]
      exact hlost type htype hnone

namespace Plan

variable {plan : Plan}

theorem nodup_resourceTypes {r : Resource} (h : AreTold (family plan.context.naming.resources r)) :
    (plan.context.resourceTypes r.resources).Nodup := by
  obtain ⟨_, names, -, hnames, hnodup⟩ := exists_of_family h
  rw [resourceTypes_eq hnames]
  exact (List.nodup_cons.1 hnodup).2

mutual

theorem refers_resource (hplan : plan.pipeline = .registered) (hc : plan.context.Default) :
    ∀ (r : Resource) {w w' : Workbench} {front : List Declaration} {owner : Option Int}
      {f : List Tree}, w.Grown front owner f → Over (made plan.context) [] w.model →
      (∀ q ∈ r.withNested, AreTold (family plan.context.naming.resources q)) →
      plan.buildResource owner r w = .ok () w' →
      ∃ t, w'.Grown front owner (f ++ [t]) ∧ ResourceRefers plan.context r t
  | ⟨name, methods, inner, path⟩, w, w', front, owner, f, hw, hover, htold, h => by
    rw [buildResource_eq] at h
    obtain ⟨decl, v, hopen, h⟩ := Session.bind_eq_ok.1 h
    obtain ⟨_, u, hfill, hmethods⟩ := Session.bind_eq_ok.1 h
    have hoverOpen := (steady_openResource hw.counted _).over_of_ok hover hopen
    obtain ⟨className, _, hclass, hadd⟩ := Session.bind_eq_ok.1 hopen
    obtain ⟨hname, rfl⟩ := Session.lift_eq_ok.1 hclass
    obtain ⟨rfl, hstart⟩ := hw.addClass rfl hadd
    have hdecl := hstart.counted _ rfl
    have hoverFill := (steady_fillResource _ hdecl).over_of_ok hoverOpen hfill
    have hempty := hstart.hasEmpty_last
    rw [Resource.withNested] at htold
    obtain ⟨hfamily, htold⟩ := List.forall_mem_cons.1 htold
    -- inside the class: the resources, then the decorators, then the methods
    obtain ⟨_, t, hinner, hpasses⟩ := Session.bind_eq_ok.1 hfill
    obtain ⟨present, inside, hgrown, hpresent, hinside⟩ :=
      refers_resources hplan hc inner hstart hoverOpen htold hinner
    rw [hplan] at hpasses
    obtain ⟨own, hgrown, props, hexposes, rfl⟩ :=
      ResourcePass.adds_ownMembers hc hempty _ hinside.isClass hgrown hpasses
    obtain ⟨requests, hgrown, -, hforms⟩ : ∃ requests, _ ∧
        RequestTrees plan.context (fun _ => True) _ methods requests ∧ _ :=
      exists_methods hplan hdecl hgrown hoverFill (fun _ _ _ => trivial) hmethods
    exact ⟨_, .outside hw.detached rfl hw.counted hgrown, resourceRefers_of_parts hc hname
      (nodup_resourceTypes hfamily) hpresent hinside hexposes hforms⟩

theorem refers_resources (hplan : plan.pipeline = .registered) (hc : plan.context.Default) :
    ∀ (rs : List Resource) {w w' : Workbench} {front : List Declaration} {owner : Option Int}
      {f : List Tree}, w.Grown front owner f → Over (made plan.context) [] w.model →
      (∀ q ∈ Resource.allNested rs, AreTold (family plan.context.naming.resources q)) →
      plan.buildResources owner rs w = .ok () w' →
      ∃ present g, w'.Grown front owner (f ++ g) ∧ present.Sublist rs ∧
        ResourcesRefer plan.context present g
  | [], w, w', front, owner, f, hw, _, _, h => by
    cases h
    exact ⟨[], [], by rwa [List.append_nil], .slnil, .nil⟩
  | r :: rest, w, w', front, owner, f, hw, hover, htold, h => by
    rw [Resource.allNested] at htold
    obtain ⟨htoldFirst, htold⟩ := List.forall_mem_append.1 htold
    rw [buildResources_cons_of_kept (hc.ignoresResource r.path)] at h
    obtain ⟨_, v, hv, h⟩ := Session.bind_eq_ok.1 h
    have hsteady := plan.steady_buildResource hw.counted r
    have hoverNext := (Steady.guarded hsteady).over_of_ok hover hv
    rcases cases_of_guarded hsteady hover hv with hbuilt | ⟨hmodel, -⟩
    · obtain ⟨t, ht, hrefers⟩ := refers_resource hplan hc r hw hover htoldFirst hbuilt
      obtain ⟨present, g, hg, hpresent, hrest⟩ :=
        refers_resources hplan hc rest ht hoverNext htold h
      exact ⟨r :: present, t :: g, by simpa using hg, hpresent.cons_cons r, .cons hrefers hrest⟩
    · obtain ⟨present, g, hg, hpresent, hrest⟩ :=
        refers_resources hplan hc rest (hw.of_model hmodel) hoverNext htold h
      exact ⟨present, g, hg, hpresent.cons r, hrest⟩

end

/-- **The classes of a built model and the resources they refer to.** -/
theorem refers_build (hplan : plan.pipeline = .registered) (hc : plan.context.Default)
    (htells : plan.context.naming.Tells plan.context.service) {l : Ledger} {w : Workbench}
    (h : plan.build ⟨{}, l⟩ = .ok () w) :
    ∃ (top : Tree) (resources schemas : List Tree) (present : List Resource),
      w.model.forest = top :: (resources ++ schemas) ∧
      present.Sublist plan.context.service.resources ∧
      ResourcesRefer plan.context present resources ∧
      (∀ t ∈ top :: schemas, t.name ∉ plan.context.resourceTypes plan.context.service.resources) ∧
      (top.members ≠ [] → ∃ props,
        Refers (plan.context.resourceTypes plan.context.service.resources) "this" top.members
          props ∧
        props.map (fun t => t.decl.type?) = resources.map fun t => some t.name) := by
  obtain ⟨schemaNames, resourceNames, hschemas, hresources, hnodup⟩ := htells.exists_names
  have htypes := resourceTypes_eq hresources
  obtain ⟨hservice, hothers⟩ := List.nodup_cons.1 hnodup
  obtain ⟨-, hnodupResources, hdisjoint⟩ := List.nodup_append.1 hothers
  rw [build_eq] at h
  obtain ⟨_, w₃, hbuilt, h⟩ := Session.bind_eq_ok.1 h
  obtain ⟨_, w₄, hbuiltSchemas, h⟩ := Session.bind_eq_ok.1 h
  have hmodel : w.model = w₄.model := by
    cases h
    rfl
  rw [hmodel]
  obtain ⟨w₁, w₂, hopen, hrun, -, hoverService, hdecorate⟩ := parts_of_buildService hbuilt
  obtain ⟨-, hgrown, hover⟩ := grown_openService hopen
  obtain ⟨present, rs, hgrown, hpresent, hrefers⟩ :=
    refers_resources hplan hc _ hgrown hover htells.nested hrun
  have hinside : w₂.Grown (layout none 0 (leaf plan.serviceDeclaration :: rs)) (some 0) [] :=
    hgrown.restart (some 0) (by simp)
  -- at the top level there are the service class and the classes of resources
  have hnames : scopeNames (layout none 0 (leaf plan.serviceDeclaration :: rs)) none =
      plan.context.naming.serviceClass :: rs.map Tree.name :=
    scopeNames_layout _ _ _ (by simp)
  obtain ⟨ms, hms, hmembers⟩ : ∃ ms, w₃.Grown _ (some 0) ms ∧ (ms ≠ [] → ∃ props,
      Refers (plan.context.resourceTypes plan.context.service.resources) "this" ms props ∧
      props.map (fun t => t.decl.type?) = rs.map fun t => some t.name) := by
    rcases hdecorate with hbuilt | hmodel
    · rw [decorateService, hplan] at hbuilt
      obtain ⟨ms, hms, props, hprops, hexact⟩ :=
        ServicePass.refers_registered hc (hasEmpty_first _ rs) _ hinside hbuilt
      refine ⟨ms, hms, fun _ => ⟨props, hprops, ?_⟩⟩
      rw [hexact, hnames, filter_eq_of_sublist ?_ (hrefers.sublist hpresent) ?_, List.map_map]
      · rfl
      · rw [htypes]
        exact hnodupResources
      · intro type htype
        obtain ⟨text, rfl, -⟩ := hc.isStemmed_of_mem htype
        rw [any_sameKey_iff, List.mem_cons]
        refine or_iff_right fun hsame => hservice (List.mem_append_right _ ?_)
        rwa [← hsame, ← htypes]
    · exact ⟨[], hinside.of_model hmodel, fun h => absurd rfl h⟩
  obtain ⟨ss, hss, hforms⟩ :=
    exists_schemas hplan (hms.restart none (by simp)) hoverService hbuiltSchemas
  refine ⟨_, rs, ss, present, forest_of_grown hgrown.detached hms.detached hss, hpresent, hrefers,
    List.forall_mem_cons.2 ⟨?_, fun t ht => ?_⟩, hmembers⟩
  · rw [htypes]
    exact fun hmem => hservice (List.mem_append_right _ hmem)
  · obtain ⟨s, hs, hform⟩ := exists_left_of_forall₂ hforms ht
    have hname : plan.context.naming.schemas.find? s.name = some t.name := by
      obtain ⟨hname, -, -, -⟩ := hform
      exact hname
    have hmem : t.name ∈ schemaNames := by
      have hfound := List.mem_map_of_mem (f := fun s => plan.context.naming.schemas.find? s.name)
        (mem_of_mem_keptSchemas hs)
      rw [hname, hschemas] at hfound
      simpa using hfound
    rw [htypes]
    exact fun hmem' => hdisjoint _ hmem _ hmem' rfl

end Plan

/-! ### Documents -/

/-- **Properties, constructor assignments and child classes match.** In the model that is built
from a document with the default settings, when no two resources of the service have one path,
the classes at the top level beside the service class are those of some of the resources, in
their order, and those of schemas. The service class, unless its decoration was taken back, has
one property that cannot be set and one assignment of a new object for each of the classes of
resources, in their order, and none for a resource without a class. Each class of a resource
refers to the resources inside it in the way that `ResourceRefers` tells. -/
theorem refers_of_buildDocument {pipeline : Pipeline} {document : Json} {plan : Plan}
    {w : Workbench} (hpipeline : Pipeline.ofConfig {} = .ok pipeline)
    (hkeys : document.hasDistinctKeys = true)
    (h : buildDocument {} pipeline document (Workbench.start document) = .ok plan w)
    (hpaths : ((Resource.allNested plan.context.service.resources).map Resource.path).Nodup) :
    ∃ (top : Tree) (resources schemas : List Tree) (present : List Resource),
      w.model.forest = top :: (resources ++ schemas) ∧
      present.Sublist plan.context.service.resources ∧
      ResourcesRefer plan.context present resources ∧
      (∀ t ∈ top :: schemas, t.name ∉ plan.context.resourceTypes plan.context.service.resources) ∧
      (top.members ≠ [] → ∃ props,
        Refers (plan.context.resourceTypes plan.context.service.resources) "this" top.members
          props ∧
        props.map (fun t => t.decl.type?) = resources.map fun t => some t.name) := by
  have hconfig : ({} : Config).HasDefaultDecorators := ⟨rfl, rfl, rfl, rfl⟩
  rw [hconfig.ofConfig] at hpipeline
  obtain rfl := Except.ok.inj hpipeline
  obtain ⟨service, l, hread, hplan, hbuild⟩ := exists_build_of_buildDocument h
  have hc := default_planFor hplan
  have hs : IsDisarming "Value" := by decide +kernel
  obtain ⟨naming, hnaming, hplan⟩ := Outcome.bind_eq_ok.1 hplan
  cases hplan
  have htells := tells_resolve hs (Document.nodup_schemaNames hkeys hread) hpaths hnaming
  exact Plan.refers_build rfl hc htells hbuild

/-- A document in which resources are lost at both levels: `!!` because its class has the name of
a member of it, and `q` because the properties for the resources inside it have one name. -/
def gappyDocument : Json :=
  .object [("name", "x"), ("resources", .object [
    ("!!", .object []),
    ("a", .object [("resources", .object [
      ("q", .object [("resources", .object [
        ("serviceValue", .object []), ("service", .object [])])]),
      ("b", .object [])])]),
    ("c", .object [])])]

/-- In the model of the document above, the properties and the classes match. -/
theorem refers_gappyDocument :
    Pipeline.ofConfig {} = .ok .registered ∧ gappyDocument.hasDistinctKeys = true ∧
    ∃ (plan : Plan) (w : Workbench),
      buildDocument {} .registered gappyDocument (Workbench.start gappyDocument) = .ok plan w ∧
      (Resource.allNested plan.context.service.resources).map Resource.path =
        ["!!", "a", "a.q", "a.q.serviceValue", "a.q.service", "a.b", "c"] ∧
      w.model.nodes.toList.map (fun d => d.name.text) =
        ["XService", "AResource", "BResource", "Resource", "Service", "BResource", "Resource", "B",
         "Service", "AResource", "CResource", "Resource", "Service", "CResource", "Version", "Name",
         "A", "C", "XService"] ∧
      ((Resource.allNested plan.context.service.resources).map Resource.path).Nodup ∧
      ∃ (top : Tree) (resources schemas : List Tree) (present : List Resource),
        w.model.forest = top :: (resources ++ schemas) ∧
        present.Sublist plan.context.service.resources ∧
        ResourcesRefer plan.context present resources ∧
        (∀ t ∈ top :: schemas,
          t.name ∉ plan.context.resourceTypes plan.context.service.resources) ∧
        (top.members ≠ [] → ∃ props,
          Refers (plan.context.resourceTypes plan.context.service.resources) "this" top.members
            props ∧
          props.map (fun t => t.decl.type?) = resources.map fun t => some t.name) := by
  have hconfig : ({} : Config).HasDefaultDecorators := ⟨rfl, rfl, rfl, rfl⟩
  have hkeys : gappyDocument.hasDistinctKeys = true := by decide +kernel
  have hrun : Session.passes (fun (plan : Plan) (w : Workbench) =>
      ((Resource.allNested plan.context.service.resources).map Resource.path ==
        ["!!", "a", "a.q", "a.q.serviceValue", "a.q.service", "a.b", "c"]) &&
      (w.model.nodes.toList.map (fun d => d.name.text) ==
        ["XService", "AResource", "BResource", "Resource", "Service", "BResource", "Resource", "B",
         "Service", "AResource", "CResource", "Resource", "Service", "CResource", "Version", "Name",
         "A", "C", "XService"]))
      (buildDocument {} .registered gappyDocument (Workbench.start gappyDocument)) = true := by
    decide +kernel
  obtain ⟨plan, w, hbuild, htest⟩ := Session.exists_of_passes hrun
  obtain ⟨hlist, hnames⟩ := (Bool.and_eq_true _ _).mp htest
  have hpaths : ((Resource.allNested plan.context.service.resources).map Resource.path).Nodup := by
    rw [eq_of_beq hlist]
    decide
  exact ⟨hconfig.ofConfig, hkeys, plan, w, hbuild, eq_of_beq hlist, eq_of_beq hnames, hpaths,
    refers_of_buildDocument hconfig.ofConfig hkeys hbuild hpaths⟩

/-- A document in which the resource `!!` inside `a` is lost, and its class would have had the
name of the constant in the class of `a`. -/
def phantomDocument : Json :=
  .object [("name", "x"), ("resources", .object [
    ("a", .object [("resources", .object [("!!", .object [])])])])]

theorem resourceClass_of_any {c : Context} {path name : String}
    (h : (c.naming.resources.find? path).any (·.isText name) = true) :
    c.resourceClass path = .ok (.str name) := by
  cases hfound : c.naming.resources.find? path with
  | none =>
    rw [hfound] at h
    cases h
  | some found =>
    rw [hfound, Option.any_some] at h
    rw [Context.resourceClass, hfound, Json.isText_iff.1 h]

/-- In the model of the document above, no class has the name `Resource`, which was chosen for the
resource inside `a`; but the class of `a` has a property of this type, and its constructor creates
an object of it. -/
theorem exists_phantom_phantomDocument :
    phantomDocument.hasDistinctKeys = true ∧
    ∃ (plan : Plan) (w : Workbench),
      buildDocument {} .registered phantomDocument (Workbench.start phantomDocument) =
        .ok plan w ∧
      (Resource.allNested plan.context.service.resources).map Resource.path = ["a", "a.!!"] ∧
      plan.context.resourceClass "a.!!" = .ok "Resource" ∧
      (∀ d ∈ w.model.nodes.toList, d.isClass = true → d.name ≠ "Resource") ∧
      ∃ t ∈ w.model.forest, plan.context.resourceClass "a" = .ok t.name ∧
        (propertiesOf ["Resource"] t.members).map (fun u => u.name.text) = ["Value"] ∧
        (creationsOf ["Resource"] t.members).length = 1 := by
  have hkeys : phantomDocument.hasDistinctKeys = true := by decide +kernel
  have hrun : Session.passes (fun (plan : Plan) (w : Workbench) =>
      ((Resource.allNested plan.context.service.resources).map Resource.path == ["a", "a.!!"]) &&
      (plan.context.naming.resources.find? "a.!!").any (·.isText "Resource") &&
      (plan.context.naming.resources.find? "a").any (·.isText "AResource") &&
      (w.model.nodes.toList.all fun d => !(d.isClass && d.name.isText "Resource")) &&
      w.model.forest.any fun t => t.name.isText "AResource" &&
        ((propertiesOf ["Resource"] t.members).map (fun u => u.name.text) == ["Value"]) &&
        (creationsOf ["Resource"] t.members).length == 1)
      (buildDocument {} .registered phantomDocument (Workbench.start phantomDocument)) = true := by
    decide +kernel
  obtain ⟨plan, w, hbuild, htest⟩ := Session.exists_of_passes hrun
  simp only [Bool.and_eq_true, beq_iff_eq, List.any_eq_true, List.all_eq_true] at htest
  obtain ⟨⟨⟨⟨hpaths, hchild⟩, hclass⟩, hnone⟩, t, ht, ⟨hname, hprops⟩, hcreated⟩ := htest
  refine ⟨hkeys, plan, w, hbuild, hpaths, resourceClass_of_any hchild,
    fun d hd hisClass hsame => ?_, t, ht, ?_, hprops, hcreated⟩
  · have hfree := hnone d hd
    rw [hisClass, hsame] at hfree
    simp [Json.isText] at hfree
  · rw [Json.isText_iff.1 hname]
    exact resourceClass_of_any hclass

end ClientGen
