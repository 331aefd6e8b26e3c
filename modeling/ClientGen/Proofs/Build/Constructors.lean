import ClientGen.Proofs.Build.Capture
import ClientGen.Proofs.Build.Hiding
import ClientGen.Proofs.Document.Accounting
import ClientGen.Proofs.Naming.Distinct

/-!
# What constructors take and assign, and how often

The constructor of a request class takes the required parameters of its method: first those that
the order of the method lists, in that order, and then the others in the order of the document.
It assigns what it takes, and after it the defaults. Which property a value is assigned to is found
by the wire name, and under which name it is taken depends on the names that are in use; what is
stated here is stated of the constructor as it is in the model (`ClientGen.TakesParameters`).

An order may list a parameter more than once, and a required parameter is then taken and assigned
as often as it is listed (`ClientGen.Method.count_takenNames`). So every required parameter is
taken exactly once if and only if the order repeats none of them.

Two conditions are carried along. The parameters of a method have different names since the
objects of a document have each key once (`ClientGen.Document.distinctParameters_of_read`); and the
members of a class have different names since the entries of a model are coherent
(`ClientGen.Context.Usable.everywhere_forest`).
-/

namespace ClientGen

open Build ClientGen.Tree

/-! ### Methods of a document -/

/-- The parameters of a method have different names. -/
def Method.HasDistinctParameters (m : Method) : Prop :=
  (m.parameters.map Parameter.name).Nodup

namespace Document

open Json

theorem distinctParameters_of_methodReads {path name : String} {value : Json} {m : Method}
    (hkeys : value.hasDistinctKeys = true) (h : MethodReads path name value m) :
    m.HasDistinctParameters := by
  obtain ⟨fields, rfl, hparameters⟩ := h.parameters
  rw [Method.HasDistinctParameters, names_of_parameterReads hparameters]
  exact (distinctKeys_objectAt (hasDistinctKeys_object.1 hkeys).2 "parameters").1

variable {names : List String}

theorem distinctParameters_of_accounted {path : String} {entries : Fields} {methods : List Method}
    {issues : List Issue} (hkeys : fieldsDistinctKeys entries = true)
    (h : Accounted (judgeMethod names) (dotted path) (fun n => MethodReads (dotted path n) n)
      entries methods issues) :
    ∀ m ∈ methods, m.HasDistinctParameters := by
  induction h with
  | nil => exact nofun
  | kept _ hread _ ih =>
    rw [fieldsDistinctKeys, Bool.and_eq_true] at hkeys
    exact List.forall_mem_cons.2 ⟨distinctParameters_of_methodReads hkeys.1 hread, ih hkeys.2⟩
  | leftOut _ _ _ ih =>
    rw [fieldsDistinctKeys, Bool.and_eq_true] at hkeys
    exact ih hkeys.2

/-- All methods of some resources and of those inside them have a property. -/
def EveryMethod (P : Method → Prop) (rs : List Resource) : Prop :=
  ∀ r ∈ Resource.allNested rs, ∀ m ∈ r.methods, P m

theorem everyMethod_nil (P : Method → Prop) : EveryMethod P [] := by
  intro r hr
  rw [Resource.allNested] at hr
  cases hr

theorem everyMethod_cons {P : Method → Prop} {r : Resource} {rs : List Resource} :
    EveryMethod P (r :: rs) ↔
      (∀ m ∈ r.methods, P m) ∧ EveryMethod P r.resources ∧ EveryMethod P rs := by
  rw [EveryMethod, Resource.allNested, Resource.withNested_eq]
  simp only [List.cons_append, List.mem_cons, List.mem_append, EveryMethod]
  constructor
  · intro h
    exact ⟨h r (.inl rfl), fun q hq => h q (.inr (.inl hq)), fun q hq => h q (.inr (.inr hq))⟩
  · rintro ⟨hown, hinner, hrest⟩ q (rfl | hq | hq)
    · exact hown
    · exact hinner q hq
    · exact hrest q hq

theorem everyMethod_append {P : Method → Prop} {rs qs : List Resource} :
    EveryMethod P (rs ++ qs) ↔ EveryMethod P rs ∧ EveryMethod P qs := by
  induction rs with
  | nil => simp [everyMethod_nil]
  | cons r rs ih =>
    rw [List.cons_append, everyMethod_cons, everyMethod_cons, ih, and_assoc, and_assoc]

mutual

theorem distinctParameters_of_resourceAccounted {name path : String} {value : Json}
    {r? : Option Resource} {issues : List Issue} (hkeys : value.hasDistinctKeys = true) :
    ResourceAccounted names name path value r? issues →
      EveryMethod Method.HasDistinctParameters r?.toList
  | .kept hmethods hresources => by
    have hfields := (hasDistinctKeys_object.1 hkeys).2
    rw [Option.toList_some, everyMethod_cons]
    exact ⟨distinctParameters_of_accounted (distinctKeys_objectAt hfields "methods").2 hmethods,
      distinctParameters_of_resourcesAccounted (distinctKeys_objectAt hfields "resources").2
        hresources, everyMethod_nil _⟩
  | .leftOut _ => everyMethod_nil _

theorem distinctParameters_of_resourcesAccounted {pathOf : String → String} {entries : Fields}
    {rs : List Resource} {issues : List Issue} (hkeys : fieldsDistinctKeys entries = true) :
    ResourcesAccounted names pathOf entries rs issues →
      EveryMethod Method.HasDistinctParameters rs
  | .nil => everyMethod_nil _
  | .cons hr hrest => by
    rw [fieldsDistinctKeys, Bool.and_eq_true] at hkeys
    exact everyMethod_append.2 ⟨distinctParameters_of_resourceAccounted hkeys.1 hr,
      distinctParameters_of_resourcesAccounted hkeys.2 hrest⟩

end

/-- **The parameters of a method that was read have different names.** -/
theorem distinctParameters_of_read {document : Json} (hkeys : document.hasDistinctKeys = true)
    {l l' : Ledger} {service : Service} (h : read document l = .ok service l') :
    EveryMethod Method.HasDistinctParameters service.resources := by
  obtain ⟨fields, l₀, l₁, rfl, -, -, hresources⟩ := exists_of_read h
  obtain ⟨issues, -, haccounted⟩ := (ends_readResources id _ _).of_ok hresources
  have hfields := (hasDistinctKeys_object.1 hkeys).2
  exact distinctParameters_of_resourcesAccounted (distinctKeys_objectAt hfields "resources").2
    haccounted

end Document

open Document

/-! ### Methods that are kept -/

namespace Plan

variable {plan : Plan} {P : Method → Prop}

theorem mem_of_mem_survivors {r : Resource} {owner : Int} {ms : List Method} {w : Workbench}
    {m : Method} (h : m ∈ plan.survivors r owner ms w) : m ∈ ms := by
  induction ms generalizing w with
  | nil => exact h
  | cons first rest ih =>
    rw [survivors_cons] at h
    split at h
    · exact List.mem_cons_of_mem first (ih h)
    · rcases List.mem_cons.1 h with rfl | h
      · exact List.mem_cons_self
      · exact List.mem_cons_of_mem first (ih h)

mutual

theorem everyMethod_keptResource (owner : Option Int) :
    ∀ (r : Resource) (w : Workbench), EveryMethod P [r] →
      EveryMethod P [plan.keptResource owner r w]
  | ⟨name, methods, inner, path⟩, w, h => by
    rw [keptResource]
    split
    · exact h
    · obtain ⟨hmethods, hinner, hnone⟩ := everyMethod_cons.1 h
      refine everyMethod_cons.2 ⟨fun m hm => ?_, ?_, hnone⟩
      · exact hmethods m (mem_of_mem_survivors hm)
      · exact everyMethod_keptResources _ inner _ hinner

/-- What holds of all methods holds of all that are kept. -/
theorem everyMethod_keptResources (owner : Option Int) :
    ∀ (rs : List Resource) (w : Workbench), EveryMethod P rs →
      EveryMethod P (plan.keptResources owner rs w)
  | [], _, h => h
  | r :: rest, w, h => by
    obtain ⟨hmethods, hinner, hrest⟩ := everyMethod_cons.1 h
    have hr : EveryMethod P [r] := everyMethod_cons.2 ⟨hmethods, hinner, everyMethod_nil P⟩
    rw [keptResources]
    split
    · dsimp only
      split
      · exact everyMethod_keptResources owner rest _ hrest
      · rw [← List.singleton_append]
        exact everyMethod_append.2 ⟨everyMethod_keptResource owner r w hr,
          everyMethod_keptResources owner rest _ hrest⟩
    · exact everyMethod_keptResources owner rest w hrest

end

end Plan

/-! ### Members with different names -/

/-- A tree and all the trees inside it have a property. -/
inductive Tree.Everywhere (P : Tree → Prop) : Tree → Prop
  | intro {t : Tree} (here : P t) (inside : ∀ u ∈ t.members, Everywhere P u) : Everywhere P t

/-- The members of a tree have different names. -/
def Tree.HasDistinctMembers (t : Tree) : Prop :=
  (t.members.map Tree.name).Nodup

theorem CodeModel.sublist_treesAt (m : CodeModel) {ds : List Declaration} (fuel : Nat)
    (places : List Nat) :
    (((m.withEntries ds).treesAt fuel places).map Tree.name).Sublist
      (places.map (CodeModel.nameAt ds)) := by
  cases fuel with
  | zero => exact List.nil_sublist _
  | succ fuel =>
    induction places with
    | nil => exact List.Sublist.slnil
    | cons i rest ih =>
      rw [treesAt] at ih ⊢
      rw [List.map_cons]
      cases hd : ds[i]? with
      | none =>
        have hnode : (m.withEntries ds).nodes[i]? = none := by rw [withEntries_nodes, hd]; rfl
        rw [List.filterMap_cons, hnode]
        exact ih.cons _
      | some d =>
        have hnode : (m.withEntries ds).nodes[i]? = some (settle ds i d) := by
          rw [withEntries_nodes, hd]; rfl
        have hname : nameAt ds i = d.name := by rw [nameAt, hd]; rfl
        rw [List.filterMap_cons, hnode, hname]
        have hsettled : (settle ds i d).detached.name = d.name := by simp
        rw [Option.map_some, List.map_cons, Tree.name_node, hsettled]
        exact ih.cons_cons _

theorem Context.Usable.everywhere_forest {c : Context} (hc : c.Usable) {m : CodeModel}
    (h : Over (made c) [] m) : ∀ t ∈ m.forest, t.Everywhere Tree.HasDistinctMembers := by
  obtain ⟨ds, hds, -, hmade, rfl⟩ := h
  have hnames := hds.nodup_names fun d hd => (hc.declaration (hmade d hd)).1
  suffices htrees : ∀ fuel places, ∀ t ∈ (CodeModel.ofEntries ds).treesAt fuel places,
      t.Everywhere Tree.HasDistinctMembers from htrees _ _
  intro fuel
  induction fuel with
  | zero => exact nofun
  | succ fuel ih =>
    intro places t ht
    rw [CodeModel.treesAt] at ht
    obtain ⟨i, -, hi⟩ := List.mem_filterMap.1 ht
    obtain ⟨d, -, rfl⟩ := Option.map_eq_some_iff.1 hi
    refine .intro ?_ (ih _)
    rw [Tree.HasDistinctMembers, Tree.members_node]
    refine (CodeModel.sublist_treesAt _ fuel _).nodup ?_
    rw [CodeModel.ofEntries, CodeModel.memberPlaces_withEntries hds]
    exact hnames (some i)

/-! ### Trees of kept methods -/

section Forms

variable {c : Context} {R R' : String → Method → Tree → Tree → Prop} {P : Method → Prop}
  {Q : Tree → Prop}

theorem RequestForms.imp_of_mem
    (h : ∀ {location m request factory}, P m → Q request → R location m request factory →
      R' location m request factory) {path : String} {ms : List Method} {ts : List Tree}
    (hms : ∀ m ∈ ms, P m) (hts : ∀ t ∈ ts, Q t) (hforms : RequestForms R path ms ts) :
    RequestForms R' path ms ts := by
  induction hforms with
  | nil => exact .nil
  | cons hm _ ih =>
    obtain ⟨hpm, hms⟩ := List.forall_mem_cons.1 hms
    obtain ⟨hrequest, hts⟩ := List.forall_mem_cons.1 hts
    exact .cons (h hpm hrequest hm) (ih hms (List.forall_mem_cons.1 hts).2)

theorem Tree.Everywhere.here {t : Tree} (h : t.Everywhere Q) : Q t := by
  obtain ⟨h, -⟩ := h
  exact h

theorem Tree.Everywhere.inside {t u : Tree} (h : t.Everywhere Q) (hu : u ∈ t.members) :
    u.Everywhere Q := by
  obtain ⟨-, h⟩ := h
  exact h u hu

mutual

theorem ResourceForm.imp_of_mem
    (h : ∀ {location m request factory}, P m → Q request → R location m request factory →
      R' location m request factory) :
    ∀ (r : Resource) {t : Tree}, EveryMethod P [r] → t.Everywhere Q → ResourceForm c R r t →
      ResourceForm c R' r t
  | ⟨_, _, inner, _⟩, _, hmethods, htree, .intro hname hinner hown hrequests => by
    obtain ⟨hms, hrs, -⟩ := everyMethod_cons.1 hmethods
    refine .intro hname (ResourceForms.imp_of_mem h inner hrs (fun t ht => ?_) hinner)
      ⟨hown.aside, hown.wireName⟩ (hrequests.imp_of_mem h hms fun t ht => ?_)
    · exact htree.inside (List.mem_append_left _ (List.mem_append_left _ ht))
    · exact (htree.inside (List.mem_append_right _ ht)).here

/-- What is known of the classes and factories of methods can be weakened, with what is known of
all methods and of all trees. -/
theorem ResourceForms.imp_of_mem
    (h : ∀ {location m request factory}, P m → Q request → R location m request factory →
      R' location m request factory) :
    ∀ (rs : List Resource) {ts : List Tree}, EveryMethod P rs → (∀ t ∈ ts, t.Everywhere Q) →
      ResourceForms c R rs ts → ResourceForms c R' rs ts
  | [], _, _, _, .nil => .nil
  | r :: rest, _, hmethods, htrees, .cons hr hrest => by
    obtain ⟨hms, hrs, hlater⟩ := everyMethod_cons.1 hmethods
    obtain ⟨htree, htrees⟩ := List.forall_mem_cons.1 htrees
    have hfirst : EveryMethod P [r] := everyMethod_cons.2 ⟨hms, hrs, everyMethod_nil P⟩
    exact .cons (ResourceForm.imp_of_mem h r hfirst htree hr)
      (ResourceForms.imp_of_mem h rest hlater htrees hrest)

end

end Forms

/-! ### The order of the parameters -/

namespace Method

/-- Whether a method has a required parameter of a name. -/
def requires (m : Method) (name : String) : Bool :=
  m.parameters.any fun p => p.name == name && p.required

/-- **The names of the required parameters in the order of a constructor**: those that the order of
the method lists, as it lists them, and then the others in the order of the document. -/
def takenNames (m : Method) : List String :=
  m.parameterOrder.filter m.requires ++
    ((m.parameters.filter Parameter.required).map Parameter.name).filter
      fun name => !m.parameterOrder.contains name

variable {m : Method} (hm : m.HasDistinctParameters)

include hm

theorem eq_of_name_eq {p q : Parameter} (hp : p ∈ m.parameters) (hq : q ∈ m.parameters)
    (h : p.name = q.name) : p = q :=
  List.inj_on_of_nodup_map hm hp hq h

theorem requires_name {p : Parameter} (hp : p ∈ m.parameters) : m.requires p.name = p.required := by
  rw [requires, Bool.eq_iff_iff, List.any_eq_true]
  constructor
  · rintro ⟨q, hq, h⟩
    obtain ⟨hname, hrequired⟩ := (Bool.and_eq_true _ _).mp h
    rwa [← eq_of_name_eq hm hq hp (eq_of_beq hname)]
  · intro hrequired
    exact ⟨p, hp, by simp [hrequired]⟩

omit hm in
theorem requires_eq_false {name : String} (h : m.parameter? name = none) :
    m.requires name = false := by
  rw [requires, List.any_eq_false]
  intro p hp
  have hne := List.find?_eq_none.1 h p hp
  simp_all

theorem map_name_filterMap (names : List String) :
    (names.filterMap fun name => (m.parameter? name).filter Parameter.required).map Parameter.name =
      names.filter m.requires := by
  induction names with
  | nil => rfl
  | cons name rest ih =>
    rw [List.filterMap_cons, List.filter_cons]
    cases hfound : m.parameter? name with
    | none =>
      rw [requires_eq_false hfound]
      exact ih
    | some p =>
      have hmem : p ∈ m.parameters := List.mem_of_find?_eq_some hfound
      have hname : p.name = name := by simpa using List.find?_some hfound
      rw [← hname, requires_name hm hmem, Option.filter_some]
      cases p.required with
      | false => exact ih
      | true => exact congrArg (p.name :: ·) ih

/-- The constructor goes through the required parameters in this order. -/
theorem names_requiredParameters :
    (RequestPass.requiredParameters m).map Parameter.name = m.takenNames := by
  rw [RequestPass.requiredParameters, takenNames, List.map_append, map_name_filterMap hm,
    List.filter_map, List.filter_filter]
  congr 2
  refine List.filter_congr fun p _ => ?_
  rw [Bool.and_comm]
  rfl

/-- **A required parameter is taken as often as the order lists it, and at least once**; the others
are never taken. -/
theorem count_takenNames {p : Parameter} (hp : p ∈ m.parameters) :
    m.takenNames.count p.name =
      if p.required then max 1 (m.parameterOrder.count p.name) else 0 := by
  have hnodup : ((m.parameters.filter Parameter.required).map Parameter.name).Nodup :=
    (List.filter_sublist.map Parameter.name).nodup hm
  rw [takenNames, List.count_append]
  cases hrequired : p.required with
  | true =>
    have hmem : p.name ∈ (m.parameters.filter Parameter.required).map Parameter.name :=
      List.mem_map_of_mem (List.mem_filter.2 ⟨hp, hrequired⟩)
    rw [List.count_filter (by rw [requires_name hm hp, hrequired]), if_pos rfl]
    by_cases hlisted : p.name ∈ m.parameterOrder
    · have hpos := List.one_le_count_iff.2 hlisted
      have hother : p.name ∉ ((m.parameters.filter Parameter.required).map Parameter.name).filter
          fun name => !m.parameterOrder.contains name := by
        simp [hlisted]
      rw [List.count_eq_zero_of_not_mem hother]
      omega
    · rw [List.count_eq_zero_of_not_mem hlisted, List.count_filter (by simpa using hlisted),
        List.count_eq_one_of_mem hnodup hmem]
      rfl
  | false =>
    rw [if_neg Bool.false_ne_true, List.count_eq_zero_of_not_mem, List.count_eq_zero_of_not_mem]
    · intro h
      obtain ⟨q, hq, hname⟩ := List.mem_map.1 (List.mem_filter.1 h).1
      obtain ⟨hq, hqr⟩ := List.mem_filter.1 hq
      rw [eq_of_name_eq hm hq hp hname, hrequired] at hqr
      cases hqr
    · intro h
      have hreq := (List.mem_filter.1 h).2
      rw [requires_name hm hp, hrequired] at hreq
      cases hreq

end Method

/-! ### Constructors of requests -/

/-- **The property of a parameter**: the only member of a request class that has its wire name. -/
structure IsPropertyOf (request : Tree) (name : String) (t : Tree) : Prop where
  member : t ∈ request.members
  wireName : RequestPass.wireName? t.decl = .ok (some name)
  unique : ∀ u ∈ request.members, RequestPass.wireName? u.decl = .ok (some name) → u = t

/-- How often the constructor of a request assigns the property of a parameter. -/
def Method.timesAssigned (m : Method) (p : Parameter) : Nat :=
  if p.required then max 1 (m.parameterOrder.count p.name) else if p.isPreset then 1 else 0

/-- **What the constructor of a request takes and assigns.** It takes the service, the required
parameters and the body. It assigns the required parameters to their properties, then the defaults
to theirs, and then the body. -/
inductive TakesParameters (m : Method) (request : Tree) : Prop
  | intro {constructor : Tree} {required bodies : List Intake} {presets : List Preset}
    {statements : List Statement}
    (hmember : constructor ∈ request.members)
    (hconstructor : constructor.decl.body = .method {
      isConstructor := true
      parameters := ⟨"service", "IClientService", .absent⟩ ::
        (required ++ bodies).map Intake.argument
      statements, baseCall := some [.snippet "service"] })
    (honly : ∀ t ∈ request.members, ∀ b, t.decl.body = .method b → b.isConstructor = true →
      t = constructor)
    (hstatements : statements = required.map Intake.assignment ++
      presets.map Preset.assignment ++ bodies.map Intake.assignment)
    (hdistinct : (.str "service" :: ((required ++ bodies).map Intake.argument).map
      Argument.name).Nodup)
    (hrequired : List.Forall₂ (fun name (i : Intake) => IsPropertyOf request name i.property)
      m.takenNames required)
    (hpresets : List.Forall₂ (fun (p : Parameter) (d : Preset) =>
      IsPropertyOf request p.name d.property) (m.parameters.filter Parameter.isPreset) presets)
    (hbodies : List.Forall₂ (fun _ (i : Intake) => i.property.name = .str "Body")
      m.request.toList bodies)
    (htaken : ∀ p ∈ m.parameters, m.takenNames.count p.name =
      if p.required then max 1 (m.parameterOrder.count p.name) else 0)
    (hassigned : ∀ p ∈ m.parameters, ∃ (t : Tree) (name : String),
      IsPropertyOf request p.name t ∧ t.name = .str name ∧
      statements.countP (Statement.assigns name) = m.timesAssigned p)

section Assigned

variable {request : Tree} (hmembers : request.HasDistinctMembers)

include hmembers

/-- Assignments to the properties of parameters are counted by the parameters. -/
theorem countP_assigns {ι : Type} {propertyOf : ι → Tree} (assignment : ι → Statement)
    (hassign : ∀ i, ∃ value, assignment i = .assign (propertyOf i).name value)
    {keys : List String} {items : List ι}
    (h : List.Forall₂ (fun key i => IsPropertyOf request key (propertyOf i)) keys items)
    {key name : String} {t : Tree} (ht : IsPropertyOf request key t) (hname : t.name = .str name) :
    (items.map assignment).countP (Statement.assigns name) = keys.count key := by
  induction h with
  | nil => rfl
  | @cons key' i keys items hi _ ih =>
    obtain ⟨value, hvalue⟩ := hassign i
    have hhit : (assignment i).assigns name = (key' == key) := by
      rw [hvalue, Statement.assigns, Bool.eq_iff_iff, Json.isText_iff, beq_iff_eq, ← hname]
      constructor
      · intro hsame
        have hproperty := List.inj_on_of_nodup_map hmembers hi.member ht.member hsame
        have hwire := hi.wireName
        rw [hproperty, ht.wireName] at hwire
        exact (Option.some.inj (Except.ok.inj hwire)).symm
      · rintro rfl
        rw [ht.unique _ hi.member hi.wireName]
    rw [List.map_cons, List.countP_cons, List.count_cons, ih, hhit]

end Assigned

section Methods

variable {c : Context} {location : String} {m : Method} {suffix : String}

/-- The properties of parameters have the wire names of the parameters. -/
theorem wireNames_of_isParameter {ps : List Parameter} {ts : List Tree}
    (h : List.Forall₂ (IsParameter c location) ps ts) :
    ts.map (fun t => RequestPass.wireName? t.decl) =
      (ps.map Parameter.name).map fun name => .ok (some name) := by
  induction h with
  | nil => rfl
  | cons hp _ ih =>
    rw [List.map_cons, List.map_cons, List.map_cons, RequestPass.wireName?_of_isParameter hp, ih]

theorem isPropertyOf_of_mem {parameters body : List Tree} {constructor : Declaration}
    {request : Tree} (h : RequestProperties c location m parameters body)
    (hm : m.HasDistinctParameters)
    (hmembers : request.members = headTrees m ++ parameters ++ body ++ [leaf constructor])
    (hconstructor : RequestPass.wireName? constructor = .ok none) {t : Tree} (ht : t ∈ parameters)
    {name : String} (hname : RequestPass.wireName? t.decl = .ok (some name)) :
    IsPropertyOf request name t where
  member := by
    rw [hmembers]
    exact List.mem_append_left _ (List.mem_append_left _ (List.mem_append_right _ ht))
  wireName := hname
  unique u hu huname := by
    have hnodup : (parameters.map fun t => RequestPass.wireName? t.decl).Nodup := by
      rw [wireNames_of_isParameter h.parameters]
      refine hm.map fun a b hab => ?_
      exact Option.some.inj (Except.ok.inj hab)
    rw [hmembers] at hu
    rcases List.mem_append.1 hu with hu | hu
    · have hmem := RequestPass.mem_of_wireName? h hu huname
      exact List.inj_on_of_nodup_map hnodup hmem ht (huname.trans hname.symm)
    · rw [List.mem_singleton.1 hu, decl_leaf, hconstructor] at huname
      cases huname

theorem exists_requestMembers {request factory : Tree}
    (h : MethodForm c location m request factory) :
    ∃ name arguments, RequestMembers c location m name arguments request.members := by
  obtain ⟨-, -, -, hmembers, -⟩ := h
  exact ⟨_, _, hmembers⟩

/-- The defaults that are assigned are those of the parameters, once each. -/
theorem count_isPreset (hm : m.HasDistinctParameters) {p : Parameter} (hp : p ∈ m.parameters) :
    ((m.parameters.filter Parameter.isPreset).map Parameter.name).count p.name =
      if p.isPreset then 1 else 0 := by
  have hnodup : ((m.parameters.filter Parameter.isPreset).map Parameter.name).Nodup :=
    (List.filter_sublist.map Parameter.name).nodup hm
  split
  · next hpreset =>
    exact List.count_eq_one_of_mem hnodup
      (List.mem_map_of_mem (List.mem_filter.2 ⟨hp, hpreset⟩))
  · next hpreset =>
    refine List.count_eq_zero_of_not_mem fun h => hpreset ?_
    obtain ⟨q, hq, hname⟩ := List.mem_map.1 h
    obtain ⟨hq, hqpreset⟩ := List.mem_filter.1 hq
    rwa [← Method.eq_of_name_eq hm hq hp hname]

/-- The body is assigned to no property of a parameter. -/
theorem countP_assigns_body (hsuffix : c.suffix = .str suffix)
    (hends : ¬suffix.toList <:+ "Body".toList) {parameters body : List Tree}
    (hproperties : RequestProperties c location m parameters body) {bodies : List Intake}
    (hbodies : ∀ i ∈ bodies, i.property.name = .str "Body") {t : Tree} (ht : t ∈ parameters)
    {key name : String} (hkey : RequestPass.wireName? t.decl = .ok (some key))
    (hname : t.name = .str name) :
    (bodies.map Intake.assignment).countP (Statement.assigns name) = 0 := by
  rw [List.countP_eq_zero]
  rintro s hs hassigns
  obtain ⟨i, hi, rfl⟩ := List.mem_map.1 hs
  have hsame : i.property.name = .str name := Json.isText_iff.1 hassigns
  have hbody : t.name = .str "Body" := by rw [hname, ← hsame, hbodies i hi]
  -- the only member of that name is the body itself, and it has no wire name
  have hmem := hproperties.mem_body hsuffix hends (List.mem_append_left body ht) hbody
  rw [RequestPass.wireName?_of_mem_bodyTrees hproperties.body hmem] at hkey
  cases hkey

/-- The property of a parameter has a text for a name. -/
theorem exists_name_of_isParameter (hsuffix : c.suffix = .str suffix) (hs : IsDisarming suffix)
    {p : Parameter} {t : Tree} (h : IsParameter c location p t) :
    ∃ name : String, t.name = .str name := by
  obtain ⟨name, type, ⟨reserved, hname⟩, -, rfl⟩ := h
  rw [hsuffix] at hname
  obtain ⟨text, htext, -⟩ := Identifier.isWord_safeWith ⟨suffix, rfl, hs.body⟩ hname
  exact ⟨text, htext⟩

theorem takesParameters_of_methodForm (hsuffix : c.suffix = .str suffix) (hs : IsDisarming suffix)
    (hends : ¬suffix.toList <:+ "Body".toList) (hm : m.HasDistinctParameters)
    {request factory : Tree} (hdistinct : request.HasDistinctMembers)
    (h : MethodForm c location m request factory) : TakesParameters m request := by
  obtain ⟨name, arguments, hform⟩ := exists_requestMembers h
  generalize hmembers : request.members = members at hform
  cases hform with
  | @intro parameters body required taken presets hproperties hintakes hrequired hpresets htaken =>
  have hproperty {t : Tree} (ht : t ∈ parameters) {name : String}
      (hname : RequestPass.wireName? t.decl = .ok (some name)) : IsPropertyOf request name t :=
    isPropertyOf_of_mem hproperties hm hmembers rfl ht hname
  have hrequiredOf : List.Forall₂ (fun name (i : Intake) => IsPropertyOf request name i.property)
      m.takenNames required := by
    rw [← Method.names_requiredParameters hm, List.forall₂_map_left_iff]
    exact hrequired.imp fun p i hi => hproperty hi.member hi.wireName
  have hpresetsOf : List.Forall₂ (fun (p : Parameter) (d : Preset) =>
      IsPropertyOf request p.name d.property) (m.parameters.filter Parameter.isPreset) presets :=
    hpresets.imp fun p d hd => hproperty hd.member hd.wireName
  have hbodies := (hproperties.forall₂_taken hsuffix hends htaken).imp fun _ _ hi => hi.2
  refine .intro (by rw [hmembers]; exact List.mem_append_right _ List.mem_cons_self) rfl ?_ rfl
    (hintakes.nodup hsuffix hs (List.nodup_singleton _)) hrequiredOf hpresetsOf hbodies
    (fun p hp => Method.count_takenNames hm hp) fun p hp => ?_
  · intro t ht b hb hconstructor
    rw [hmembers] at ht
    rcases List.mem_append.1 ht with ht | ht
    · rw [RequestPass.isConstructor_of_requestProperties hproperties ht hb] at hconstructor
      cases hconstructor
    · exact List.mem_singleton.1 ht
  · obtain ⟨t, ht, hparameter⟩ := exists_right_of_forall₂ hproperties.parameters hp
    have hkey := RequestPass.wireName?_of_isParameter hparameter
    have hmine := hproperty ht hkey
    obtain ⟨name, hname⟩ := exists_name_of_isParameter hsuffix hs hparameter
    refine ⟨t, name, hmine, hname, ?_⟩
    have htakes := countP_assigns hdistinct Intake.assignment (fun _ => ⟨_, rfl⟩) hrequiredOf hmine
      hname
    have hpreset := countP_assigns hdistinct Preset.assignment (fun _ => ⟨_, rfl⟩)
      (List.forall₂_map_left_iff.2 hpresetsOf) hmine hname
    have hbody := countP_assigns_body hsuffix hends hproperties
      (fun i hi => (exists_left_of_forall₂ hbodies hi).choose_spec.2) ht hkey hname
    rw [List.countP_append, List.countP_append, htakes, hpreset, hbody,
      Method.count_takenNames hm hp, count_isPreset hm hp, Method.timesAssigned, Nat.add_zero]
    cases hrequires : p.required with
    | true =>
      have hunset : p.isPreset = false := by rw [Parameter.isPreset, hrequires]; rfl
      rw [hunset]
      rfl
    | false => exact Nat.zero_add _

end Methods

/-! ### Documents -/

/-- What follows for a method from its class and factory in full, and from names that are told
apart, holds of all methods that are kept when a document is built. -/
theorem exists_forms_of_distinct {config : Config} {pipeline : Pipeline} {document : Json}
    {plan : Plan} {w : Workbench} {suffix : String} (hkeys : document.hasDistinctKeys = true)
    (hconfig : config.HasDefaultDecorators) (hsuffix : config.uniqueSuffix = .str suffix)
    (hs : IsDisarming suffix) (hpipeline : Pipeline.ofConfig config = .ok pipeline)
    (h : buildDocument config pipeline document (Workbench.start document) = .ok plan w)
    {R : String → Method → Tree → Tree → Prop}
    (hR : ∀ {location m request factory}, plan.context.suffix = .str suffix →
      m.HasDistinctParameters → request.HasDistinctMembers →
      MethodForm plan.context location m request factory → R location m request factory) :
    ∃ l : Ledger, Document.read document (Workbench.start document).ledger =
        .ok plan.context.service l ∧
      ∃ (service : Tree) (resources schemas : List Tree),
        w.model.forest = service :: (resources ++ schemas) ∧
        ResourceForms plan.context R (plan.keptServiceResources ⟨{}, l⟩) resources := by
  obtain ⟨hcontext, l, hread, top, resources, schemas, hforest, hresources, -⟩ :=
    exists_forms_of_buildDocument hconfig hpipeline h
  obtain ⟨service, l', -, hplan, hbuild⟩ := exists_build_of_buildDocument h
  have hcontextSuffix : plan.context.suffix = .str suffix := by
    rw [Context.suffix, hcontext, hsuffix]
  have husable := usable_planFor hsuffix hs hplan
  have htrees := husable.everywhere_forest (plan.steady_build.over_of_ok Over.nil hbuild)
  have hmethods : EveryMethod Method.HasDistinctParameters (plan.keptServiceResources ⟨{}, l⟩) :=
    Plan.everyMethod_keptResources _ _ _ (distinctParameters_of_read hkeys hread)
  have hmembers : ∀ t ∈ resources, t.Everywhere Tree.HasDistinctMembers := by
    intro t ht
    rw [hforest] at htrees
    exact htrees t (List.mem_cons_of_mem _ (List.mem_append_left _ ht))
  exact ⟨l, hread, top, resources, schemas, hforest,
    ResourceForms.imp_of_mem (hR hcontextSuffix) _ hmethods hmembers hresources⟩

/-- **The constructors of all request classes that are built take the required parameters**, each
as often as the order of its method lists it and at least once, and assign them and the defaults,
each to the property of its parameter. The suffix may be any disarming one that `Body` does not end
with: by another one a parameter could get the name of the body. -/
theorem takesParameters_of_buildDocument {config : Config} {pipeline : Pipeline} {document : Json}
    {plan : Plan} {w : Workbench} {suffix : String} (hkeys : document.hasDistinctKeys = true)
    (hconfig : config.HasDefaultDecorators) (hsuffix : config.uniqueSuffix = .str suffix)
    (hs : IsDisarming suffix) (hends : ¬suffix.toList <:+ "Body".toList)
    (hpipeline : Pipeline.ofConfig config = .ok pipeline)
    (h : buildDocument config pipeline document (Workbench.start document) = .ok plan w) :
    ∃ l : Ledger, Document.read document (Workbench.start document).ledger =
        .ok plan.context.service l ∧
      ∃ (service : Tree) (resources schemas : List Tree),
        w.model.forest = service :: (resources ++ schemas) ∧
        ResourceForms plan.context (fun _ m request _ => TakesParameters m request)
          (plan.keptServiceResources ⟨{}, l⟩) resources := by
  refine exists_forms_of_distinct hkeys hconfig hsuffix hs hpipeline h ?_
  intro location m request factory hcontextSuffix hm hrequest hform
  exact takesParameters_of_methodForm hcontextSuffix hs hends hm hrequest hform

/-- A document with a method whose order lists an optional parameter, a required one twice, and
leaves out the others. -/
def ticketDocument : Json :=
  .object [("name", "tickets"),
    ("schemas", .object [("Ticket", .object [("id", "Ticket"), ("type", "object"),
      ("properties", .object [("seat", .object [("type", "string")])])])]),
    ("resources", .object [("tickets", .object [("methods", .object [
      ("book", .object [("httpMethod", "POST"), ("path", "tickets/{concert}"),
        ("request", .object [("$ref", "Ticket")]),
        ("parameters", .object [
          ("service", .object [("type", "string"), ("location", "query"),
            ("required", .bool true)]),
          ("class", .object [("type", "integer"), ("location", "query"), ("default", "2")]),
          ("note", .object [("type", "string"), ("location", "query"), ("default", "none"),
            ("repeated", .bool true)]),
          ("concert", .object [("type", "string"), ("location", "path"),
            ("required", .bool true)]),
          ("window", .object [("type", "boolean"), ("location", "query"),
            ("default", "true")])]),
        ("parameterOrder", .list ["class", "concert", "concert"])])])])])]

/-- The target of an assignment. -/
def Statement.target? : Statement → Option String
  | .assign target _ => some target.text
  | _ => none

/-- The constructors of a model: the names of their parameters, and what they assign to. -/
def CodeModel.constructors (m : CodeModel) : List (List String × List String) :=
  ((m.nodes.toList.filterMap Declaration.method?).filter MethodBody.isConstructor).map fun b =>
    (b.parameters.map fun a => a.name.text, b.statements.filterMap Statement.target?)

/-- The constructors for the document above: the concert is taken twice. -/
theorem takesParameters_ticketDocument :
    ticketDocument.hasDistinctKeys = true ∧ ({} : Config).HasDefaultDecorators ∧
    ({} : Config).uniqueSuffix = .str "Value" ∧ IsDisarming "Value" ∧
    (¬"Value".toList <:+ "Body".toList) ∧ Pipeline.ofConfig {} = .ok .registered ∧
    ∃ (plan : Plan) (w : Workbench),
      buildDocument {} .registered ticketDocument (Workbench.start ticketDocument) = .ok plan w ∧
      w.model.constructors =
        [(["service"], ["Service"]),
         (["service", "concert", "concertValue", "serviceValue", "body"],
          ["Concert", "Concert", "ServiceValue", "ClassValue", "Window", "Body"]),
         (["initializer"], ["Tickets"])] ∧
      ∃ (l : Ledger) (service : Tree) (resources schemas : List Tree),
        Document.read ticketDocument (Workbench.start ticketDocument).ledger =
          .ok plan.context.service l ∧
        w.model.forest = service :: (resources ++ schemas) ∧
        ResourceForms plan.context (fun _ m request _ => TakesParameters m request)
          (plan.keptServiceResources ⟨{}, l⟩) resources := by
  have hkeys : ticketDocument.hasDistinctKeys = true := by decide +kernel
  have hconfig : ({} : Config).HasDefaultDecorators := ⟨rfl, rfl, rfl, rfl⟩
  have hs : IsDisarming "Value" := by decide +kernel
  have hends : ¬"Value".toList <:+ "Body".toList := by decide
  have hrun : Session.passes (fun _ w => w.model.constructors ==
        [(["service"], ["Service"]),
         (["service", "concert", "concertValue", "serviceValue", "body"],
          ["Concert", "Concert", "ServiceValue", "ClassValue", "Window", "Body"]),
         (["initializer"], ["Tickets"])])
      (buildDocument {} .registered ticketDocument (Workbench.start ticketDocument)) = true := by
    decide +kernel
  obtain ⟨plan, w, hbuild, hconstructors⟩ := Session.exists_of_passes hrun
  obtain ⟨l, hread, service, resources, schemas, hforest, hforms⟩ :=
    takesParameters_of_buildDocument hkeys hconfig rfl hs hends hconfig.ofConfig hbuild
  exact ⟨hkeys, hconfig, rfl, hs, hends, hconfig.ofConfig, plan, w, hbuild,
    eq_of_beq hconstructors, l, service, resources, schemas, hread, hforest, hforms⟩

/-- A document with a method that requires one parameter and lists it twice. -/
def doubledDocument : Json :=
  .object [("name", "x"), ("resources", .object [("items", .object [("methods", .object [
    ("get", .object [("httpMethod", "GET"), ("path", "items"), ("parameters", .object [
      ("id", .object [("type", "string"), ("location", "query"), ("required", .bool true)])]),
      ("parameterOrder", .list ["id", "id"])])])])])]

/-- The document is read without an issue, and the constructor of its request takes the parameter
twice and assigns it twice. -/
theorem exists_twice_doubledDocument :
    ∃ (plan : Plan) (w : Workbench),
      buildDocument {} .registered doubledDocument (Workbench.start doubledDocument) = .ok plan w ∧
      w.ledger.issues = [] ∧
      plan.context.service.resources.map (fun r => r.methods.map fun m =>
        (m.parameters.map fun p => (p.name, p.required), m.parameterOrder)) =
          [[([("id", true)], ["id", "id"])]] ∧
      (["service", "id", "idValue"], ["Id", "Id"]) ∈ w.model.constructors := by
  have hrun : Session.passes (fun plan w => w.ledger.issues.isEmpty &&
        (plan.context.service.resources.map (fun r => r.methods.map fun m =>
          (m.parameters.map fun p => (p.name, p.required), m.parameterOrder)) ==
            [[([("id", true)], ["id", "id"])]] &&
          w.model.constructors.contains (["service", "id", "idValue"], ["Id", "Id"])))
      (buildDocument {} .registered doubledDocument (Workbench.start doubledDocument)) = true := by
    decide +kernel
  obtain ⟨plan, w, hbuild, hrun⟩ := Session.exists_of_passes hrun
  obtain ⟨hissues, hrun⟩ := (Bool.and_eq_true _ _).mp hrun
  obtain ⟨hmethods, hconstructors⟩ := (Bool.and_eq_true _ _).mp hrun
  exact ⟨plan, w, hbuild, List.isEmpty_iff.1 hissues, eq_of_beq hmethods,
    List.contains_iff_mem.1 hconstructors⟩

end ClientGen
