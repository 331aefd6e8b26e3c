import ClientGen.Proofs.Build.Made

/-!
# Every step of a building is steady

One lemma for each step, in the order of the definitions: the decorators of the service
class, of resource classes, of request classes and of schema classes, and the steps that
run them. Each lemma follows the do-block of its step and names what is known of the values
that go from one line to the next.
-/

namespace ClientGen

open Build Decorator

variable {c : Context} {base : List Declaration}

/-! ### Shared parts -/

theorem isStatement_resourceAssignments {children : List Resource} {service : String}
    (hs : IsSnippet c (.str service)) {ds : List Declaration} (hds : ∀ d ∈ ds, Made c d)
    {statements : List Statement}
    (h : resourceAssignments c children service ds = .ok statements) :
    ∀ s ∈ statements, IsStatement c s := by
  induction ds generalizing statements with
  | nil =>
    cases h
    simp
  | cons d rest ih =>
    have hrest : ∀ e ∈ rest, Made c e := fun e he => hds e (List.mem_cons_of_mem d he)
    rw [resourceAssignments] at h
    split at h
    · exact ih hrest h
    · rename_i p hp
      obtain ⟨type, -, h⟩ := Outcome.bind_eq_ok.1 h
      obtain ⟨later, hlater, h⟩ := Outcome.bind_eq_ok.1 h
      have hd := hds d List.mem_cons_self
      have htype : IsType c p.type := hd.type (by
        rw [Declaration.property?] at hp
        rw [Declaration.type?]
        split at hp
        · cases hp
          simp [*]
        · cases hp)
      split at h
      · cases h
        refine List.forall_mem_cons.2 ⟨⟨hd.name, htype, ?_⟩, ih hrest hlater⟩
        simpa using hs
      · cases h
        exact ih hrest hlater

/-! ### Decorators of the service class -/

namespace ServicePass

theorem steady_addConstants (service : Service) {decl : Int} (hd : 0 ≤ decl) :
    SteadyStep (made c) base (addConstants service decl) := by
  refine .bind (steady_member hd rfl (.fixed (by simp [fixedNames])) (by simp)
    (.fixed (by simp [fixedTypes]))) fun _ _ => ?_
  refine .bind (steady_member hd rfl (.fixed (by simp [constantProperty, fixedNames]))
    (by simp [constantProperty]) (isBody_constantProperty (by simp [Json.truthy]))) fun _ _ => ?_
  refine .ite (fun _ => ?_) fun _ => .pure trivial
  exact steady_member hd rfl (.fixed (by simp [constantProperty, fixedNames]))
    (by simp [constantProperty]) (isBody_constantProperty (by simp [Json.truthy]))

theorem steady_addScopeConstants {decl : Int} (hd : 0 ≤ decl) (scopes : List (String × Json)) :
    SteadyStep (made c) base (addScopeConstants c decl scopes) := by
  induction scopes with
  | nil => exact .pure trivial
  | cons scope rest ih =>
    refine .bind steady_safeName fun name hname => ?_
    refine .bind (steady_member hd rfl hname (by simp) (.fixed (by simp [fixedTypes])))
      fun _ _ => ih

theorem steady_addScopes (service : Service) {decl : Int} (hd : 0 ≤ decl) :
    SteadyStep (made c) base (addScopes service decl c) := by
  refine .ite (fun _ => ?_) fun _ => .pure trivial
  refine .bind steady_safeName fun name hname => ?_
  refine .bind (steady_class (by simpa using hd) hname (by simp)) fun scopeDecl hs => ?_
  exact steady_addScopeConstants (by omega) service.scopes

theorem steady_resourceProperty {decl : Int} {name type : Json} {resource : String}
    (hd : 0 ≤ decl) (hname : IsName c name) (htype : IsName c type) :
    SteadyStep (made c) base (addMember decl (resourceProperty name type resource)) :=
  steady_member hd rfl hname (by simp [resourceProperty])
    ⟨.ofName htype, rfl, by simp⟩

theorem steady_addResources {decl : Int} (hd : 0 ≤ decl) (rs : List Resource) :
    SteadyStep (made c) base (addResources decl c rs) := by
  induction rs with
  | nil => exact .pure trivial
  | cons r rest ih =>
    refine .bind (.lift (Q := fun _ => True) (by simp)) fun ignored _ => ?_
    dsimp only
    refine .ite (fun _ => ?_) fun _ => ih
    refine .bind (.lift fun _ => isName_resourceClass) fun type htype => ?_
    refine .bind (.look (Q := fun _ => True) (by simp)) fun names _ => ?_
    refine .ite (fun _ => ?_) fun _ => ih
    refine .bind steady_safeName fun name hname => ?_
    exact .bind (steady_resourceProperty hd hname htype) fun _ _ => ih

theorem steady_addConstructor (service : Service) {decl : Int} (hd : 0 ≤ decl) :
    SteadyStep (made c) base (addConstructor service decl c) := by
  refine .bind (.look fun m r hm => hm.getClass) fun own hown => ?_
  refine .bind (.look (Q := fun ds => ∀ d ∈ ds, Made c d) fun m r hm h d => hm.members h)
    fun ds hds => ?_
  refine .bind (.lift fun _ => isStatement_resourceAssignments ?_ hds) fun statements hs => ?_
  · exact .inl (by simp [fixedSnippets])
  · refine steady_member hd rfl hown.name (by simp)
      ⟨.fixed (by simp [fixedTypes]), ?_, hs, ?_, List.pairwise_singleton _ _⟩
    · simpa using ⟨.initializer, .initializer, rfl⟩
    · rintro arguments ⟨⟩ e he
      rw [List.mem_singleton.1 he]
      exact .inl (by simp [fixedSnippets])

theorem steady_run (p : ServicePass) (service : Service) {decl : Int} (hd : 0 ≤ decl) :
    SteadyStep (made c) base (p.run service decl c) := by
  cases p with
  | constants => exact steady_addConstants service hd
  | scopes => exact steady_addScopes service hd
  | resources => exact steady_addResources hd service.resources
  | constructor => exact steady_addConstructor service hd

end ServicePass

/-! ### Decorators of resource classes -/

namespace ResourcePass

theorem steady_addWireName (resource : Resource) {decl : Int} (hd : 0 ≤ decl) :
    SteadyStep (made c) base (addWireName resource decl) :=
  steady_member hd rfl (.fixed (by simp [fixedNames])) (by simp) (.fixed (by simp [fixedTypes]))

theorem steady_addSubresources {decl : Int} (hd : 0 ≤ decl) (rs : List Resource) :
    SteadyStep (made c) base (addSubresources decl c rs) := by
  induction rs with
  | nil => exact .pure trivial
  | cons r rest ih =>
    refine .bind (.lift (Q := fun _ => True) (by simp)) fun ignored _ => ?_
    dsimp only
    refine .ite (fun _ => ?_) fun _ => ih
    refine .bind (.lift fun _ => isName_resourceClass) fun type htype => ?_
    refine .bind (.look (Q := fun _ => True) (by simp)) fun names _ => ?_
    refine .ite (fun _ => ?_) fun _ => ih
    refine .bind steady_safeName fun name hname => ?_
    exact .bind (ServicePass.steady_resourceProperty hd hname htype) fun _ _ => ih

theorem steady_addService (resource : Resource) {decl : Int} (hd : 0 ≤ decl) :
    SteadyStep (made c) base (addService resource decl c) := by
  refine .bind (.look fun m r hm => hm.getClass) fun own hown => ?_
  refine .bind (steady_member hd rfl (.fixed (by simp [fixedNames])) (by simp)
    ⟨.fixed (by simp [fixedTypes]), rfl, by simp⟩) fun _ _ => ?_
  refine .bind (.look (Q := fun ds => ∀ d ∈ ds, Made c d) fun m r hm h d => hm.members h)
    fun ds hds => ?_
  refine .bind (.lift fun _ => isStatement_resourceAssignments ?_ hds) fun created hs => ?_
  · exact .inl (by simp [fixedSnippets])
  · refine steady_member hd rfl hown.name (by simp)
      ⟨.fixed (by simp [fixedTypes]), ?_, ?_, by simp, List.pairwise_singleton _ _⟩
    · simpa using ⟨.service, .fixed (by simp [fixedTypes]), rfl⟩
    · refine List.forall_mem_cons.2 ⟨⟨.fixed (by simp [fixedNames]), .inl ?_⟩, hs⟩
      simp [fixedSnippets]

theorem steady_run (p : ResourcePass) (resource : Resource) {decl : Int} (hd : 0 ≤ decl) :
    SteadyStep (made c) base (p.run resource decl c) := by
  cases p with
  | wireName => exact steady_addWireName resource hd
  | subresources => exact steady_addSubresources hd resource.resources
  | service => exact steady_addService resource hd

end ResourcePass

/-! ### Decorators of request classes -/

namespace RequestPass

variable {s : RequestSite}

theorem steady_addDocumentation (hr : (base.length : Int) ≤ s.request) :
    SteadyStep (made c) base (addDocumentation s) := by
  refine .bind (.look (Q := fun _ => True) (by simp)) fun d _ => ?_
  refine .bind (.lift (Q := fun _ => True) (by simp)) fun method _ => ?_
  exact .ite (fun _ => .setComment hr _) fun _ => .pure trivial

theorem steady_overriding {request : Int} (hr : 0 ≤ request) {name : String} (value : Json)
    (hname : .str name ∈ fixedNames) :
    SteadyStep (made c) base (addMember request (overriding name value)) :=
  steady_member hr rfl (.fixed hname) (by simp [overriding, constantProperty])
    (isBody_constantProperty fun _ => .fixed (by simp [fixedTypes]))

theorem steady_addFields (hr : 0 ≤ s.request) : SteadyStep (made c) base (addFields s) := by
  refine .bind (.lift (Q := fun _ => True) (by simp)) fun method _ => ?_
  refine .bind (steady_overriding hr _ (by simp [fixedNames])) fun _ _ => ?_
  refine .bind (steady_overriding hr _ (by simp [fixedNames])) fun _ _ => ?_
  exact steady_overriding hr _ (by simp [fixedNames])

theorem isType_parameterType {p : Parameter} {location : String} {type : Json}
    (h : parameterType c p location = .ok type) : IsType c type := by
  obtain ⟨plain, hplain, h⟩ := Outcome.bind_eq_ok.1 h
  have htype : IsType c plain := .ofType (.inl rfl) hplain
  split at h
  · obtain ⟨text, htext, h⟩ := Outcome.bind_eq_ok.1 h
    cases h
    exact .list htype htext
  · cases h
    exact htype

theorem context_eq_ok (hc : s.context? = some c) {c' : Context} (h : s.context = .ok c') :
    c = c' := by
  rw [RequestSite.context, hc] at h
  cases h
  rfl

theorem steady_addParameters (hc : s.context? = some c) (hr : 0 ≤ s.request) (method : Method)
    (ps : List Parameter) : SteadyStep (made c) base (addParameters s method ps) := by
  induction ps with
  | nil => exact .pure trivial
  | cons p rest ih =>
    refine .bind (.lift fun _ => context_eq_ok hc) ?_
    rintro _ rfl
    refine .bind steady_safeName fun name hname => ?_
    refine .bind (.lift fun _ => isType_parameterType) fun type htype => ?_
    refine .bind (steady_member hr rfl hname ?_ ⟨htype, rfl, by simp⟩) fun _ _ => ih
    simpa using .parameter p

theorem steady_addBody (hc : s.context? = some c) (hr : 0 ≤ s.request) :
    SteadyStep (made c) base (addBody s) := by
  refine .bind (.lift (Q := fun _ => True) (by simp)) fun method _ => ?_
  split
  · exact .pure trivial
  · rename_i schema _
    refine .bind (.lift fun _ => context_eq_ok hc) ?_
    rintro _ rfl
    refine .bind (.lift (Q := IsType _) fun type h => .ofType (t := .ref schema) (.inl rfl) h)
      fun type htype => ?_
    refine .bind (steady_member hr rfl (.fixed (by simp [fixedNames])) (by simp)
      ⟨htype, rfl, by simp⟩) fun _ _ => ?_
    refine steady_member hr rfl (.fixed (by simp [fixedNames])) (by simp)
      ⟨.fixed (by simp [fixedTypes]), by simp, ?_, nofun, .nil⟩
    intro st hst
    rw [List.mem_singleton.1 hst]
    exact .inl (by simp [fixedSnippets])

theorem of_mem_wireProperties {ds : List Declaration} {properties : List (String × Declaration)}
    (h : wireProperties ds = .ok properties) {p : String × Declaration} (hp : p ∈ properties) :
    p.2 ∈ ds := by
  induction ds generalizing properties with
  | nil =>
    cases h
    cases hp
  | cons d rest ih =>
    obtain ⟨own, -, h⟩ := Outcome.bind_eq_ok.1 h
    obtain ⟨later, hlater, h⟩ := Outcome.bind_eq_ok.1 h
    cases h
    rcases List.mem_append.1 hp with hp | hp
    · exact List.mem_cons_of_mem d (ih hlater hp)
    · cases own with
      | none => cases hp
      | some wire =>
        rw [List.mem_singleton.1 hp]
        exact List.mem_cons_self

theorem made_of_lookup {properties : List (String × Declaration)}
    (hp : ∀ p ∈ properties, Made c p.2) {name : String} {d : Declaration}
    (h : properties.lookup name = some d) : Made c d := by
  obtain ⟨front, back, rfl, -⟩ := List.lookup_eq_some_iff.1 h
  exact hp (name, d) (by simp)

/-- A constructor in the making has parts of a building only, and its parameters have
different names, which are the names in use. -/
structure IsSignature (c : Context) (g : Signature) : Prop where
  parameters : ∀ a ∈ g.parameters, IsArgument c a
  statements : ∀ st ∈ g.statements, IsStatement c st
  locals : g.parameters.map Argument.name = g.locals
  apart : AreApart g.locals

theorem IsSignature.take {g g' : Signature} (hg : IsSignature c g) {wanted : String}
    {type : Outcome Json} {target : Json} (htype : ∀ t, type = .ok t → IsType c t)
    (htarget : IsName c target) (h : g.take wanted c.suffix type target = .ok g') :
    IsSignature c g' := by
  obtain ⟨start, hstart, h⟩ := Outcome.bind_eq_ok.1 h
  obtain ⟨name, hname, h⟩ := Outcome.bind_eq_ok.1 h
  obtain ⟨t, ht, h⟩ := Outcome.bind_eq_ok.1 h
  cases h
  have hlocal : IsLocal c name := .fresh hstart hname
  refine ⟨fun a ha => ?_, fun st hst => ?_, by simp [hg.locals], ?_⟩
  · rcases List.mem_append.1 ha with ha | ha
    · exact hg.parameters a ha
    · rw [List.mem_singleton.1 ha]
      exact ⟨hlocal, htype t ht, rfl⟩
  · rcases List.mem_append.1 hst with hst | hst
    · exact hg.statements st hst
    · rw [List.mem_singleton.1 hst]
      exact ⟨htarget, .inr hlocal⟩
  · refine List.pairwise_append.2 ⟨hg.apart, List.pairwise_singleton _ _, fun u hu v hv => ?_⟩
    rw [List.mem_singleton.1 hv]
    exact Identifier.sameKey_of_freshWithin hname u hu

theorem isType_required {d : Declaration} (hd : Made c d) :
    ∀ t, Outcome.required d.type? = .ok t → IsType c t := by
  intro t ht
  cases h : d.type? with
  | none =>
    rw [h] at ht
    cases ht
  | some type =>
    rw [h] at ht
    cases ht
    exact hd.type h

theorem isSignature_takeRequired (hc : s.context? = some c)
    {properties : List (String × Declaration)} (hp : ∀ p ∈ properties, Made c p.2)
    {ps : List Parameter} {g g' : Signature} (hg : IsSignature c g)
    (h : takeRequired s properties ps g = .ok g') : IsSignature c g' := by
  induction ps generalizing g with
  | nil =>
    cases h
    exact hg
  | cons p rest ih =>
    rw [takeRequired] at h
    split at h
    · exact ih hg h
    · rename_i d hd
      obtain ⟨c', hc', h⟩ := Outcome.bind_eq_ok.1 h
      obtain rfl := context_eq_ok hc hc'
      obtain ⟨g₁, hg₁, h⟩ := Outcome.bind_eq_ok.1 h
      have hmade := made_of_lookup hp hd
      exact ih (hg.take (isType_required hmade) hmade.name hg₁) h

theorem steady_assignDefaults {location : String} {properties : List (String × Declaration)}
    (hp : ∀ p ∈ properties, Made c p.2) (ps : List Parameter) {g : Signature}
    (hg : IsSignature c g) :
    Steady (made c) base (IsSignature c) (assignDefaults s location properties ps g) := by
  induction ps generalizing g with
  | nil => exact .pure hg
  | cons p rest ih =>
    rw [assignDefaults]
    split
    · rename_i d value hd _ _
      dsimp only
      refine .ite (fun _ => ?_) fun _ => ?_
      · exact .bind (.write _ _) fun _ _ => ih hg
      · refine .bind (.lift (Q := fun _ => True) (by simp)) fun literal _ => ?_
        refine ih ⟨hg.parameters, fun st hst => ?_, hg.locals, hg.apart⟩
        rcases List.mem_append.1 hst with hst | hst
        · exact hg.statements st hst
        · rw [List.mem_singleton.1 hst]
          exact ⟨(made_of_lookup hp hd).name, trivial⟩
    · exact ih hg

theorem steady_takeBody (hc : s.context? = some c) {g : Signature} (hg : IsSignature c g) :
    Steady (made c) base (IsSignature c) (takeBody s g) := by
  refine .bind (.look (Q := fun _ => True) (by simp)) fun place _ => ?_
  split
  · exact .pure hg
  · refine .bind (.lift fun _ => context_eq_ok hc) ?_
    rintro _ rfl
    refine .bind (.look fun m d hm => hm.atPlace) fun body hbody => ?_
    exact .lift fun g' =>
      hg.take (isType_required hbody) (.fixed (by simp [fixedNames]))

theorem steady_addConstructor (hc : s.context? = some c) (hr : 0 ≤ s.request) :
    SteadyStep (made c) base (addConstructor s) := by
  refine .bind (.look fun m r hm => hm.getClass) fun own hown => ?_
  refine .bind (.lift (Q := fun _ => True) (by simp)) fun method _ => ?_
  refine .bind (.look (Q := fun ds => ∀ d ∈ ds, Made c d) fun m r hm h d => hm.members h)
    fun ds hds => ?_
  refine .bind (.lift (Q := fun ps => ∀ p ∈ ps, Made c p.2) fun ps h p hp =>
    hds _ (of_mem_wireProperties h hp)) fun properties hp => ?_
  have hstart : IsSignature c ⟨[⟨"service", clientService, .absent⟩], [], ["service"]⟩ :=
    ⟨by simpa using ⟨.service, .fixed (by simp [fixedTypes]), rfl⟩, by simp, rfl,
      List.pairwise_singleton _ _⟩
  refine .bind (.lift fun _ => isSignature_takeRequired hc hp hstart) fun g hg => ?_
  refine .bind (steady_assignDefaults hp method.parameters hg) fun g hg => ?_
  refine .bind (steady_takeBody hc hg) fun g hg => ?_
  refine steady_member hr rfl hown.name (by simp)
    ⟨.fixed (by simp [fixedTypes]), hg.parameters, hg.statements, ?_, hg.locals ▸ hg.apart⟩
  rintro arguments ⟨⟩ e he
  rw [List.mem_singleton.1 he]
  exact .inl (by simp [fixedSnippets])

theorem isArgument_of_constructorArguments {ds : List Declaration} (hds : ∀ d ∈ ds, Made c d)
    {as : List Argument} (h : constructorArguments? ds = some as) :
    (∀ a ∈ as, IsArgument c a) ∧ AreApart (as.map Argument.name) := by
  obtain ⟨d, hd, h⟩ := List.exists_of_findSome?_eq_some h
  have hbody := (hds d hd).body
  split at h
  · rename_i m hm
    rw [hm] at hbody
    obtain ⟨-, hparameters, -, -, hapart⟩ := hbody
    split at h
    · cases h
      refine ⟨fun a ha => hparameters a (List.mem_of_mem_drop ha), ?_⟩
      rw [List.map_drop]
      exact hapart.drop
    · cases h
  · cases h

theorem steady_addFactory (hc : s.context? = some c) (ho : 0 ≤ s.owner) :
    SteadyStep (made c) base (addFactory s) := by
  refine .bind (.look fun m r hm => hm.getClass) fun own hown => ?_
  refine .bind (.look (Q := fun ds => ∀ d ∈ ds, Made c d) fun m r hm h d => hm.members h)
    fun ds hds => ?_
  refine .bind (.lift (Q := fun _ => True) (by simp)) fun method _ => ?_
  refine .bind (.lift fun _ => context_eq_ok hc) ?_
  rintro _ rfl
  refine .bind steady_safeName fun name hname => ?_
  obtain ⟨harguments, hapart⟩ : (∀ a ∈ (constructorArguments? ds).getD [], IsArgument c a) ∧
      AreApart (((constructorArguments? ds).getD []).map Argument.name) := by
    cases h : constructorArguments? ds with
    | none => exact ⟨nofun, .nil⟩
    | some as => exact isArgument_of_constructorArguments hds h
  refine .bind (steady_member ho rfl hname (by simp) ⟨.ofName hown.name, ?_, ?_, nofun, ?_⟩)
    fun _ _ => ?_
  · intro a ha
    obtain ⟨a', ha', rfl⟩ := List.mem_map.1 ha
    exact ⟨(harguments a' ha').name, (harguments a' ha').type, rfl⟩
  · intro st hst
    rw [List.mem_singleton.1 hst]
    refine ⟨.ofName hown.name, fun e he => ?_⟩
    cases h : constructorArguments? ds with
    | none => simp [h] at he
    | some as =>
      rw [h] at he harguments
      rcases List.mem_cons.1 he with rfl | he
      · exact ⟨_, rfl, .inl (by simp [fixedSnippets])⟩
      · obtain ⟨a, ha, rfl⟩ := List.mem_map.1 he
        exact ⟨_, rfl, .inr (harguments a ha).name⟩
  · simpa [Function.comp_def] using hapart
  · refine .bind (.look (Q := fun _ => True) (by simp)) fun owner _ => ?_
    refine .bind (.lift (Q := fun _ => True) (by simp)) fun _ _ => ?_
    refine .bind (.lift (Q := fun _ => True) (by simp)) fun _ _ => ?_
    exact .write _ _

theorem steady_run (p : RequestPass) (hc : s.context? = some c) (ho : 0 ≤ s.owner)
    (hr : (base.length : Int) ≤ s.request) : SteadyStep (made c) base (p.run s) := by
  have hr' : 0 ≤ s.request := by omega
  cases p with
  | documentation => exact steady_addDocumentation hr
  | fields => exact steady_addFields hr'
  | parameters =>
    exact .bind (.lift (Q := fun _ => True) (by simp)) fun method _ =>
      steady_addParameters hc hr' method method.parameters
  | body => exact steady_addBody hc hr'
  | constructor => exact steady_addConstructor hc hr'
  | factory => exact steady_addFactory hc ho

end RequestPass

/-! ### Decorators of schema classes -/

namespace SchemaPass

theorem steady_addDocumentation (schema? : Option Schema) {decl : Int}
    (hd : (base.length : Int) ≤ decl) :
    SteadyStep (made c) base (addDocumentation schema? decl) := by
  refine .bind (.look (Q := fun _ => True) (by simp)) fun d _ => ?_
  refine .bind (.lift (Q := fun _ => True) (by simp)) fun schema _ => ?_
  exact .ite (fun _ => .setComment hd _) fun _ => .pure trivial

theorem steady_fieldProperty {decl : Int} (hd : 0 ≤ decl) {name type description : Json}
    {wireName : String} (hname : IsName c name) (htype : IsType c type) :
    SteadyStep (made c) base (addMember decl (fieldProperty name wireName type description)) :=
  steady_member hd rfl hname (by simpa [fieldProperty] using .field wireName)
    ⟨htype, rfl, by simp⟩

mutual

theorem steady_addFields (reserved : List Json) {decl : Int} (hd : 0 ≤ decl) :
    ∀ fields : List Field, SteadyStep (made c) base (addFields c reserved decl fields)
  | [] => .pure trivial
  | ⟨wireName, type, description, _, path⟩ :: rest => by
    rw [addFields]
    refine .bind steady_safeName fun name hname => ?_
    split
    · refine .bind (.lift (Q := IsType c) fun typeName h => .ofType (.inl rfl) h)
        fun typeName htype => ?_
      exact .bind (steady_fieldProperty hd hname htype) fun _ _ => steady_addFields reserved hd rest
    · refine .bind steady_safeName fun inlineClass hinline => ?_
      refine .bind (.lift (Q := IsType c) fun typeName h => .ofType (.inr hinline) h)
        fun typeName htype => ?_
      refine .bind (steady_fieldProperty hd hname htype) fun _ _ => ?_
      dsimp only
      refine .ite (fun _ => ?_) fun _ => steady_addFields reserved hd rest
      exact .bind (steady_addInline hd hinline type) fun _ _ => steady_addFields reserved hd rest

theorem steady_addInline {decl : Int} (hd : 0 ≤ decl) {name : Json} (hname : IsName c name) :
    ∀ type : TypeRef, SteadyStep (made c) base (addInline c decl name type)
  | .object _ ⟨_, description, fields, _⟩ => by
    rw [addInline]
    refine .bind (steady_class (by simpa using hd) hname (by simp)) fun nested hn => ?_
    exact steady_addFields [] (by omega) fields
  | .array items => by
    rw [addInline]
    exact steady_addInline hd hname items
  | .map values => by
    rw [addInline]
    exact steady_addInline hd hname values
  | .primitive .. => .pure trivial
  | .ref _ => .pure trivial
  | .any _ => .pure trivial

end

theorem steady_addETag {decl : Int} (hd : 0 ≤ decl) :
    SteadyStep (made c) base (addETag decl c) := by
  refine .ite (fun _ => ?_) fun _ => .pure trivial
  refine .bind (.look (Q := fun _ => True) (by simp)) fun place _ => ?_
  split
  · exact .pure trivial
  · exact steady_member hd rfl (.fixed (by simp [fixedNames])) (by simp)
      ⟨.fixed (by simp [fixedTypes]), rfl, by simp⟩

theorem steady_run (p : SchemaPass) (schema? : Option Schema) {decl : Int}
    (hd : (base.length : Int) ≤ decl) : SteadyStep (made c) base (p.run schema? decl c) := by
  have hd' : 0 ≤ decl := by omega
  cases p with
  | documentation => exact steady_addDocumentation schema? hd
  | properties =>
    exact .bind (.lift (Q := fun _ => True) (by simp)) fun schema _ =>
      steady_addFields _ hd' schema.fields
  | etag => exact steady_addETag hd'

end SchemaPass

/-! ### The steps of a building -/

namespace Plan

variable (plan : Plan)

theorem steady_buildMethod (resource : Resource) {owner : Int} (ho : 0 ≤ owner) (method : Method) :
    SteadyStep (made plan.context) base (plan.buildMethod resource owner method) := by
  rw [buildMethod]
  dsimp only
  -- the schema of the response gives its type, and the steps after it are the same
  split
  on_goal 1 =>
    refine .bind (Q := IsType plan.context)
      (.lift fun type h => .ofType (t := .ref _) (.inl rfl) h) fun response htype => ?_
  on_goal 2 =>
    refine .bind (Q := IsType plan.context)
      (.pure (.fixed (by simp [fixedTypes]))) fun response htype => ?_
  all_goals
    refine .bind steady_safeName fun name hname => ?_
    refine .bind (.lift (Q := fun text => response.written = .ok text) (by simp))
      fun text ht => ?_
    refine .bind (steady_class (by simpa using ho) hname (by simpa using .request htype ht))
      fun request hr => ?_
    exact .forM fun pass _ => pass.steady_run rfl ho hr

theorem steady_buildSchema (schema : Schema) :
    SteadyStep (made plan.context) base (plan.buildSchema schema) := by
  rw [buildSchema]
  dsimp only
  split
  · rename_i name hname
    refine .bind (Q := IsName plan.context) (.pure (.schema hname)) fun name hname => ?_
    refine .bind (steady_class (by simp) hname fun b hb => ?_) fun decl hd => ?_
    · split at hb
      · rw [List.mem_singleton.1 hb]
        exact .schema
      · cases hb
    · exact .forM fun pass _ => pass.steady_run _ hd
  · exact .bind (Q := fun _ => False) .throw fun _ h => h.elim

mutual

theorem steady_buildResource {owner : Option Int} (ho : ∀ o, owner = some o → 0 ≤ o) :
    ∀ (r : Resource) (base : List Declaration),
      SteadyStep (made plan.context) base (plan.buildResource owner r)
  | ⟨name, methods, inner, path⟩, base => by
    rw [buildResource]
    refine .bind (.lift fun _ => isName_resourceClass) fun className hname => ?_
    refine .bind (steady_class ho hname (by simp)) fun decl hd => ?_
    have hd' : 0 ≤ decl := by omega
    refine .bind (steady_buildResources (by simpa using hd') inner base) fun _ _ => ?_
    refine .bind (.forM fun pass _ => pass.steady_run _ hd') fun _ _ => ?_
    exact .forM fun method _ => .guarded fun _ => plan.steady_buildMethod _ hd' method

theorem steady_buildResources {owner : Option Int} (ho : ∀ o, owner = some o → 0 ≤ o) :
    ∀ (rs : List Resource) (base : List Declaration),
      SteadyStep (made plan.context) base (plan.buildResources owner rs)
  | [], _ => .pure trivial
  | r :: rest, base => by
    rw [buildResources]
    refine .bind (.lift (Q := fun _ => True) (by simp)) fun ignored _ => ?_
    dsimp only
    refine .ite (fun _ => ?_) fun _ => steady_buildResources ho rest base
    exact .bind (.guarded (steady_buildResource ho r)) fun _ _ =>
      steady_buildResources ho rest base

end

theorem steady_service (service : Service) {decl : Int} (hd : 0 ≤ decl) :
    SteadyStep (made plan.context) base
      (plan.pipeline.service.forM fun pass => pass.run service decl plan.context) :=
  .forM fun pass _ => pass.steady_run service hd

theorem steady_buildSchemas (schemas : List Schema) :
    SteadyStep (made plan.context) base (plan.buildSchemas schemas) := by
  induction schemas with
  | nil => exact .pure trivial
  | cons s rest ih =>
    rw [buildSchemas]
    refine .bind (.lift (Q := fun _ => True) (by simp)) fun ignored _ => ?_
    dsimp only
    refine .ite (fun _ => ?_) fun _ => ih
    exact .bind (.guarded fun _ => plan.steady_buildSchema s) fun _ _ => ih

/-- **Building a service is steady**: it adds declarations as a building makes them. -/
theorem steady_build : SteadyStep (made plan.context) base plan.build := by
  rw [build]
  refine .bind (steady_class nofun .service (by simpa using .service)) fun decl hd => ?_
  refine .bind (plan.steady_buildResources (by simp) _ base) fun _ _ => ?_
  refine .bind (.guarded fun _ => plan.steady_service _ (by omega)) fun _ _ => ?_
  refine .bind (plan.steady_buildSchemas _) fun _ _ => ?_
  exact fun _ _ hm ho => .ok hm ho trivial

end Plan

/-! ### Documents -/

theorem Build.onLedger_eq_ok {α : Type} {act : Session Ledger α} {w w' : Workbench} {a : α} :
    onLedger act w = .ok a w' ↔ ∃ l, act w.ledger = .ok a l ∧ { w with ledger := l } = w' := by
  rw [onLedger]
  cases act w.ledger <;> simp

/-- Building a document is reading it, naming its classes and building its service from an
empty model. -/
theorem exists_build_of_buildDocument {config : Config} {pipeline : Pipeline} {document : Json}
    {plan : Plan} {w : Workbench}
    (h : buildDocument config pipeline document (Workbench.start document) = .ok plan w) :
    ∃ (service : Service) (l : Ledger),
      Document.read document (Workbench.start document).ledger = .ok service l ∧
      planFor config pipeline service = .ok plan ∧ plan.build ⟨{}, l⟩ = .ok () w := by
  rw [buildDocument] at h
  obtain ⟨service, _, hreading, h⟩ := Session.bind_eq_ok.1 h
  obtain ⟨l, hread, rfl⟩ := Build.onLedger_eq_ok.1 hreading
  obtain ⟨_, _, hplanning, h⟩ := Session.bind_eq_ok.1 h
  obtain ⟨hplan, rfl⟩ := Session.lift_eq_ok.1 hplanning
  obtain ⟨_, _, hbuild, h⟩ := Session.bind_eq_ok.1 h
  cases h
  exact ⟨service, l, hread, hplan, hbuild⟩

theorem planFor_context {config : Config} {pipeline : Pipeline} {service : Service} {plan : Plan}
    (h : planFor config pipeline service = .ok plan) :
    plan.context.service = service ∧ plan.context.config = config := by
  obtain ⟨naming, -, h⟩ := Outcome.bind_eq_ok.1 h
  cases h
  exact ⟨rfl, rfl⟩

theorem planFor_pipeline {config : Config} {pipeline : Pipeline} {service : Service} {plan : Plan}
    (h : planFor config pipeline service = .ok plan) : plan.pipeline = pipeline := by
  obtain ⟨naming, -, h⟩ := Outcome.bind_eq_ok.1 h
  cases h
  rfl

end ClientGen
