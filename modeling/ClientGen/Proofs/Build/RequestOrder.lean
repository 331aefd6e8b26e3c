import ClientGen.Proofs.Build.Additions

/-!
# The decorators of a request class in any order

The decorators of request classes may be run in any order. What they add is the same in every
order, up to the order itself and to the parameters and statements of the constructor and of the
factory (`ClientGen.perm_of_orders`).

The reason is that what a decorator adds can be told beforehand
(`ClientGen.RequestPass.additions`). So what is there after some decorators is told by which of them
were run (`ClientGen.RequestPass.Reached`): this holds before the first one, each decorator that has
not been run keeps it (`ClientGen.RequestPass.reached_of_run`), and once all were run it no longer
speaks of an order, except for that of the entries.
-/

namespace ClientGen

open Build Decorator

variable {m : CodeModel} {ds : List Declaration}

/-! ### Decorators one after the other -/

/-- **A request class yet to be decorated**: it has no members, and the class of its resource is
another one. -/
structure RequestSite.IsBare (s : RequestSite) (ds : List Declaration) (p o : Nat)
    (d : Declaration) : Prop where
  /-- The place of the request class. -/
  request : s.request = p
  /-- The place of the resource class. -/
  owner : s.owner = o
  /-- They are different classes. -/
  apart : s.request ≠ s.owner
  /-- The request class has no members. -/
  empty : HasEmpty ds p d
  /-- The request class is a class. -/
  isClass : d.isClass = true
  /-- The resource class is there. -/
  lt : o < ds.length

theorem RequestSite.IsBare.ne {s : RequestSite} {p o : Nat} {d : Declaration}
    (hs : s.IsBare ds p o d) : (p : Int) ≠ o := by
  rw [← hs.request, ← hs.owner]
  exact hs.apart

/-- The comment of a request class that had another: the description of the method, if there is one
and the class had no comment. -/
def RequestSite.comment (s : RequestSite) (old : Json) : Json :=
  match s.method? with
  | some method => if method.description.truthy && !old.truthy then method.description else old
  | none => old

namespace RequestPass

section Order

variable (m : CodeModel) (ds : List Declaration) (p o : Nat) (s : RequestSite)

/-- What a decorator adds to the request class, as entries. -/
def memberEntries (pass : RequestPass) : List Declaration :=
  ((members s m.reserved (CodeModel.nameAt ds p) pass).toOption.getD []).map
    fun g => g.under (some (p : Int))

/-- What a decorator adds to the resource class, as entries. -/
def factoryEntries (pass : RequestPass) : List Declaration :=
  ((factories s (m.reserved ++ scopeNames ds (some (o : Int)) ++ [CodeModel.nameAt ds o])
    (CodeModel.nameAt ds p) pass).toOption.getD []).map fun g => g.under (some (o : Int))

/-- **What a decorator adds.** -/
def additions (pass : RequestPass) : List Declaration :=
  memberEntries m ds p s pass ++ factoryEntries m ds p o s pass

/-- The entries after some decorators, when some entries were appended: those that were there, with
the comment of the request class. -/
def decorated (old : Json) (done : List RequestPass) (new : List Declaration) :
    List Declaration :=
  ds.modify p (Declaration.commented (if .documentation ∈ done then s.comment old else old)) ++ new

/-- **What is reached by running some decorators**: the entries appended are those that the
decorators add, and there is a factory if its decorator was run. -/
def Reached (old : Json) (done : List RequestPass) (w : Workbench) : Prop :=
  ∃ new, w.Laid m (decorated ds p s old done new) ∧
    new.map (Declaration.sketch o) = done.flatMap (additions m ds p o s) ∧
    (.factory ∈ done → ∃ e, factoryEntries m ds p o s .factory = [e])

end Order

variable {p o : Nat} {s : RequestSite} {d : Declaration} {done ps : List RequestPass}
  {new : List Declaration} {old : Json}

theorem factoryEntries_of_ne {pass : RequestPass} (h : pass ≠ .factory) :
    factoryEntries m ds p o s pass = [] := by
  cases pass with
  | factory => exact absurd rfl h
  | _ => rfl

theorem parent_of_mem_memberEntries {pass : RequestPass} {e : Declaration}
    (h : e ∈ memberEntries m ds p s pass) : e.parent = some (p : Int) := by
  obtain ⟨g, -, rfl⟩ := List.mem_map.1 h
  rfl

theorem parent_of_mem_factoryEntries {pass : RequestPass} {e : Declaration}
    (h : e ∈ factoryEntries m ds p o s pass) : e.parent = some (o : Int) := by
  obtain ⟨g, -, rfl⟩ := List.mem_map.1 h
  rfl

/-- **Where an entry comes from** that was appended: from a decorator that was run, which told it
beforehand as a member of the request class, or from that of the factory. -/
theorem exists_pass_of_mem
    (hnew : new.map (Declaration.sketch o) = done.flatMap (additions m ds p o s))
    {e : Declaration} (he : e ∈ new) :
    (e.parent = some (p : Int) ∧ ∃ pass ∈ done, ∃ gs g,
      members s m.reserved (CodeModel.nameAt ds p) pass = .ok gs ∧ g ∈ gs ∧
        g.under (some (p : Int)) = e.sketch o) ∨
      (e.parent = some (o : Int) ∧ .factory ∈ done) := by
  have hmem : e.sketch o ∈ done.flatMap (additions m ds p o s) := hnew ▸ List.mem_map_of_mem he
  obtain ⟨pass, hpass, hmem⟩ := List.mem_flatMap.1 hmem
  rcases List.mem_append.1 hmem with h | h
  · have hp := parent_of_mem_memberEntries h
    rw [Declaration.sketch_parent] at hp
    obtain ⟨g, hg, hge⟩ := List.mem_map.1 h
    cases hmembers : members s m.reserved (CodeModel.nameAt ds p) pass with
    | error => simp [hmembers, Except.toOption] at hg
    | ok gs =>
      rw [hmembers] at hg
      exact .inl ⟨hp, pass, hpass, gs, g, hmembers, hg, hge⟩
  · have ho := parent_of_mem_factoryEntries h
    rw [Declaration.sketch_parent] at ho
    by_cases hfactory : pass = .factory
    · exact .inr ⟨ho, hfactory ▸ hpass⟩
    · rw [factoryEntries_of_ne hfactory] at h
      cases h

theorem nameAt_decorated {i : Nat} (hi : i < ds.length) :
    CodeModel.nameAt (decorated ds p s old done new) i = CodeModel.nameAt ds i := by
  rw [decorated, CodeModel.nameAt_append (by simpa using hi), CodeModel.nameAt_commented]

theorem scopeNames_decorated (owner : Option Int) :
    scopeNames (decorated ds p s old done new) owner =
      scopeNames ds owner ++ scopeNames new owner := by
  rw [decorated, scopeNames_append, scopeNames_commented]

/-- **A decorator that has not been run adds what was told beforehand.** -/
theorem appends_additions (hs : s.IsBare ds p o d)
    (hnew : new.map (Declaration.sketch o) = done.flatMap (additions m ds p o s))
    {pass : RequestPass} (hpass : pass ∉ done) (hdocumentation : pass ≠ .documentation) :
    Appends m (decorated ds p s old done new) (pass.run s) fun _ es =>
      es.map (Declaration.sketch o) = additions m ds p o s pass ∧
        (pass = .factory → ∃ e, factoryEntries m ds p o s .factory = [e]) := by
  have hlt : p < (decorated ds p s old done new).length := by
    have hp := hs.empty.lt
    rw [decorated, List.length_append, List.length_modify]
    omega
  have hown : CodeModel.nameAt (decorated ds p s old done new) p = CodeModel.nameAt ds p :=
    nameAt_decorated hs.empty.lt
  by_cases hfactory : pass = .factory
  · subst hfactory
    refine .imp (appends_factories hs.request hs.owner hown) ?_
    rintro _ es ⟨g, hg, hes⟩
    -- nothing was added to the resource class, so the words to avoid are still the same
    have hscope : scopeNames new (some (o : Int)) = [] := by
      refine scopeNames_eq_nil fun e he ho => ?_
      rcases exists_pass_of_mem hnew he with ⟨hp, -⟩ | ⟨-, hfactory⟩
      · exact hs.ne (Option.some.inj (hp.symm.trans ho))
      · exact hpass hfactory
    rw [scopeNames_decorated, hscope, List.append_nil, nameAt_decorated hs.lt] at hg
    have hentries : factoryEntries m ds p o s .factory = [g.under (some (o : Int))] := by
      rw [factoryEntries, hg]
      rfl
    refine ⟨?_, fun _ => ⟨_, hentries⟩⟩
    rw [hes, additions, hentries]
    rfl
  · refine .imp (appends_members hdocumentation hfactory hs.request hs.ne hlt hown ?_) ?_
    · rintro rfl w hw
      rw [scopeNames_decorated, scopeNames_eq_nil hs.empty.unowned, List.nil_append] at hw
      obtain ⟨e, he, hp, rfl⟩ := mem_scopeNames.1 hw
      rcases exists_pass_of_mem hnew he with ⟨-, other, hother, gs, g, hgs, hg, hge⟩ | ⟨ho, -⟩
      · have hname := (name_of_mem_members hgs hg).2 fun h => hpass (h ▸ hother)
        rwa [← Declaration.sketch_name, ← hge]
      · exact absurd (Option.some.inj (hp.symm.trans ho)) hs.ne
    · rintro _ es ⟨gs, hgs, hes⟩
      refine ⟨?_, fun h => absurd h hfactory⟩
      rw [hes, additions, factoryEntries_of_ne hfactory, memberEntries, hgs, List.append_nil]
      rfl

/-- The decorator of comments changes nothing but the comment of the class. -/
theorem laid_of_addDocumentation (hs : s.IsBare ds p o d) (hpass : .documentation ∉ done)
    {w w' : Workbench} (hw : w.Laid m (decorated ds p s d.comment done new))
    (hrun : addDocumentation s w = .ok () w') :
    w'.Laid m (decorated ds p s d.comment (done ++ [.documentation]) new) := by
  have hlt : p < (ds.modify p (Declaration.commented d.comment)).length := by
    rw [List.length_modify]
    exact hs.empty.lt
  have hbefore : decorated ds p s d.comment done new =
      ds.modify p (Declaration.commented d.comment) ++ new := by
    rw [decorated, if_neg hpass]
  have hafter : decorated ds p s d.comment (done ++ [.documentation]) new =
      ds.modify p (Declaration.commented (s.comment d.comment)) ++ new := by
    rw [decorated, if_pos (List.mem_append_right _ List.mem_cons_self)]
  rw [hbefore] at hw
  rw [hafter]
  obtain ⟨e, _, hlook, hrun⟩ := Session.bind_eq_ok.1 hrun
  obtain ⟨he, rfl⟩ := look_eq_ok.1 hlook
  obtain ⟨method, _, hlift, hrun⟩ := Session.bind_eq_ok.1 hrun
  obtain ⟨hmethod, rfl⟩ := Session.lift_eq_ok.1 hlift
  have hcomment : e.comment = d.comment := by
    rw [hs.request, hw.model, CodeModel.get_withEntries, List.getElem?_append_left hlt,
      getElem?_commented, hs.empty.get] at he
    simp only [Option.map_some, if_true] at he
    cases he
    exact settle_comment _ _ _
  have hnew : s.comment d.comment =
      if method.description.truthy && !e.comment.truthy then method.description
        else d.comment := by
    rw [RequestSite.method] at hmethod
    rw [RequestSite.comment, hcomment, required_eq_ok hmethod]
  rw [hnew]
  split at hrun <;> rename_i hcond
  · rw [if_pos hcond]
    obtain ⟨m', hset, rfl⟩ := onModel_eq_ok.1 hrun
    rw [hs.request, hw.model, CodeModel.setComment_withEntries,
      if_pos (by rw [List.length_append]; omega)] at hset
    have hcoherent := hw.coherent.commented p method.description
    rw [modify_append hlt, List.modify_modify_eq] at hset hcoherent
    cases hset
    exact ⟨rfl, hcoherent⟩
  · cases hrun
    rwa [if_neg hcond]

/-- **A step**: a decorator that has not been run. -/
theorem reached_of_run (hs : s.IsBare ds p o d) {w w' : Workbench}
    (hw : Reached m ds p o s d.comment done w) {pass : RequestPass} (hpass : pass ∉ done)
    (hrun : pass.run s w = .ok () w') :
    Reached m ds p o s d.comment (done ++ [pass]) w' := by
  obtain ⟨new, hlaid, hnew, hfactory⟩ := hw
  by_cases hdocumentation : pass = .documentation
  · subst hdocumentation
    refine ⟨new, laid_of_addDocumentation hs hpass hlaid hrun, ?_, ?_⟩
    · rw [hnew, List.flatMap_append]
      exact (List.append_nil _).symm
    · simpa using hfactory
  · obtain ⟨es, hes, hadded, hpassed⟩ :=
      appends_additions hs hnew hpass hdocumentation hlaid hrun
    refine ⟨new ++ es, ?_, ?_, ?_⟩
    · have hsame : RequestPass.documentation ∈ done ++ [pass] ↔ .documentation ∈ done := by
        simp [Ne.symm hdocumentation]
      simpa only [decorated, hsame, List.append_assoc] using hes
    · rw [List.map_append, hnew, hadded, List.flatMap_append, List.flatMap_singleton]
    · intro h
      rcases List.mem_append.1 h with h | h
      · exact hfactory h
      · exact hpassed (List.mem_singleton.1 h).symm

/-- **A run**: decorators that have not been run, one after the other. -/
theorem reached_of_forM (hs : s.IsBare ds p o d) {w w' : Workbench}
    (hw : Reached m ds p o s d.comment done w) (hnodup : (done ++ ps).Nodup)
    (hrun : (ps.forM fun pass => pass.run s) w = .ok () w') :
    Reached m ds p o s d.comment (done ++ ps) w' := by
  induction ps generalizing done w with
  | nil =>
    cases hrun
    rwa [List.append_nil]
  | cons pass rest ih =>
    obtain ⟨⟨⟩, v, hv, hrun⟩ := Session.bind_eq_ok.1 hrun
    have hpass : pass ∉ done := fun h =>
      List.disjoint_of_nodup_append hnodup h List.mem_cons_self
    rw [List.append_cons] at hnodup ⊢
    exact ih (reached_of_run hs hw hpass hv) hnodup hrun

/-- Nothing is reached before the first decorator. -/
theorem reached_nil (hs : s.IsBare ds p o d) {w : Workbench} (hw : w.Laid m ds) :
    Reached m ds p o s d.comment [] w := by
  refine ⟨[], ?_, rfl, nofun⟩
  have hsame : decorated ds p s d.comment [] [] = ds := by
    rw [decorated, List.append_nil, if_neg List.not_mem_nil]
    refine List.ext_getElem? fun i => ?_
    rw [getElem?_commented]
    by_cases hi : p = i
    · subst hi
      rw [hs.empty.get]
      simp [Declaration.commented]
    · simp [hi]
  rwa [hsame]

end RequestPass

/-! ### The same in every order -/

/-- **What the decorators of a request class leave**: the class with a comment and some members, and
a factory in the class of the resource. Nothing else is new, and nothing else has changed. -/
structure RequestSite.Decorated (s : RequestSite) (m : CodeModel) (ds : List Declaration) (p : Nat)
    (comment : Json) (ms : List Declaration) (factory : Declaration) (w : Workbench) : Prop where
  entries : ∃ new, w.model = m.withEntries (ds.modify p (Declaration.commented comment) ++ new) ∧
    new.Perm (factory :: ms)
  members : w.model.members s.request = .ok ms
  owner : factory.parent = some s.owner

namespace RequestPass

variable {p o : Nat} {s : RequestSite} {d : Declaration} {done : List RequestPass}
  {new : List Declaration}

theorem filter_eq_of_parent {l : List Declaration} {q : Option Int} (h : ∀ e ∈ l, e.parent = q)
    (r : Option Int) : (l.filter fun e => e.parent == r) = if q = r then l else [] := by
  split <;> rename_i hqr
  · refine List.filter_eq_self.2 fun e he => ?_
    rw [h e he, hqr, beq_self_eq_true]
  · refine List.filter_eq_nil_iff.2 fun e he => ?_
    rwa [h e he, beq_iff_eq]

theorem filter_flatMap_additions (q : Option Int) :
    ((done.flatMap (additions m ds p o s)).filter fun e => e.parent == q) =
      done.flatMap fun pass =>
        (if some (p : Int) = q then memberEntries m ds p s pass else []) ++
          if some (o : Int) = q then factoryEntries m ds p o s pass else [] := by
  rw [List.filter_flatMap]
  refine congrArg (done.flatMap ·) (funext fun pass => ?_)
  rw [additions, List.filter_append,
    filter_eq_of_parent fun _ => parent_of_mem_memberEntries,
    filter_eq_of_parent fun _ => parent_of_mem_factoryEntries]

theorem map_sketch_filter (q : Option Int) :
    (new.filter fun e => e.parent == q).map (Declaration.sketch o) =
      (new.map (Declaration.sketch o)).filter fun e => e.parent == q := by
  rw [List.filter_map]
  refine congrArg (List.map _) (List.filter_congr fun e _ => ?_)
  rw [Function.comp_apply, Declaration.sketch_parent]

section Appended

variable (hpo : (p : Int) ≠ o)
  (hnew : new.map (Declaration.sketch o) = done.flatMap (additions m ds p o s))

include hpo hnew

theorem map_outline_filter :
    (new.filter fun e => e.parent == some (p : Int)).map Declaration.outline =
      done.flatMap (memberEntries m ds p s) := by
  have hsketch : ∀ e ∈ new.filter fun e => e.parent == some (p : Int),
      e.outline = e.sketch o := by
    intro e he
    have hp : e.parent = some (p : Int) := by simpa using (List.mem_filter.1 he).2
    exact (Declaration.sketch_of_parent_ne (by rw [hp]; exact (hpo <| Option.some.inj ·))).symm
  rw [List.map_congr_left hsketch, map_sketch_filter, hnew, filter_flatMap_additions]
  simp [hpo.symm]

theorem map_withoutSteps_filter :
    (new.filter fun e => e.parent == some (o : Int)).map Declaration.withoutSteps =
      done.flatMap (factoryEntries m ds p o s) := by
  have hsketch : ∀ e ∈ new.filter fun e => e.parent == some (o : Int),
      e.withoutSteps = e.sketch o := by
    intro e he
    exact (Declaration.sketch_of_parent (by simpa using (List.mem_filter.1 he).2)).symm
  rw [List.map_congr_left hsketch, map_sketch_filter, hnew, filter_flatMap_additions]
  simp [hpo]

/-- What is added is in the request class or in the resource class. -/
theorem perm_filter_append : ((new.filter fun e => e.parent == some (o : Int)) ++
    new.filter fun e => e.parent == some (p : Int)).Perm new := by
  have hother : (new.filter fun e => e.parent == some (p : Int)) =
      new.filter fun e => !(e.parent == some (o : Int)) := by
    refine List.filter_congr fun e he => ?_
    rcases exists_pass_of_mem hnew he with ⟨hp, -⟩ | ⟨ho, -⟩
    · simp [hp, hpo]
    · simp [ho, hpo.symm]
  rw [hother]
  exact List.filter_append_perm _ new

theorem isClass_of_mem_new {e : Declaration} (he : e ∈ new) (hp : e.parent = some (p : Int)) :
    e.isClass = false := by
  rcases exists_pass_of_mem hnew he with ⟨-, pass, -, gs, g, hgs, hg, hge⟩ | ⟨ho, -⟩
  · rw [← Declaration.sketch_isClass (o := o), ← hge]
    exact (name_of_mem_members hgs hg).1
  · exact absurd (Option.some.inj (hp.symm.trans ho)) hpo

end Appended

/-- **What all decorators leave**, in whatever order they are run. -/
theorem exists_decorated (hs : s.IsBare ds p o d) {w : Workbench}
    (hw : Reached m ds p o s d.comment done w) (hdone : done.Perm Pipeline.registered.request) :
    ∃ ms f, s.Decorated m ds p (s.comment d.comment) ms f w ∧
      (ms.map Declaration.outline).Perm
        (Pipeline.registered.request.flatMap (memberEntries m ds p s)) ∧
      factoryEntries m ds p o s .factory = [f.withoutSteps] := by
  obtain ⟨new, hlaid, hnew, hfactory⟩ := hw
  have hall (pass : RequestPass) (h : pass ∈ Pipeline.registered.request) : pass ∈ done :=
    hdone.mem_iff.2 h
  rw [decorated, if_pos (hall _ (by decide))] at hlaid
  obtain ⟨e, he⟩ := hfactory (hall _ (by decide))
  obtain ⟨f, hf, hfe⟩ : ∃ f, (new.filter fun e => e.parent == some (o : Int)) = [f] ∧
      f.withoutSteps = e := by
    have hperm := hdone.flatMap_right (factoryEntries m ds p o s)
    rw [← map_withoutSteps_filter hs.ne hnew] at hperm
    have hone : Pipeline.registered.request.flatMap (factoryEntries m ds p o s) = [e] := by
      simp [Pipeline.registered, registry, factoryEntries_of_ne, he]
    rw [hone, List.perm_singleton] at hperm
    simpa [List.map_eq_cons_iff] using hperm
  have hparent : f.parent = some (o : Int) := by
    have hmem : f ∈ new.filter fun e => e.parent == some (o : Int) := hf ▸ List.mem_cons_self
    simpa using (List.mem_filter.1 hmem).2
  have hmembers : w.model.members s.request =
      .ok (new.filter fun e => e.parent == some (p : Int)) := by
    have hempty := hs.empty.commented (s.comment d.comment)
    have hget := hempty.get
    rw [← List.getElem?_append_left hempty.lt] at hget
    rw [hlaid.model, hs.request, CodeModel.members_withEntries hget hs.isClass,
      List.filter_append, List.filter_eq_nil_iff.2, List.nil_append]
    · intro e he
      simpa using hempty.unowned e he
    · intro e he hp
      rcases List.mem_append.1 he with he | he
      · exact absurd hp (hempty.unowned e he)
      · exact isClass_of_mem_new hs.ne hnew he hp
  refine ⟨_, f, ⟨⟨new, hlaid.model, ?_⟩, hmembers, ?_⟩, ?_, by rw [he, hfe]⟩
  · have hperm := perm_filter_append hs.ne hnew
    rw [hf] at hperm
    exact hperm.symm
  · rw [hparent, hs.owner]
  · rw [map_outline_filter hs.ne hnew]
    exact hdone.flatMap_right _

end RequestPass

/-- **The decorators of a request class may be run in any order.** Whatever the method, the resource
and the model, two orders in which a class yet to be decorated can be decorated leave it with the
same comment and the same members, up to their order and to the parameters and statements of the
constructor, and add a factory that is the same up to its parameters and statements. -/
theorem perm_of_orders {s : RequestSite} {p o : Nat} {d : Declaration} {w w₁ w₂ : Workbench}
    {ps qs : List RequestPass} (hs : s.IsBare ds p o d) (hw : w.Laid m ds)
    (hps : ps.Perm Pipeline.registered.request) (hqs : qs.Perm Pipeline.registered.request)
    (h₁ : (ps.forM fun pass => pass.run s) w = .ok () w₁)
    (h₂ : (qs.forM fun pass => pass.run s) w = .ok () w₂) :
    ∃ comment ms₁ ms₂ f₁ f₂,
      s.Decorated m ds p comment ms₁ f₁ w₁ ∧ s.Decorated m ds p comment ms₂ f₂ w₂ ∧
      (ms₁.map Declaration.outline).Perm (ms₂.map Declaration.outline) ∧
      f₁.withoutSteps = f₂.withoutSteps := by
  have hnodup : Pipeline.registered.request.Nodup := by decide
  have hnil := RequestPass.reached_nil hs hw
  have hreached₁ := RequestPass.reached_of_forM hs hnil (hps.nodup_iff.2 hnodup) h₁
  have hreached₂ := RequestPass.reached_of_forM hs hnil (hqs.nodup_iff.2 hnodup) h₂
  obtain ⟨ms₁, f₁, hd₁, hms₁, hf₁⟩ := RequestPass.exists_decorated hs hreached₁ hps
  obtain ⟨ms₂, f₂, hd₂, hms₂, hf₂⟩ := RequestPass.exists_decorated hs hreached₂ hqs
  refine ⟨s.comment d.comment, ms₁, ms₂, f₁, f₂, hd₁, hd₂, hms₁.trans hms₂.symm, ?_⟩
  rw [hf₁] at hf₂
  exact List.head_eq_of_cons_eq hf₂

/-- A method whose parameters want the names of members of the base class and of the request
class. -/
def insertMethod : Method :=
  { name := "insert", id := "notes.insert", httpMethod := "POST", path := "notes"
    description := "Adds a note."
    parameters :=
      [⟨"body", .primitive "string" .null [], true, .path, none, "Where to add it.", false⟩,
       ⟨"methodName", .primitive "string" .null [], false, .query, some "quick", .null, false⟩,
       ⟨"insertRequest", .primitive "boolean" .null [], false, .query, none, .null, true⟩]
    parameterOrder := ["body"], request := some "Note", response := none, scopes := [] }

/-- The request class of the method, in the class of its resource. -/
def insertSite : RequestSite :=
  { resource := ⟨"notes", [insertMethod], [], "notes"⟩, method? := some insertMethod
    request := 1, owner := 0
    context? := some {
      service := ⟨"x", "v1", .null, .null, .null, [], [⟨"Note", .null, [], "Note"⟩], []⟩
      config := {}, naming := ⟨"XService", [("Note", "NoteData")], []⟩ } }

/-- The two classes. -/
def insertEntries : List Declaration :=
  [(Declaration.ofClass "NotesResource" [] .null).under none,
   (Declaration.ofClass "InsertRequest" [] .null).under (some 0)]

/-- The workbench with nothing but the two classes. -/
def insertBench : Workbench :=
  { model := .ofEntries insertEntries }

theorem coherent_insertEntries : Coherent insertEntries := by
  have hfirst : Admits [] none (Declaration.ofClass "NotesResource" [] .null) :=
    ⟨nofun, nofun, nofun⟩
  refine (Coherent.nil.snoc hfirst).snoc ⟨?_, ?_, ?_⟩
  · rintro _ ⟨⟩
    exact ⟨0, _, rfl, rfl, rfl⟩
  · intro e he ho
    obtain rfl := List.mem_singleton.1 he
    cases ho
  · rintro p c hp hc hname
    obtain rfl : p = 0 := by simpa using (Option.some.inj hp).symm
    cases hc
    exact absurd hname (by decide)

/-- The two classes above, decorated in the registered order and in the reverse of it. -/
theorem perm_of_orders_insert :
    insertSite.IsBare insertEntries 1 0 insertEntries[1] ∧
    insertBench.Laid {} insertEntries ∧
    Pipeline.registered.request.reverse.Perm Pipeline.registered.request ∧
    ∃ w₁ w₂,
      (Pipeline.registered.request.forM fun pass => pass.run insertSite) insertBench =
        .ok () w₁ ∧
      (Pipeline.registered.request.reverse.forM fun pass => pass.run insertSite) insertBench =
        .ok () w₂ ∧
      w₁.model.nodes.toList.map (fun d => d.name.text) =
        ["NotesResource", "InsertRequest", "MethodName", "HttpMethod", "RestPath", "BodyValue",
         "MethodNameValue", "InsertRequestValue", "Body", "GetBody", "InsertRequest", "Insert"] ∧
      w₂.model.nodes.toList.map (fun d => d.name.text) =
        ["NotesResource", "InsertRequest", "Insert", "InsertRequest", "Body", "GetBody",
         "BodyValue", "MethodNameValue", "InsertRequestValue", "MethodName", "HttpMethod",
         "RestPath"] ∧
      ∃ comment ms₁ ms₂ f₁ f₂,
        insertSite.Decorated {} insertEntries 1 comment ms₁ f₁ w₁ ∧
        insertSite.Decorated {} insertEntries 1 comment ms₂ f₂ w₂ ∧
        (ms₁.map Declaration.outline).Perm (ms₂.map Declaration.outline) ∧
        f₁.withoutSteps = f₂.withoutSteps := by
  have hbare : insertSite.IsBare insertEntries 1 0 insertEntries[1] :=
    ⟨rfl, rfl, by decide, ⟨rfl, by decide⟩, rfl, by decide⟩
  have hlaid : insertBench.Laid {} insertEntries := ⟨rfl, coherent_insertEntries⟩
  have hreversed := List.reverse_perm Pipeline.registered.request
  have hrun₁ : Session.passes (fun (_ : Unit) (w : Workbench) =>
      w.model.nodes.toList.map (fun d => d.name.text) ==
        ["NotesResource", "InsertRequest", "MethodName", "HttpMethod", "RestPath", "BodyValue",
         "MethodNameValue", "InsertRequestValue", "Body", "GetBody", "InsertRequest", "Insert"])
      ((Pipeline.registered.request.forM fun pass => pass.run insertSite) insertBench) =
        true := by
    decide +kernel
  have hrun₂ : Session.passes (fun (_ : Unit) (w : Workbench) =>
      w.model.nodes.toList.map (fun d => d.name.text) ==
        ["NotesResource", "InsertRequest", "Insert", "InsertRequest", "Body", "GetBody",
         "BodyValue", "MethodNameValue", "InsertRequestValue", "MethodName", "HttpMethod",
         "RestPath"])
      ((Pipeline.registered.request.reverse.forM fun pass => pass.run insertSite)
        insertBench) = true := by
    decide +kernel
  obtain ⟨_, w₁, h₁, hnames₁⟩ := Session.exists_of_passes hrun₁
  obtain ⟨_, w₂, h₂, hnames₂⟩ := Session.exists_of_passes hrun₂
  exact ⟨hbare, hlaid, hreversed, w₁, w₂, h₁, h₂, eq_of_beq hnames₁, eq_of_beq hnames₂,
    perm_of_orders hbare hlaid (.refl _) hreversed h₁ h₂⟩

end ClientGen
