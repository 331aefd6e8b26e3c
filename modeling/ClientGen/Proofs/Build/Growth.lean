import ClientGen.Proofs.Build.Made
import ClientGen.Proofs.Code.ScopeNames

/-!
# Steps that add a forest

A step of a building works inside one class, or at the top level, and puts trees at the end of
what is there: a member, or a class with all that is inside it. The notion for this is a
triple (`ClientGen.Adds`): on a workbench where a forest was added to an owner, a step that
ends well has added more trees to that owner, and they have a certain shape. The places of
declarations do not occur in the shape, so what a step of a building does is said in terms of
names, types and nesting.

The rules follow the ways in which steps are put together. The one that changes the owner is
`ClientGen.Adds.inside`: adding a class and then filling it adds one tree, with the filling
inside. Steps that only look (`ClientGen.Looks`) add nothing.
-/

namespace ClientGen

open Build ClientGen.Tree

variable {α β : Type}

/-! ### Grown workbenches -/

theorem Declaration.isFresh_of_detached {d : Declaration} (h : d.detached = d) : d.IsFresh := by
  intro places hplaces
  rw [← h] at hplaces
  obtain ⟨name, access, modifiers, attributes, comment, parent, body⟩ := d
  cases body <;> cases hplaces
  rfl

theorem Declaration.detached_commented {d : Declaration} (h : d.detached = d) (comment : Json) :
    (d.commented comment).detached = d.commented comment := by
  have hcommented : (d.commented comment).detached = d.detached.commented comment := by
    obtain ⟨name, access, modifiers, attributes, comment', parent, body⟩ := d
    cases body <;> rfl
  rw [hcommented, h]

namespace Declaration

variable (d : Declaration)

@[simp] theorem detached_name : d.detached.name = d.name :=
  mapMembers_name _ d

@[simp] theorem detached_type? : d.detached.type? = d.type? := by
  obtain ⟨name, access, modifiers, attributes, comment, parent, body⟩ := d
  cases body <;> rfl

@[simp] theorem detached_property? : d.detached.property? = d.property? := by
  obtain ⟨name, access, modifiers, attributes, comment, parent, body⟩ := d
  cases body <;> rfl

end Declaration

theorem Detached.of_append {f g : List Tree} (h : Detached (f ++ g)) :
    Detached f ∧ Detached g := by
  induction f with
  | nil => exact ⟨.nil, h⟩
  | cons t f ih =>
    obtain _ | ⟨hd, hms, hrest⟩ := h
    obtain ⟨hf, hg⟩ := ih hrest
    exact ⟨.cons hd hms hf, hg⟩

theorem Detached.decl {f : List Tree} (h : Detached f) {t : Tree} (ht : t ∈ f) :
    t.decl.detached = t.decl := by
  induction h with
  | nil => cases ht
  | cons hd _ _ _ ih =>
    rcases List.mem_cons.1 ht with rfl | ht
    · exact hd
    · exact ih ht

/-- **A workbench on which a forest has grown** under an owner, after some entries. -/
structure Workbench.Grown (w : Workbench) (front : List Declaration) (owner : Option Int)
    (f : List Tree) : Prop where
  /-- The model has these entries and those of the forest. -/
  model : w.model = .ofEntries (front ++ layout owner front.length f)
  /-- The entries are coherent. -/
  coherent : Coherent (front ++ layout owner front.length f)
  /-- The declarations of the forest stand by themselves. -/
  detached : Detached f
  /-- The owner is not counted from the end. -/
  counted : ∀ o, owner = some o → 0 ≤ o

variable {w w' : Workbench} {front : List Declaration} {owner : Option Int} {f : List Tree}
  {d : Declaration}

/-- The entries of a forest, seen from inside its last tree. -/
theorem entries_inside (front : List Declaration) (owner : Option Int) (f : List Tree)
    (d : Declaration) (ms : List Tree) :
    front ++ layout owner front.length (f ++ [.node d ms]) =
      front ++ layout owner front.length f ++ [d.under owner] ++
        layout (some ((front.length + size f : Nat) : Int))
          (front ++ layout owner front.length f ++ [d.under owner]).length ms := by
  rw [layout_snoc]
  simp [Nat.add_assoc]

/-- What has grown as the last tree has grown inside its root. -/
theorem Workbench.Grown.inside {ms : List Tree} (h : w.Grown front owner (f ++ [.node d ms])) :
    w.Grown (front ++ layout owner front.length f ++ [d.under owner])
      (some ((front.length + size f : Nat) : Int)) ms := by
  obtain ⟨-, hlast⟩ := h.detached.of_append
  obtain _ | ⟨-, hms, -⟩ := hlast
  refine ⟨?_, ?_, hms, fun o ho => ?_⟩
  · rw [h.model, entries_inside]
  · rw [← entries_inside]
    exact h.coherent
  · cases ho
    exact Int.natCast_nonneg _

/-- What has grown inside a class at the end has grown as the last tree. -/
theorem Workbench.Grown.outside {ms : List Tree} (hf : Detached f) (hd : d.detached = d)
    (ho : ∀ o, owner = some o → 0 ≤ o)
    (h : w.Grown (front ++ layout owner front.length f ++ [d.under owner])
      (some ((front.length + size f : Nat) : Int)) ms) :
    w.Grown front owner (f ++ [.node d ms]) := by
  refine ⟨?_, ?_, hf.append (.cons hd h.detached .nil), ho⟩
  · rw [entries_inside, h.model]
  · rw [entries_inside]
    exact h.coherent

/-- An addition puts a leaf at the end. -/
theorem Workbench.Grown.insert {place : Nat} (h : w.Grown front owner f) (hd : d.detached = d)
    (hrun : onModel (CodeModel.insert owner d) w = .ok place w') :
    place = front.length + size f ∧ w'.Grown front owner (f ++ [leaf d]) := by
  rw [onModel, h.model, CodeModel.ofEntries] at hrun
  rcases CodeModel.insert_withEntries (m := {}) rfl h.coherent h.counted
    (Declaration.isFresh_of_detached hd) with ⟨e, hinsert⟩ | ⟨ha, hinsert⟩
  · rw [hinsert] at hrun
    cases hrun
  · rw [hinsert] at hrun
    cases hrun
    refine ⟨by simp, .outside h.detached hd h.counted ⟨?_, ?_, .nil, ?_⟩⟩
    · simp [layout, CodeModel.ofEntries]
    · simpa [layout] using h.coherent.snoc ha
    · rintro o ⟨⟩
      exact Int.natCast_nonneg _

/-- What follows the addition of a class grows inside it. -/
theorem Workbench.Grown.addClass {q : Int} (h : w.Grown front owner f) (hd : d.detached = d)
    (hrun : addClass owner d w = .ok q w') :
    q = ((front.length + size f : Nat) : Int) ∧
      w'.Grown (front ++ layout owner front.length f ++ [d.under owner]) (some q) [] := by
  obtain ⟨place, v, hv, hrun⟩ := Session.bind_eq_ok.1 hrun
  cases hrun
  obtain ⟨rfl, hgrown⟩ := h.insert hd hv
  exact ⟨rfl, hgrown.inside⟩

/-- The names that one more class must not have, when a forest has grown. -/
theorem Workbench.Grown.barredNames_eq (h : w.Grown front owner f) (ho : HasOwner front owner) :
    barredNames (front ++ layout owner front.length f) owner =
      barredNames front owner ++ f.map Tree.name := by
  rw [barredNames_append ho, scopeNames_layout]
  rintro q rfl
  obtain ⟨p, c, rfl, hc, -⟩ := ho q rfl
  have := (List.getElem?_eq_some_iff.1 hc).1
  omega

/-- **There is room for a class** whose name is a text and not barred. -/
theorem Workbench.Grown.exists_addClass {s : String} (h : w.Grown front owner f)
    (ho : HasOwner front owner) (hd : d.detached = d) (hname : d.name = .str s)
    (hfree : Json.str s ∉ barredNames front owner ++ f.map Tree.name) :
    ∃ q w', Build.addClass owner d w = .ok q w' := by
  rw [← h.barredNames_eq ho] at hfree
  have hinsert := CodeModel.insert_of_notMem (m := {}) rfl h.coherent (ho.append _)
    (Declaration.isFresh_of_detached hd) hname hfree
  obtain ⟨place, w', hrun⟩ : ∃ place w', onModel (CodeModel.insert owner d) w = .ok place w' := by
    rw [onModel, h.model, CodeModel.ofEntries, hinsert]
    exact ⟨_, _, rfl⟩
  exact ⟨_, _, Session.bind_run_of_ok hrun _⟩

/-- A comment on an empty class at the end. -/
theorem Workbench.Grown.commented {comment : Json}
    (h : w.Grown (front ++ [d.under owner]) (some (front.length : Int)) [])
    (hrun : CodeModel.setComment front.length comment w.model = .ok () w'.model) :
    w'.Grown (front ++ [(d.commented comment).under owner]) (some (front.length : Int)) [] := by
  have hmodel := h.model
  have hcoherent := h.coherent.commented front.length comment
  have hmodify : (front ++ [d.under owner]).modify front.length (Declaration.commented comment) =
      front ++ [(d.commented comment).under owner] := by
    rw [List.modify_eq_take_drop]
    simp [Declaration.commented, Declaration.under]
  rw [layout, List.append_nil] at hmodel hcoherent
  rw [hmodify] at hcoherent
  rw [hmodel, CodeModel.ofEntries, CodeModel.setComment_withEntries, if_pos (by simp),
    hmodify] at hrun
  injection hrun with _ hrun
  refine ⟨?_, ?_, .nil, h.counted⟩
  · rw [← hrun, layout, List.append_nil, CodeModel.ofEntries]
  · rwa [layout, List.append_nil]

/-! ### Looking at a class while it is filled -/

section Reading

variable {p : Nat}

/-- **A class that is still empty**: it is among some entries, and none of them is in it. -/
structure HasEmpty (front : List Declaration) (p : Nat) (d : Declaration) : Prop where
  get : front[p]? = some d
  unowned : ∀ e ∈ front, e.parent ≠ some (p : Int)

theorem HasEmpty.lt (h : HasEmpty front p d) : p < front.length :=
  (List.getElem?_eq_some_iff.1 h.get).1

/-- An empty class stays one under another comment. -/
theorem HasEmpty.commented (h : HasEmpty front p d) (comment : Json) :
    HasEmpty (front.modify p (Declaration.commented comment)) p (d.commented comment) := by
  refine ⟨?_, fun e he ho => ?_⟩
  · rw [getElem?_commented, h.get]
    simp
  · obtain ⟨i, hi⟩ := List.mem_iff_getElem?.1 he
    obtain ⟨e', he', hparent, -⟩ := exists_of_commented hi
    exact h.unowned e' (List.mem_of_getElem? he') (hparent ▸ ho)

/-- The last class of a workbench on which its forest grows is empty before. -/
theorem Workbench.Grown.hasEmpty (h : w.Grown front (some (p : Int)) f)
    (hp : front.length = p + 1) (hd : front[p]? = some d) : HasEmpty front p d := by
  refine ⟨hd, fun e he ho => ?_⟩
  obtain ⟨i, hi⟩ := List.mem_iff_getElem?.1 he
  have hlt := (List.getElem?_eq_some_iff.1 hi).1
  have hget : (front ++ layout (some (p : Int)) front.length f)[i]? = some e := by
    rw [List.getElem?_append_left hlt, hi]
  obtain ⟨q, -, hq, hqi, -⟩ := h.coherent.ownerClass hget ho
  omega

/-- A class that was just added is empty. -/
theorem Workbench.Grown.hasEmpty_last {g : List Tree}
    (h : w.Grown (front ++ layout owner front.length f ++ [d.under owner])
      (some ((front.length + size f : Nat) : Int)) g) :
    HasEmpty (front ++ layout owner front.length f ++ [d.under owner]) (front.length + size f)
      (d.under owner) :=
  h.hasEmpty (by simp [Nat.add_assoc]) (by simp)

/-- The first declaration of a model is empty when what comes after it is at the top level. -/
theorem hasEmpty_first (d : Declaration) (f : List Tree) :
    HasEmpty (layout none 0 (leaf d :: f)) 0 (d.under none) := by
  have hlayout : layout none 0 (leaf d :: f) = d.under none :: layout none 1 f := by
    rw [leaf, layout_cons]
    rfl
  rw [hlayout]
  refine ⟨rfl, List.forall_mem_cons.2 ⟨nofun, fun e he ho => ?_⟩⟩
  rcases parent_of_mem_layout he with h | ⟨q, h, hq, -⟩
  · cases h.symm.trans ho
  · have hzero : (q : Int) = 0 := Option.some.inj (h.symm.trans ho)
    omega

/-- The members of an empty class, when a forest has grown in it, are the outermost declarations
of the forest. -/
theorem HasEmpty.placesOf (h : HasEmpty front p d) (f : List Tree) :
    placesOf (front ++ layout (some (p : Int)) front.length f) (some p) =
      roots front.length f := by
  have hfront : ClientGen.placesOf front (some (p : Int)) = [] := by
    refine List.eq_nil_iff_forall_not_mem.2 fun i hi => ?_
    obtain ⟨e, he, ho⟩ := mem_placesOf.1 hi
    exact h.unowned e (List.mem_of_getElem? he) ho
  have hlt := h.lt
  rw [placesOf_append, hfront, List.nil_append]
  exact placesOf_layout _ _ f fun q hq => by cases hq; omega

theorem HasEmpty.getElem? (h : HasEmpty front p d) (f : List Tree) :
    (front ++ layout (some (p : Int)) front.length f)[p]? = some d := by
  rw [List.getElem?_append_left h.lt, h.get]

theorem HasEmpty.scopeNames (h : HasEmpty front p d) (f : List Tree) :
    scopeNames (front ++ layout (some (p : Int)) front.length f) (some (p : Int)) =
      f.map Tree.name := by
  have hlt := h.lt
  rw [scopeNames_append, scopeNames_eq_nil h.unowned, List.nil_append, scopeNames_layout]
  rintro q ⟨⟩
  omega

theorem Workbench.Grown.getClass (h : w.Grown front (some (p : Int)) f) (he : HasEmpty front p d)
    {r : Declaration × List Nat} (hr : w.model.getClass p = .ok r) :
    r.1.name = d.name ∧ r.2 = roots front.length f := by
  rw [h.model, CodeModel.ofEntries] at hr
  obtain ⟨q, e, hq, hget, -, rfl⟩ :=
    CodeModel.getClass_withEntries_eq_ok (Int.natCast_nonneg p) hr
  obtain rfl := Int.ofNat.inj hq
  rw [he.getElem?] at hget
  cases hget
  exact ⟨settle_name _ _ _, he.placesOf f⟩

/-- The declarations of a forest, as the model shows them. -/
theorem Workbench.Grown.atPlaces (h : w.Grown front owner f) :
    List.Forall₂ (fun i (t : Tree) => ∃ e, w.model.atPlace i = .ok e ∧ e.detached = t.decl)
      (roots front.length f) f := by
  have hdetached : ∀ t ∈ f, t.decl.detached = t.decl := fun t ht => h.detached.decl ht
  have hroots := forall₂_roots owner front f
  rw [h.model, CodeModel.ofEntries]
  generalize front ++ layout owner front.length f = entries at hroots ⊢
  generalize roots front.length f = places at hroots ⊢
  clear h
  induction hroots with
  | nil => exact .nil
  | @cons i t places f hget _ ih =>
    obtain ⟨ht, hdetached⟩ := List.forall_mem_cons.1 hdetached
    refine .cons ⟨_, ?_, Declaration.detached_settle ht entries i owner⟩ (ih hdetached)
    rw [CodeModel.atPlace_withEntries, hget]

theorem Workbench.Grown.atPlace (h : w.Grown front owner f) {i : Nat}
    (hi : i ∈ roots front.length f) {e : Declaration} (he : w.model.atPlace i = .ok e) :
    ∃ t ∈ f, e.detached = t.decl := by
  obtain ⟨t, ht, e', he', hdecl⟩ := exists_right_of_forall₂ h.atPlaces hi
  rw [he] at he'
  cases he'
  exact ⟨t, ht, hdecl⟩

/-- The members of a class in which a forest has grown, as the model shows them. -/
theorem Workbench.Grown.members (h : w.Grown front (some (p : Int)) f) (he : HasEmpty front p d)
    {ds : List Declaration} (hds : w.model.members p = .ok ds) :
    List.Forall₂ (fun (e : Declaration) (t : Tree) => e.detached = t.decl) ds f := by
  obtain ⟨⟨own, places⟩, hr, hmap⟩ := Outcome.bind_eq_ok.1 hds
  obtain rfl : places = roots front.length f := (h.getClass he hr).2
  have hplaces := Outcome.forall₂_of_mapM hmap
  have htrees := h.atPlaces
  generalize roots front.length f = places at hplaces htrees
  clear h hds hr hmap
  induction htrees generalizing ds with
  | nil =>
    cases hplaces
    exact .nil
  | cons htree _ ih =>
    obtain _ | ⟨hplace, hplaces⟩ := hplaces
    obtain ⟨e, he, hdecl⟩ := htree
    rw [he] at hplace
    cases hplace
    exact .cons hdecl (ih hplaces)

/-- The names of the members of a class in which a forest has grown. -/
theorem Workbench.Grown.memberNames (h : w.Grown front (some (p : Int)) f)
    (he : HasEmpty front p d) {names : List Json}
    (hnames : w.model.memberNames (some (p : Int)) = .ok names) : names = f.map Tree.name := by
  rw [h.model, CodeModel.ofEntries] at hnames
  rw [CodeModel.memberNames_eq_ok h.counted hnames, he.scopeNames]

/-- The names at the top level, when a forest has grown inside a class. -/
theorem Workbench.Grown.topNames {o : Int} (h : w.Grown front (some o) f) {names : List Json}
    (hnames : w.model.memberNames none = .ok names) : names = scopeNames front none := by
  rw [h.model, CodeModel.ofEntries, CodeModel.memberNames_none, scopeNames_append,
    scopeNames_layout_none, List.append_nil] at hnames
  exact (Except.ok.inj hnames).symm

theorem CodeModel.findNamed?_eq_ok {m : CodeModel} {name : Json} {places : List Nat}
    {found : Option Nat} (h : m.findNamed? name places = .ok found) :
    (found = none ∧ ∀ i ∈ places, ∀ e, m.atPlace i = .ok e → e.name.sameKey name = false) ∨
      ∃ i ∈ places, found = some i ∧ ∃ e, m.atPlace i = .ok e ∧ e.name.sameKey name = true := by
  induction places with
  | nil =>
    cases h
    exact .inl ⟨rfl, nofun⟩
  | cons place rest ih =>
    obtain ⟨e, he, h⟩ := Outcome.bind_eq_ok.1 h
    split at h
    · rename_i hname
      cases h
      exact .inr ⟨place, List.mem_cons_self, rfl, e, he, hname⟩
    · rename_i hname
      rcases ih h with ⟨rfl, hrest⟩ | ⟨i, hi, hfound⟩
      · refine .inl ⟨rfl, List.forall_mem_cons.2 ⟨fun e' he' => ?_, hrest⟩⟩
        rw [he] at he'
        cases he'
        exact Bool.eq_false_iff.2 hname
      · exact .inr ⟨i, List.mem_cons_of_mem place hi, hfound⟩

/-- Looking for a member of a class in which a forest has grown finds a tree with the name. -/
theorem Workbench.Grown.findMember? (h : w.Grown front (some (p : Int)) f)
    (hempty : HasEmpty front p d) {name : String} {found : Option Nat}
    (hfound : w.model.findMember? p (.str name) = .ok found) :
    (found = none ∧ ∀ t ∈ f, t.name ≠ .str name) ∨
      ∃ i e t, found = some i ∧ w.model.atPlace i = .ok e ∧ t ∈ f ∧ e.detached = t.decl ∧
        t.name = .str name := by
  obtain ⟨⟨own, places⟩, hr, hfound⟩ := Outcome.bind_eq_ok.1 hfound
  obtain rfl : places = roots front.length f := (h.getClass hempty hr).2
  have hname {e : Declaration} {t : Tree} (hdecl : e.detached = t.decl) : e.name = t.name := by
    rw [Tree.name, ← hdecl, Declaration.detached_name]
  rcases CodeModel.findNamed?_eq_ok hfound with ⟨rfl, hnone⟩ | ⟨i, hi, rfl, e, he, hsame⟩
  · refine .inl ⟨rfl, fun t ht heq => ?_⟩
    obtain ⟨i, hi, e, he, hdecl⟩ := exists_left_of_forall₂ h.atPlaces ht
    have hother := hnone i hi e he
    rw [hname hdecl, heq] at hother
    simp at hother
  · obtain ⟨t, ht, hdecl⟩ := h.atPlace hi he
    refine .inr ⟨i, e, t, rfl, he, ht, hdecl, ?_⟩
    rw [← hname hdecl]
    exact Json.eq_of_sameKey_str hsame

theorem CodeModel.exists_findNamed? {m : CodeModel} {places : List Nat}
    (h : ∀ i ∈ places, ∃ e, m.atPlace i = .ok e) (name : Json) :
    ∃ found, m.findNamed? name places = .ok found := by
  induction places with
  | nil => exact ⟨none, rfl⟩
  | cons i rest ih =>
    obtain ⟨⟨e, he⟩, hrest⟩ := List.forall_mem_cons.1 h
    have hstep : m.findNamed? name (i :: rest) =
        if e.name.sameKey name = true then .ok (some i) else m.findNamed? name rest := by
      rw [findNamed?, he]
      rfl
    rw [hstep]
    split
    · exact ⟨some i, rfl⟩
    · exact ih hrest

section Total

variable (h : w.Grown front (some (p : Int)) f) (he : HasEmpty front p d)
  (hclass : d.isClass = true)

include h he hclass

/-- The class in which a forest has grown is found. -/
theorem Workbench.Grown.exists_getClass :
    ∃ own, w.model.getClass p = .ok (own, roots front.length f) := by
  rw [h.model, CodeModel.ofEntries, CodeModel.getClass_withEntries (he.getElem? f) hclass,
    he.placesOf]
  exact ⟨_, rfl⟩

omit he hclass in
theorem Workbench.Grown.exists_atPlace {i : Nat} (hi : i ∈ roots front.length f) :
    ∃ e, w.model.atPlace i = .ok e := by
  obtain ⟨t, -, e, he, -⟩ := exists_right_of_forall₂ h.atPlaces hi
  exact ⟨e, he⟩

/-- Its members are found. -/
theorem Workbench.Grown.exists_members : ∃ ds, w.model.members p = .ok ds := by
  obtain ⟨own, hown⟩ := h.exists_getClass he hclass
  obtain ⟨ds, hds⟩ := Outcome.exists_mapM fun i hi => h.exists_atPlace hi
  exact ⟨ds, Outcome.bind_eq_ok.2 ⟨_, hown, hds⟩⟩

/-- A member can be looked for. -/
theorem Workbench.Grown.exists_findMember? (name : Json) :
    ∃ found, w.model.findMember? p name = .ok found := by
  obtain ⟨own, hown⟩ := h.exists_getClass he hclass
  obtain ⟨found, hfound⟩ := CodeModel.exists_findNamed? (fun i hi => h.exists_atPlace hi) name
  exact ⟨found, Outcome.bind_eq_ok.2 ⟨_, hown, hfound⟩⟩

/-- **There is room for a constructor**, if no member is one. -/
theorem Workbench.Grown.exists_addConstructor {name : String} (hname : d.name = .str name)
    (hnone : ∀ t ∈ f, t.decl.isConstructor = false) {e : Declaration} (hdetached : e.detached = e)
    (hown : e.name = d.name) (hmakes : e.isConstructor = true) :
    ∃ w', addMember p e w = .ok () w' := by
  -- a member with the name of the class would be a constructor
  have hfree : Json.str name ∉ f.map Tree.name := by
    intro hmem
    obtain ⟨t, ht, hsame⟩ := List.mem_map.1 hmem
    obtain ⟨i, hi, hplace⟩ := exists_left_of_forall₂ (forall₂_roots (some (p : Int)) front f) ht
    have hkey : (t.decl.under (some (p : Int))).name.sameKey d.name = true := by
      have hunder : (t.decl.under (some (p : Int))).name = .str name := hsame
      rw [hunder, hname, Json.sameKey_str, beq_self_eq_true]
    have hconstructor := h.coherent.constructors hplace rfl (he.getElem? f) hkey
    exact absurd (hnone t ht) (ne_of_eq_of_ne hconstructor (by decide))
  rw [← he.scopeNames] at hfree
  have hcheck := CodeModel.checkName_of_isConstructor (m := {}) (he.getElem? f) hclass
    (hown.trans hname) hmakes hfree
  have hinsert := CodeModel.insert_of_checkName (m := {}) rfl h.coherent h.counted
    (Declaration.isFresh_of_detached hdetached) hcheck
  obtain ⟨place, w', hrun⟩ : ∃ place w', onModel (CodeModel.insert (some (p : Int)) e) w =
      .ok place w' := by
    rw [onModel, h.model, CodeModel.ofEntries, hinsert]
    exact ⟨_, _, rfl⟩
  exact ⟨w', Session.bind_run_of_ok hrun _⟩

end Total

end Reading

/-! ### Steps that look -/

/-- A step that leaves a model as it is, with a property of its result. -/
def Looks (m : CodeModel) (x : Build α) (P : α → Prop) : Prop :=
  ∀ ⦃w w' : Workbench⦄ ⦃a : α⦄, w.model = m → x w = .ok a w' → w'.model = m ∧ P a

namespace Looks

variable {m : CodeModel} {P : α → Prop} {Q : β → Prop}

theorem pure {a : α} (h : P a) : Looks m (Pure.pure a : Build α) P := by
  rintro w w' b hw ⟨⟩
  exact ⟨hw, h⟩

theorem imp {P' : α → Prop} {x : Build α} (hx : Looks m x P) (h : ∀ a, P a → P' a) :
    Looks m x P' := by
  intro w w' a hw hrun
  obtain ⟨hmodel, ha⟩ := hx hw hrun
  exact ⟨hmodel, h a ha⟩

theorem bind {x : Build α} {k : α → Build β} (hx : Looks m x P) (hk : ∀ a, P a → Looks m (k a) Q) :
    Looks m (x >>= k) Q := by
  intro w w' b hw h
  obtain ⟨a, v, hv, h⟩ := Session.bind_eq_ok.1 h
  obtain ⟨hmodel, ha⟩ := hx hw hv
  exact hk a ha hmodel h

theorem lift {o : Outcome α} (h : ∀ a, o = .ok a → P a) : Looks m (liftM o : Build α) P := by
  intro w w' a hw hrun
  obtain ⟨ho, rfl⟩ := Session.lift_eq_ok.1 hrun
  exact ⟨hw, h a ho⟩

theorem look {fn : CodeModel → Outcome α} (h : ∀ a, fn m = .ok a → P a) :
    Looks m (look fn) P := by
  intro w w' a hw hrun
  have hlook : Build.look fn w = (liftM (fn w.model) : Build α) w := rfl
  rw [hlook, hw] at hrun
  exact lift h hw hrun

theorem write (level : LogLevel) (text : String) : Looks m (write level text) fun _ => True := by
  rintro w w' u hw ⟨⟩
  exact ⟨hw, trivial⟩

end Looks

/-! ### Steps that add -/

/-- **A step adds a forest** to what has grown under an owner. The property is that of its
result and of the trees it adds. -/
def Adds (front : List Declaration) (owner : Option Int) (f : List Tree) (x : Build α)
    (Q : α → List Tree → Prop) : Prop :=
  ∀ ⦃w w' : Workbench⦄ ⦃a : α⦄, w.Grown front owner f → x w = .ok a w' →
    ∃ g, w'.Grown front owner (f ++ g) ∧ Q a g

namespace Adds

variable {Q : α → List Tree → Prop} {R : β → List Tree → Prop} {x : Build α} {k : α → Build β}

theorem imp {Q' : α → List Tree → Prop} (hx : Adds front owner f x Q)
    (h : ∀ a g, Q a g → Q' a g) : Adds front owner f x Q' := by
  intro w w' a hw hrun
  obtain ⟨g, hg, hQ⟩ := hx hw hrun
  exact ⟨g, hg, h a g hQ⟩

theorem pure {a : α} (h : Q a []) : Adds front owner f (Pure.pure a : Build α) Q := by
  rintro w w' b hw ⟨⟩
  exact ⟨[], by rwa [List.append_nil], h⟩

theorem throw {e : Failure} : Adds front owner f (throw e : Build α) Q := by
  rintro w w' a hw ⟨⟩

theorem bind (hx : Adds front owner f x Q)
    (hk : ∀ a g, Q a g → Adds front owner (f ++ g) (k a) fun b h => R b (g ++ h)) :
    Adds front owner f (x >>= k) R := by
  intro w w' b hw hrun
  obtain ⟨a, v, hv, hrun⟩ := Session.bind_eq_ok.1 hrun
  obtain ⟨g, hg, hQ⟩ := hx hw hv
  obtain ⟨h, hh, hR⟩ := hk a g hQ hg hrun
  exact ⟨g ++ h, by rwa [← List.append_assoc], hR⟩

/-- A step that looks adds nothing. -/
theorem after {P : α → Prop} (hx : ∀ w : Workbench, w.Grown front owner f → Looks w.model x P)
    (hk : ∀ a, P a → Adds front owner f (k a) R) : Adds front owner f (x >>= k) R := by
  intro w w' b hw hrun
  obtain ⟨a, v, hv, hrun⟩ := Session.bind_eq_ok.1 hrun
  obtain ⟨hmodel, ha⟩ := hx w hw rfl hv
  exact hk a ha ⟨hmodel.trans hw.model, hw.coherent, hw.detached, hw.counted⟩ hrun

theorem looks {P : α → Prop} (hx : ∀ w : Workbench, w.Grown front owner f → Looks w.model x P) :
    Adds front owner f x fun a g => g = [] ∧ P a := by
  intro w w' a hw hrun
  obtain ⟨hmodel, ha⟩ := hx w hw rfl hrun
  have hgrown : w'.Grown front owner f :=
    ⟨hmodel.trans hw.model, hw.coherent, hw.detached, hw.counted⟩
  exact ⟨[], by rwa [List.append_nil], rfl, ha⟩

/-- What does not depend on the model. -/
theorem lift {o : Outcome α} (hk : ∀ a, o = .ok a → Adds front owner f (k a) R) :
    Adds front owner f ((liftM o : Build α) >>= k) R :=
  after (fun _ _ => .lift fun _ => id) hk

theorem ite {c : Bool} {y : Build α} (hx : c = true → Adds front owner f x Q)
    (hy : c = false → Adds front owner f y Q) :
    Adds front owner f (if c = true then x else y) Q := by
  cases c with
  | true => exact hx rfl
  | false => exact hy rfl

/-- A safe name avoids the further words that it was given. -/
theorem safeNameAmong {o : Int} {candidate : String} {suffix : Json} {extra : List Json}
    {k : Json → Build β}
    (hk : ∀ name reserved, extra ⊆ reserved →
      Identifier.safeWith candidate suffix reserved = .ok name → Adds front owner f (k name) R) :
    Adds front owner f (safeName o candidate suffix extra >>= k) R := by
  refine after (P := fun name => ∃ reserved, extra ⊆ reserved ∧
    Identifier.safeWith candidate suffix reserved = .ok name) (fun _ _ => .look fun name h => ?_) ?_
  · obtain ⟨words, hwords, h⟩ := Outcome.bind_eq_ok.1 h
    obtain ⟨taken, own, -, rfl⟩ := CodeModel.exists_of_avoided hwords
    refine ⟨_, fun word hword => Identifier.mem_asSet.2 ?_, h⟩
    simp only [List.mem_append]
    exact .inl (.inr hword)
  · rintro name ⟨reserved, hextra, h⟩
    exact hk name reserved hextra h

theorem safeName {o : Int} {candidate : String} {suffix : Json} {extra : List Json}
    {k : Json → Build β}
    (hk : ∀ name reserved, Identifier.safeWith candidate suffix reserved = .ok name →
      Adds front owner f (k name) R) :
    Adds front owner f (safeName o candidate suffix extra >>= k) R :=
  safeNameAmong fun name reserved _ h => hk name reserved h

/-- Adding a member adds a leaf. -/
theorem member {o : Int} (hd : d.detached = d) :
    Adds front (some o) f (addMember o d) fun _ g => g = [leaf d] := by
  intro w w' u hw hrun
  obtain ⟨place, v, hv, hrun⟩ := Session.bind_eq_ok.1 hrun
  cases hrun
  exact ⟨_, (hw.insert hd hv).2, rfl⟩

/-- **Adding a class and filling it adds one tree**, with the filling inside. The filling starts
right after the class. -/
theorem inside {body : Int → Build α} (hd : d.detached = d)
    (hbody : ∀ {p : Nat}, p = front.length + size f → ∀ front' : List Declaration,
      front'.length = p + 1 → front'[p]? = some (d.under owner) →
      Adds front' (some (p : Int)) [] (body p) Q) :
    Adds front owner f (addClass owner d >>= body) fun a g => ∃ ms, g = [.node d ms] ∧ Q a ms := by
  intro w w' a hw hrun
  obtain ⟨q, v, hv, hrun⟩ := Session.bind_eq_ok.1 hrun
  obtain ⟨rfl, hempty⟩ := hw.addClass hd hv
  obtain ⟨ms, hms, hQ⟩ := hbody rfl _ (by simp [Nat.add_assoc]) (by simp) hempty hrun
  exact ⟨_, .outside hw.detached hd hw.counted hms, ms, rfl, hQ⟩

/-- Adding a class, describing it and filling it adds one tree, with some comment. -/
theorem inside_described {describe : Int → Build Unit} {body : Int → Build α}
    (hd : d.detached = d)
    (hdescribe : ∀ (p : Int) (v v' : Workbench), describe p v = .ok () v' →
      v'.model = v.model ∨ ∃ comment, CodeModel.setComment p comment v.model = .ok () v'.model)
    (hbody : ∀ {p : Nat}, p = front.length + size f →
      ∀ (front' : List Declaration) (comment : Json), front'.length = p + 1 →
        front'[p]? = some ((d.commented comment).under owner) →
        Adds front' (some (p : Int)) [] (body p) Q) :
    Adds front owner f (addClass owner d >>= fun p => describe p >>= fun _ => body p)
      fun a g => ∃ comment ms, g = [.node (d.commented comment) ms] ∧ Q a ms := by
  intro w w' a hw hrun
  obtain ⟨q, v, hv, hrun⟩ := Session.bind_eq_ok.1 hrun
  obtain ⟨rfl, hempty⟩ := hw.addClass hd hv
  obtain ⟨_, v', hv', hrun⟩ := Session.bind_eq_ok.1 hrun
  have hlength : front.length + size f = (front ++ layout owner front.length f).length := by simp
  obtain ⟨comment, hcommented⟩ : ∃ comment, v'.Grown
      (front ++ layout owner front.length f ++ [(d.commented comment).under owner])
      (some ((front.length + size f : Nat) : Int)) [] := by
    rcases hdescribe _ _ _ hv' with hsame | ⟨comment, hcomment⟩
    · exact ⟨d.comment, by rw [hsame]; exact hempty.model, hempty.coherent, .nil, hempty.counted⟩
    · rw [hlength] at hempty hcomment ⊢
      exact ⟨comment, hempty.commented hcomment⟩
  obtain ⟨ms, hms, hQ⟩ := hbody rfl _ comment (by simp [Nat.add_assoc]) (by simp) hcommented hrun
  exact ⟨_, .outside hw.detached (Declaration.detached_commented hd comment) hw.counted hms,
    comment, ms, rfl, hQ⟩

end Adds

end ClientGen
