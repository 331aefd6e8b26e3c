import ClientGen.Proofs.Code.Entries
import ClientGen.Proofs.Session

/-!
# The operations of a code model on its entries

Every operation on a model that is laid out from coherent entries
(`ClientGen.CodeModel.withEntries`) leaves a model laid out from coherent entries, and this
module says from which: an addition either fails and changes nothing, or appends an entry
that its scope admits (`ClientGen.CodeModel.insert_withEntries`); returning to a mark keeps
the entries up to the mark (`ClientGen.CodeModel.rollback_withEntries`); a comment changes
one entry (`ClientGen.CodeModel.setComment_withEntries`).

Owners are counted from the first declaration throughout. An owner counted from the last
one is looked up a second time after the declaration was added and then stands for another
declaration, so nothing of the kind holds for it.
-/

namespace ClientGen.CodeModel

open Outcome

variable {m : CodeModel} {ds : List Declaration}

/-! ### Reading -/

theorem place?_of_lt {i : Nat} (h : i < m.size) : m.place? i = some i := by
  simp [place?, h]

theorem place?_of_le {i : Nat} (h : m.size ≤ i) : m.place? i = none := by
  simp [place?, h]

theorem atPlace_withEntries (i : Nat) :
    (m.withEntries ds).atPlace i = match ds[i]? with
      | some d => .ok (settle ds i d)
      | none => fault .outOfRange := by
  rw [atPlace, withEntries_nodes]
  cases ds[i]? <;> rfl

theorem get_withEntries (i : Nat) :
    (m.withEntries ds).get i = match ds[i]? with
      | some d => .ok (settle ds i d)
      | none => fault .outOfRange := by
  rw [get]
  rcases Nat.lt_or_ge i ds.length with hi | hi
  · rw [place?_of_lt (by simpa using hi)]
    exact atPlace_withEntries i
  · rw [place?_of_le (by simpa using hi), List.getElem?_eq_none hi]

theorem getClass_withEntries {i : Nat} {d : Declaration} (hd : ds[i]? = some d)
    (hc : d.isClass = true) :
    (m.withEntries ds).getClass i = .ok (settle ds i d, placesOf ds (some i)) := by
  rw [getClass, get_withEntries, hd]
  simp only [bind, Except.bind, settle_members?, hc, if_true]
  rfl

/-- A class that is found is an entry, and its members are those it owns. -/
theorem getClass_withEntries_eq_ok {o : Int} (ho : 0 ≤ o) {r : Declaration × List Nat}
    (h : (m.withEntries ds).getClass o = .ok r) :
    ∃ (p : Nat) (c : Declaration), o = p ∧ ds[p]? = some c ∧ c.isClass = true ∧
      r = (settle ds p c, placesOf ds (some p)) := by
  obtain ⟨p, rfl⟩ := Int.eq_ofNat_of_zero_le ho
  rw [getClass, get_withEntries] at h
  rcases hc : ds[p]? with _ | c
  · rw [hc] at h
    cases h
  · rw [hc] at h
    simp only [bind, Except.bind, settle_members?] at h
    by_cases hclass : c.isClass = true
    · simp only [hclass, if_true] at h
      cases h
      exact ⟨p, c, rfl, hc, hclass, rfl⟩
    · simp only [hclass] at h
      cases h

/-- The name of the entry at a place. -/
def nameAt (ds : List Declaration) (i : Nat) : Json :=
  (ds[i]?.map Declaration.name).getD .null

theorem nameAt_append {es : List Declaration} {i : Nat} (hi : i < ds.length) :
    nameAt (ds ++ es) i = nameAt ds i := by
  rw [nameAt, List.getElem?_append_left hi, nameAt]

theorem nameAt_commented (ds : List Declaration) (i j : Nat) (comment : Json) :
    nameAt (ds.modify i (Declaration.commented comment)) j = nameAt ds j := by
  rw [nameAt, getElem?_commented, Option.map_map, nameAt]
  congr 2
  funext d
  simp only [Function.comp_apply]
  split <;> rfl

theorem names_withEntries {places : List Nat} (h : ∀ i ∈ places, i < ds.length) :
    (places.mapM fun i => do return (← (m.withEntries ds).atPlace i).name)
      = .ok (places.map (nameAt ds)) := by
  induction places with
  | nil => rfl
  | cons i rest ih =>
    have hi : i < ds.length := h i List.mem_cons_self
    have hd : ds[i]? = some ds[i] := List.getElem?_eq_getElem hi
    rw [List.mapM_cons, ih fun j hj => h j (List.mem_cons_of_mem i hj), atPlace_withEntries, hd]
    simp [bind, Except.bind, pure, Except.pure, nameAt, hd]

theorem memberNames_withEntries_none :
    (m.withEntries ds).memberNames none = .ok ((placesOf ds none).map (nameAt ds)) :=
  names_withEntries fun _ => lt_of_mem_placesOf

theorem memberNames_withEntries_some {i : Nat} {d : Declaration} (hd : ds[i]? = some d)
    (hc : d.isClass = true) :
    (m.withEntries ds).memberNames (some i) = .ok ((placesOf ds (some i)).map (nameAt ds)) := by
  rw [memberNames, scope, getClass_withEntries hd hc]
  exact names_withEntries fun _ => lt_of_mem_placesOf

theorem memberNames_withEntries_eq_ok {o : Int} (ho : 0 ≤ o) {names : List Json}
    (h : (m.withEntries ds).memberNames (some o) = .ok names) :
    ∃ (p : Nat) (c : Declaration), o = p ∧ ds[p]? = some c ∧ c.isClass = true ∧
      names = (placesOf ds (some o)).map (nameAt ds) := by
  obtain ⟨places, hs, hnames⟩ := bind_eq_ok.1 h
  obtain ⟨r, hr, hplaces⟩ := bind_eq_ok.1 hs
  cases hplaces
  obtain ⟨p, c, rfl, hc, hclass, rfl⟩ := getClass_withEntries_eq_ok ho hr
  rw [names_withEntries fun _ => lt_of_mem_placesOf] at hnames
  cases hnames
  exact ⟨p, c, rfl, hc, hclass, rfl⟩

/-! ### Checking a name -/

theorem mapM_atPlace {places : List Nat} {ms : List Declaration}
    (h : (places.map fun i => ds[i]?) = ms.map some) (hms : ∀ e ∈ ms, e.isClass = false) :
    places.mapM (m.withEntries ds).atPlace = .ok ms := by
  induction places generalizing ms with
  | nil =>
    obtain rfl : ms = [] := by simpa using h
    rfl
  | cons i rest ih =>
    obtain _ | ⟨e, ms⟩ := ms
    · cases h
    · rw [List.map_cons, List.map_cons, List.cons.injEq] at h
      obtain ⟨he, hms⟩ := List.forall_mem_cons.1 hms
      rw [List.mapM_cons, ih h.2 hms, atPlace_withEntries, h.1]
      simp only [settle_of_isClass he]
      rfl

/-- **The members of a class that holds no class** are the entries that it owns. -/
theorem members_withEntries {p : Nat} {d : Declaration} (hd : ds[p]? = some d)
    (hc : d.isClass = true)
    (hleaves : ∀ e ∈ ds, e.parent = some (p : Int) → e.isClass = false) :
    (m.withEntries ds).members p = .ok (ds.filter fun e => e.parent == some (p : Int)) := by
  rw [members, getClass_withEntries hd hc]
  refine mapM_atPlace (map_getElem?_placesOf ds (some (p : Int))) fun e he => ?_
  obtain ⟨hmem, hparent⟩ := List.mem_filter.1 he
  exact hleaves e hmem (beq_iff_eq.1 hparent)

theorem asKeys_eq_ok {vs ws : List Json} (h : vs.mapM Json.asKey = .ok ws) : ws = vs := by
  induction vs generalizing ws with
  | nil =>
    rw [List.mapM_nil] at h
    cases h
    rfl
  | cons v vs ih =>
    rw [List.mapM_cons] at h
    obtain ⟨w, hw, h⟩ := bind_eq_ok.1 h
    obtain ⟨ws', hws, h⟩ := bind_eq_ok.1 h
    cases h
    rw [Json.asKey_eq_ok hw, ih hws]

theorem collision_ne_ok (d : Declaration) (cause : Cause) (location : Json) (u : Unit) :
    checkName.collision d cause location ≠ .ok u := by
  intro h
  obtain ⟨_, -, h⟩ := bind_eq_ok.1 h
  cases h

/-- No entry of a scope has a name that none of the scope's names is the same key as. -/
theorem free_of_any_eq_false {owner : Option Int} {name : Json}
    (h : ((placesOf ds owner).map (nameAt ds)).any name.sameKey = false) :
    ∀ e ∈ ds, e.parent = owner → name.sameKey e.name = false := by
  intro e he ho
  obtain ⟨i, hi⟩ := List.mem_iff_getElem?.1 he
  have hmem : nameAt ds i ∈ (placesOf ds owner).map (nameAt ds) :=
    List.mem_map_of_mem (mem_placesOf.2 ⟨e, hi, ho⟩)
  have hname : nameAt ds i = e.name := by simp [nameAt, hi]
  rw [hname] at hmem
  exact Bool.eq_false_iff.2 fun hk => by
    rw [List.any_eq_true.2 ⟨e.name, hmem, hk⟩] at h
    cases h

/-- **A name that passes the check belongs to a declaration that the scope admits.** -/
theorem admits_of_checkName {owner : Option Int} {d : Declaration} {u : Unit}
    (ho : ∀ o, owner = some o → 0 ≤ o)
    (h : (m.withEntries ds).checkName owner d = .ok u) : Admits ds owner d := by
  obtain ⟨taken, htaken, h⟩ := bind_eq_ok.1 h
  obtain ⟨name, hname, h⟩ := bind_eq_ok.1 h
  obtain rfl := Json.asKey_eq_ok hname
  cases owner with
  | none =>
    rw [memberNames_withEntries_none] at htaken
    cases htaken
    simp only at h
    split at h
    · exact absurd h (collision_ne_ok _ _ _ _)
    · rename_i hany
      exact ⟨nofun, free_of_any_eq_false (by simpa using hany), nofun⟩
  | some o =>
    obtain ⟨p, c, rfl, hc, hclass, rfl⟩ := memberNames_withEntries_eq_ok (ho o rfl) htaken
    obtain ⟨e, he, h⟩ := bind_eq_ok.1 h
    rw [get_withEntries, hc] at he
    cases he
    simp only [settle_name] at h
    split at h
    · exact absurd h (collision_ne_ok _ _ _ _)
    · rename_i hany
      split at h
      · exact absurd h (collision_ne_ok _ _ _ _)
      · rename_i hsame
        refine ⟨fun hp => ⟨p, c, (Option.some.inj hp).symm, hc, hclass⟩,
          free_of_any_eq_false (by simpa using hany), fun {q c'} hq hc' hk => ?_⟩
        obtain rfl : p = q := Int.ofNat.inj (Option.some.inj hq)
        rw [hc] at hc'
        cases hc'
        simpa [hk] using hsame

/-! ### Adding a declaration -/

/-- How an addition runs on a model that is not frozen. -/
theorem insert_run (owner : Option Int) (d : Declaration) (hf : m.frozen = false) :
    insert owner d m = match m.checkName owner d with
      | .error e => .error e m
      | .ok _ =>
        match changeScope owner (fun places => .ok (places ++ [m.size]))
            { m with nodes := m.nodes.push (d.under owner) } with
        | .error e m' => .error e m'
        | .ok _ m' => .ok m.size { m' with journal := (owner, m.size) :: m'.journal } := by
  rw [insert, Session.bind_run_of_ok (Session.get_run m)]
  rcases m.checkName owner d with e | u
  · simp [hf, Session.bind_run]
  · simp only [hf, Bool.false_eq_true, if_false]
    rw [Session.bind_run_of_ok (Session.lift_run _ m), Session.bind_run_of_ok (Session.set_run _ m),
      Session.bind_run]
    simp only [Declaration.under]
    split <;> simp_all [Session.bind_run]

theorem frozen_of_insert {owner : Option Int} {d : Declaration} {place : Nat}
    {m' : CodeModel} (h : insert owner d m = .ok place m') : m.frozen = false := by
  cases hf : m.frozen with
  | false => rfl
  | true =>
    rw [insert] at h
    simp [Session.bind_run, hf] at h

/-- How the members of a class change, where the class is found. -/
theorem changeMembers_run {o : Int} {i : Nat} {r : Declaration × List Nat} {places : List Nat}
    {f : List Nat → Outcome (List Nat)} (hi : m.place? o = some i) (hr : m.getClass o = .ok r)
    (hf : f r.2 = .ok places) :
    changeMembers o f m = .ok ()
      { m with nodes := m.nodes.modify i (Declaration.mapMembers fun _ => places) } := by
  obtain ⟨c, members⟩ := r
  rw [changeMembers, Session.bind_run_of_ok (Session.get_run m)]
  simp [Session.bind_run, hr, hf, hi]

/-- The journal of a model with one more entry. -/
theorem journal_snoc (d : Declaration) :
    (m.withEntries (ds ++ [d])).journal = (d.parent, ds.length) :: (m.withEntries ds).journal := by
  simp [withEntries]

/-- The declarations of a model with one more entry: the entry is added at the end, and its
place to the members of its owner. -/
theorem nodes_snoc {d : Declaration} {owner : Option Int} (hd : d.IsFresh)
    (h : Coherent (ds ++ [d.under owner])) (i : Nat) :
    (m.withEntries (ds ++ [d.under owner])).nodes[i]? =
      ((m.withEntries ds).nodes.push (d.under owner))[i]?.map fun e =>
        if owner = some (i : Int) then e.mapMembers (· ++ [ds.length]) else e := by
  rw [withEntries_nodes, Array.getElem?_push, withEntries_nodes_size, withEntries_nodes]
  rcases Nat.lt_trichotomy i ds.length with hi | rfl | hi
  · rw [List.getElem?_append_left hi, if_neg (by omega), Option.map_map]
    congr 1
    funext e
    exact settle_snoc ds (d.under owner) i e
  · have hown : owner ≠ some (ds.length : Int) := by
      intro ho
      obtain ⟨p, -, hp, hlt, -⟩ := h.ownerClass
        (show (ds ++ [d.under owner])[ds.length]? = some (d.under owner) by simp) ho
      omega
    simp [settle_length hd h, hown]
  · rw [List.getElem?_eq_none (by simp; omega), if_neg (by omega), List.getElem?_eq_none (by omega)]
    rfl

/-- A model has the same class at a place after a declaration was added behind it. -/
theorem getClass_push {i : Nat} (hi : i < m.size) (d : Declaration) :
    getClass { m with nodes := m.nodes.push d } i = m.getClass i := by
  have hsize : i < m.nodes.size := hi
  have hnode : (m.nodes.push d)[i]? = m.nodes[i]? := by
    rw [Array.getElem?_push_lt hsize, Array.getElem?_eq_getElem hsize]
  have hpush : (size { m with nodes := m.nodes.push d } : Nat) = m.size + 1 := by
    simp [size]
  simp only [getClass, get, place?_of_lt hi, place?_of_lt (show i < _ by rw [hpush]; omega),
    atPlace, hnode]

/-- Models are equal that have the same declarations, lists and other parts. -/
theorem eq_of_nodes {m m' : CodeModel} (hn : ∀ i : Nat, m.nodes[i]? = m'.nodes[i]?)
    (ht : m.topLevel = m'.topLevel) (hj : m.journal = m'.journal) (hf : m.frozen = m'.frozen)
    (hr : m.reserved = m'.reserved) : m = m' := by
  obtain ⟨nodes, top, journal, frozen, reserved⟩ := m
  obtain rfl : nodes = m'.nodes := Array.ext_getElem? hn
  subst ht hj hf hr
  rfl

/-- Adding the place of a declaration to the scope that admits it, after the declaration
itself, gives the model with one more entry, but for the journal. -/
theorem changeScope_push {d : Declaration} {owner : Option Int} (hd : d.IsFresh)
    (h : Coherent ds) (ha : Admits ds owner d) :
    changeScope owner (fun places => .ok (places ++ [ds.length]))
        { m.withEntries ds with nodes := (m.withEntries ds).nodes.push (d.under owner) } =
      .ok ()
        { m.withEntries (ds ++ [d.under owner]) with journal := (m.withEntries ds).journal } := by
  have hnodes := nodes_snoc (m := m) hd (h.snoc ha)
  cases owner with
  | none =>
    have htop : placesOf (ds ++ [d.under none]) none = placesOf ds none ++ [ds.length] := by
      simp [placesOf_snoc]
    simp only [changeScope, Session.bind_run, Session.get_run, Session.lift_run, Session.set_run]
    refine congrArg _ (eq_of_nodes (fun i => ?_) htop.symm rfl rfl rfl)
    simp [hnodes i]
  | some o =>
    obtain ⟨p, c, rfl, hc, hclass⟩ := ha.ownerClass rfl
    have hp : p < ds.length := (List.getElem?_eq_some_iff.1 hc).1
    have hr := (getClass_push (m := m.withEntries ds) (by simpa using hp) (d.under (some p))).trans
      (getClass_withEntries hc hclass)
    have htop : placesOf (ds ++ [d.under (some p)]) none = placesOf ds none := by
      simp [placesOf_snoc]
    have hrun := changeMembers_run (f := fun places => .ok (places ++ [ds.length]))
      (place?_of_lt (by rw [size, Array.size_push]; exact Nat.lt_succ_of_lt (by simpa using hp)))
      hr rfl
    refine hrun.trans (congrArg _ (eq_of_nodes (fun i => ?_) htop.symm rfl rfl rfl))
    rw [hnodes i, Array.getElem?_modify]
    by_cases hi : p = i
    · subst hi
      have hnode :
        ((m.withEntries ds).nodes.push (d.under (some p)))[p]? = some (settle ds p c) := by
        rw [Array.getElem?_push_lt (by simpa using hp), ← Array.getElem?_eq_getElem]
        simp [hc]
      simp only [hnode, if_true, Option.map_some, Option.some.injEq]
      refine Declaration.mapMembers_congr fun places hplaces => ?_
      rw [settle_members?, hclass] at hplaces
      cases hplaces
      rfl
    · have hne : ¬(some (p : Int) = some (i : Int)) := fun he => hi (by simp at he; omega)
      simp [hi, hne]

/-- A declaration whose name passes the check becomes the last entry. -/
theorem insert_of_checkName {owner : Option Int} {d : Declaration} (hf : m.frozen = false)
    (h : Coherent ds) (ho : ∀ o, owner = some o → 0 ≤ o) (hd : d.IsFresh) {u : Unit}
    (hcheck : (m.withEntries ds).checkName owner d = .ok u) :
    insert owner d (m.withEntries ds) =
      .ok ds.length (m.withEntries (ds ++ [d.under owner])) := by
  have ha := admits_of_checkName ho hcheck
  rw [insert_run (m := m.withEntries ds) owner d hf, hcheck]
  simp only [withEntries_size, changeScope_push hd h ha]
  exact congrArg _ (eq_of_nodes (fun _ => rfl) rfl (journal_snoc (d.under owner)).symm rfl rfl)

/-- **Adding a declaration** either fails and changes nothing, or its scope admits it and it
becomes the last entry. -/
theorem insert_withEntries {owner : Option Int} {d : Declaration} (hf : m.frozen = false)
    (h : Coherent ds) (ho : ∀ o, owner = some o → 0 ≤ o) (hd : d.IsFresh) :
    (∃ e, insert owner d (m.withEntries ds) = .error e (m.withEntries ds)) ∨
      (Admits ds owner d ∧ insert owner d (m.withEntries ds) =
        .ok ds.length (m.withEntries (ds ++ [d.under owner]))) := by
  rcases hcheck : (m.withEntries ds).checkName owner d with e | u
  · refine Or.inl ⟨e, ?_⟩
    rw [insert_run (m := m.withEntries ds) owner d hf, hcheck]
  · exact Or.inr ⟨admits_of_checkName ho hcheck, insert_of_checkName hf h ho hd hcheck⟩

/-! ### Taking additions back -/

theorem remove_snoc {places : List Nat} {i : Nat} (h : i ∉ places) :
    remove i (places ++ [i]) = .ok places := by
  simp [remove, List.erase_append_right _ h]

theorem length_notMem_placesOf (owner : Option Int) : ds.length ∉ placesOf ds owner :=
  fun h => Nat.lt_irrefl _ (lt_of_mem_placesOf h)

/-- The declarations of a model without its last entry. -/
theorem nodes_dropLast {d : Declaration} {i : Nat} (hi : i < ds.length) :
    (m.withEntries (ds ++ [d])).nodes[i]? =
      (m.withEntries ds).nodes[i]?.map fun e =>
        if d.parent = some (i : Int) then e.mapMembers (· ++ [ds.length]) else e := by
  rw [withEntries_nodes, withEntries_nodes, List.getElem?_append_left hi, Option.map_map]
  congr 1
  funext e
  exact settle_snoc ds d i e

/-- How taking back the latest addition runs. -/
theorem undoLast_run {owner : Option Int} {place : Nat} {journal : List (Option Int × Nat)}
    (hj : m.journal = (owner, place) :: journal) :
    undoLast m = match changeScope owner (remove place) { m with journal } with
      | .error e m' => .error e m'
      | .ok _ m' => .ok () { m' with nodes := m'.nodes.pop } := by
  rw [undoLast, Session.bind_run_of_ok (Session.get_run m)]
  simp only [hj]
  rw [Session.bind_run_of_ok (Session.set_run _ m), Session.bind_run]
  split <;> simp_all

/-- Removing the place of the last entry from its scope leaves the lists of the other
entries. -/
theorem changeScope_remove {d : Declaration} (h : Coherent (ds ++ [d]))
    (journal : List (Option Int × Nat)) :
    ∃ m', changeScope d.parent (remove ds.length) { m.withEntries (ds ++ [d]) with journal } =
        .ok () m' ∧ m'.topLevel = placesOf ds none ∧ m'.journal = journal ∧
      m'.frozen = m.frozen ∧ m'.reserved = m.reserved ∧ m'.nodes.size = ds.length + 1 ∧
      ∀ i < ds.length, m'.nodes[i]? = (m.withEntries ds).nodes[i]? := by
  rcases ho : d.parent with _ | o
  · have htop : placesOf (ds ++ [d]) none = placesOf ds none ++ [ds.length] := by
      simp [placesOf_snoc, ho]
    simp only [changeScope, Session.bind_run, Session.get_run, Session.lift_run, Session.set_run,
      withEntries_topLevel, htop, remove_snoc (length_notMem_placesOf none)]
    refine ⟨_, rfl, rfl, rfl, rfl, rfl, by simp, fun i hi => ?_⟩
    change (m.withEntries (ds ++ [d])).nodes[i]? = _
    rw [nodes_dropLast hi, ho]
    simp [Function.comp_def]
  · obtain ⟨p, c, rfl, hp, hc, hclass⟩ := h.ownerClass
      (show (ds ++ [d])[ds.length]? = some d by simp) ho
    have hplaces : placesOf (ds ++ [d]) (some (p : Int)) =
        placesOf ds (some (p : Int)) ++ [ds.length] := by
      simp [placesOf_snoc, ho]
    have htop : placesOf (ds ++ [d]) none = placesOf ds none := by
      simp [placesOf_snoc, ho]
    have hr : getClass { m.withEntries (ds ++ [d]) with journal } p = _ :=
      getClass_withEntries (m := m) hc hclass
    have hrun := changeMembers_run (f := remove ds.length)
      (place?_of_lt (show p < size { m.withEntries (ds ++ [d]) with journal } by
        simp [size]; omega)) hr
      (by rw [hplaces]; exact remove_snoc (length_notMem_placesOf _))
    refine ⟨_, hrun, htop, rfl, rfl, rfl, by simp, fun i hi => ?_⟩
    rw [Array.getElem?_modify, nodes_dropLast hi, ho]
    by_cases hpi : p = i
    · subst hpi
      rw [withEntries_nodes, if_pos rfl, Option.map_map, Option.map_map]
      congr 1
      funext e
      simp [settle, Declaration.mapMembers_mapMembers]
    · have hne : ¬(some (p : Int) = some (i : Int)) := fun he => hpi (by simp at he; omega)
      simp [hpi, hne, Function.comp_def]

/-- **Taking back the latest addition** drops the last entry. -/
theorem undoLast_withEntries {d : Declaration} (h : Coherent (ds ++ [d])) :
    undoLast (m.withEntries (ds ++ [d])) = .ok () (m.withEntries ds) := by
  obtain ⟨m', hrun, htop, hj, hf, hr, hsize, hnodes⟩ :=
    changeScope_remove (m := m) h (m.withEntries ds).journal
  rw [undoLast_run (journal_snoc d), hrun]
  refine congrArg (EStateM.Result.ok ()) (eq_of_nodes (fun i => ?_) htop hj hf hr)
  simp only [Array.getElem?_pop, hsize]
  split
  · rename_i hi
    exact hnodes i hi
  · rename_i hi
    rw [withEntries_nodes, List.getElem?_eq_none (by omega)]
    rfl

theorem undoTimes_withEntries (h : Coherent ds) {k : Nat} (hk : k ≤ ds.length) :
    undoTimes k (m.withEntries ds) = .ok () (m.withEntries (ds.take (ds.length - k))) := by
  induction k generalizing ds with
  | zero => simp [undoTimes]
  | succ k ih =>
    obtain ⟨es, d, rfl⟩ : ∃ es d, ds = es ++ [d] :=
      ⟨ds.dropLast, ds.getLast (by rintro rfl; simp at hk), (List.dropLast_append_getLast _).symm⟩
    have hes : Coherent es := by simpa using h.take es.length
    rw [undoTimes, Session.bind_run_of_ok (undoLast_withEntries h)]
    simp only [List.length_append, List.length_singleton] at hk ⊢
    rw [ih hes (by omega), List.take_append_of_le_length (by omega)]
    congr 3
    omega

/-- **Returning to a mark** keeps the entries up to it. -/
theorem rollback_withEntries {mark : Int} (hf : m.frozen = false) (h : Coherent ds)
    (hm : 0 ≤ mark) :
    rollback mark (m.withEntries ds) = .ok () (m.withEntries (ds.take mark.toNat)) := by
  have hlen : (m.withEntries ds).journal.length = ds.length := withEntries_mark m ds
  rw [rollback, Session.bind_run_of_ok (Session.get_run _)]
  simp only [withEntries_frozen, hf, Bool.false_eq_true, if_false, hlen]
  rw [undoTimes_withEntries h (by omega)]
  refine congrArg (fun es => EStateM.Result.ok () (m.withEntries es)) ?_
  rw [List.take_eq_take_iff]
  omega

/-! ### Comments -/

theorem settle_commented (d : Declaration) (i j : Nat) (comment : Json) :
    settle (ds.modify i (Declaration.commented comment)) j (d.commented comment)
      = (settle ds j d).commented comment := by
  rw [settle, settle, placesOf_commented]
  rcases d with ⟨_, _, _, _, _, _, body⟩
  cases body <;> rfl

/-- **Giving a declaration a comment** changes its entry. -/
theorem setComment_withEntries {i : Nat} (comment : Json) :
    setComment i comment (m.withEntries ds) =
      if i < ds.length then .ok () (m.withEntries (ds.modify i (Declaration.commented comment)))
      else .error (.fault .outOfRange) (m.withEntries ds) := by
  rw [setComment, Session.bind_run_of_ok (Session.get_run _)]
  split
  · rename_i hi
    rw [place?_of_lt (by simpa using hi)]
    refine congrArg (EStateM.Result.ok ()) (eq_of_nodes (fun j => ?_) ?_ ?_ rfl rfl)
    · rw [withEntries_nodes, getElem?_commented, Array.getElem?_modify, withEntries_nodes]
      rcases ds[j]? with _ | d
      · simp
      · by_cases hij : i = j
        · subst hij
          simp only [if_true, Option.map_some, Option.some.injEq]
          exact (settle_commented d i i comment).symm
        · simp [hij, settle, placesOf_commented]
    · exact (placesOf_commented ds i comment none).symm
    · refine congrArg List.reverse (List.ext_getElem? fun j => ?_)
      rw [List.getElem?_mapIdx, List.getElem?_mapIdx, getElem?_commented, Option.map_map]
      congr 1
      funext d
      simp only [Function.comp_apply]
      split <;> rfl
  · rename_i hi
    rw [place?_of_le (by simpa using hi)]
    rfl

end ClientGen.CodeModel
