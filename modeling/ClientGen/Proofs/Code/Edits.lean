import ClientGen.Proofs.CSharp.Ending

/-!
# Runs of edits

An **edit** adds a declaration, returns to a mark or freezes the model
(`ClientGen.Edit`). An edit may fail; what it changed before it did stays, and the next edit
goes on from there. This module says what every run of edits on an empty model leads to:

* the four structures of the model agree, owners come first, names are told apart, and a
  frozen model stays as it is (`ClientGen.CodeModel.Sound`, `ClientGen.sound_runAll`);
* returning to a mark takes back exactly what was done since
  (`ClientGen.rollback_runAll`), whatever was added since, and whatever was taken back of
  it in between.

Both come from one invariant: the model is laid out from coherent entries, and each edit
does to the entries what the module on operations says.
-/

namespace ClientGen

/-! ### Edits -/

/-- A change of a code model from outside. -/
inductive Edit
  /-- Add a declaration to a scope. -/
  | add (owner : Option Int) (d : Declaration) : Edit
  /-- Return to a mark. -/
  | rollback (mark : Int) : Edit
  /-- Let the model no longer change. -/
  | freeze : Edit

namespace Edit

/-- Perform an edit. -/
def perform : Edit → CodeModel.Change Unit
  | .add owner d => do
    let _ ← CodeModel.insert owner d
  | .rollback mark => CodeModel.rollback mark
  | .freeze => modify CodeModel.freeze

/-- The model after edits, failing ones included. -/
def runAll (edits : List Edit) (m : CodeModel) : CodeModel :=
  edits.foldl (fun m e => e.perform.after m) m

/-- **A proper edit** counts owners and marks from the start, and adds declarations without
members. An owner need not be there, nor be a class: such an edit fails. -/
def Proper : Edit → Prop
  | .add owner d => (∀ o, owner = some o → 0 ≤ o) ∧ d.IsFresh
  | .rollback mark => 0 ≤ mark
  | .freeze => True

/-- An edit that leaves everything up to a mark alone, as far as returning to an earlier mark
and freezing are concerned. -/
def StaysAbove (mark : Nat) : Edit → Prop
  | .add _ _ => True
  | .rollback earlier => mark ≤ earlier
  | .freeze => False

/-! ### Frozen models -/

theorem perform_frozen {m : CodeModel} (hf : m.frozen = true) {e : Edit} (he : e ≠ .freeze) :
    e.perform m = .error (.fault .frozenModel) m := by
  cases e with
  | add owner d =>
    rw [perform, CodeModel.insert]
    simp [Session.bind_run, hf]
  | rollback mark =>
    rw [perform, CodeModel.rollback]
    simp [Session.bind_run, hf]
  | freeze => exact absurd rfl he

theorem after_frozen {m : CodeModel} (hf : m.frozen = true) (e : Edit) : e.perform.after m = m := by
  by_cases he : e = .freeze
  · subst he
    refine Session.after_of_ok (a := ()) ?_
    simp [perform, CodeModel.freeze, ← hf]
  · exact Session.after_of_error (perform_frozen hf he)

theorem runAll_frozen {m : CodeModel} (hf : m.frozen = true) (edits : List Edit) :
    runAll edits m = m := by
  induction edits with
  | nil => rfl
  | cons e rest ih =>
    rw [runAll, List.foldl_cons, after_frozen hf]
    exact ih

/-! ### What an edit does to the entries -/

variable {m : CodeModel} {ds : List Declaration}

/-- An edit introduces an entry by adding it. -/
def Introduces (e : Edit) (entry : Declaration) : Prop :=
  ∃ owner d, e = .add owner d ∧ entry = d.under owner

/-- **A proper edit leads from coherent entries to coherent entries**, and there is no new
entry but the one that it adds. -/
theorem after_withEntries (h : Coherent ds) {e : Edit} (he : e.Proper) :
    ∃ (m' : CodeModel) (es : List Declaration), Coherent es ∧
      (∀ entry ∈ es, entry ∈ ds ∨ e.Introduces entry) ∧
      e.perform.after (m.withEntries ds) = m'.withEntries es := by
  by_cases hf : m.frozen = true
  · exact ⟨m, ds, h, fun _ => Or.inl, after_frozen (m := m.withEntries ds) hf e⟩
  · rw [Bool.not_eq_true] at hf
    cases e with
    | add owner d =>
      rcases CodeModel.insert_withEntries hf h he.1 he.2 with ⟨e, hrun⟩ | ⟨ha, hrun⟩
      · refine ⟨m, ds, h, fun _ => Or.inl, Session.after_of_error (e := e) ?_⟩
        rw [perform, Session.bind_run_of_error hrun]
      · refine ⟨m, _, h.snoc ha, fun entry hentry => ?_, Session.after_of_ok (a := ()) ?_⟩
        · refine (List.mem_append.1 hentry).imp_right fun hlast => ?_
          exact ⟨owner, d, rfl, List.mem_singleton.1 hlast⟩
        · rw [perform, Session.bind_run_of_ok hrun, Session.pure_run]
    | rollback mark =>
      exact ⟨m, _, h.take mark.toNat, fun _ hentry => Or.inl (List.mem_of_mem_take hentry),
        Session.after_of_ok (CodeModel.rollback_withEntries hf h he)⟩
    | freeze =>
      exact ⟨m.freeze, ds, h, fun _ => Or.inl, Session.after_of_ok (Session.modify_run _ _)⟩

/-- A proper edit above a mark keeps the model unfrozen and its entries up to the mark. -/
theorem after_withEntries_above (hf : m.frozen = false) (h : Coherent ds) {k : Nat} {e : Edit}
    (he : e.Proper) (habove : e.StaysAbove k) (hk : k ≤ ds.length) :
    ∃ es : List Declaration, Coherent es ∧ k ≤ es.length ∧ es.take k = ds.take k ∧
      e.perform.after (m.withEntries ds) = m.withEntries es := by
  cases e with
  | add owner d =>
    rcases CodeModel.insert_withEntries hf h he.1 he.2 with ⟨e, hrun⟩ | ⟨ha, hrun⟩
    · refine ⟨ds, h, hk, rfl, Session.after_of_error (e := e) ?_⟩
      rw [perform, Session.bind_run_of_error hrun]
    · refine ⟨_, h.snoc ha, by simp; omega, List.take_append_of_le_length hk,
        Session.after_of_ok (a := ()) ?_⟩
      rw [perform, Session.bind_run_of_ok hrun, Session.pure_run]
  | rollback mark =>
    have hmark : k ≤ mark.toNat := by
      have : (k : Int) ≤ mark := habove
      omega
    refine ⟨_, h.take mark.toNat, by simp; omega, ?_,
      Session.after_of_ok (CodeModel.rollback_withEntries hf h he)⟩
    rw [List.take_take, Nat.min_eq_left hmark]
  | freeze => exact absurd habove id

/-- Every entry after proper edits was there before them or was added by one of them. -/
theorem runAll_withEntries_adds (edits : List Edit) (he : ∀ e ∈ edits, e.Proper)
    (h : Coherent ds) :
    ∃ (m' : CodeModel) (es : List Declaration), Coherent es ∧
      (∀ entry ∈ es, entry ∈ ds ∨ ∃ e ∈ edits, e.Introduces entry) ∧
      runAll edits (m.withEntries ds) = m'.withEntries es := by
  induction edits generalizing m ds with
  | nil => exact ⟨m, ds, h, fun _ => Or.inl, rfl⟩
  | cons e rest ih =>
    obtain ⟨m', es, hes, hold, hrun⟩ := after_withEntries (m := m) h (he e List.mem_cons_self)
    rw [runAll, List.foldl_cons, hrun]
    obtain ⟨m'', fs, hfs, hnew, hrest⟩ :=
      ih (m := m') (fun e' he' => he e' (List.mem_cons_of_mem e he')) hes
    refine ⟨m'', fs, hfs, fun entry hentry => ?_, hrest⟩
    rcases hnew entry hentry with hes | ⟨e', he', hadds⟩
    · exact (hold entry hes).imp_right fun hadds => ⟨e, List.mem_cons_self, hadds⟩
    · exact Or.inr ⟨e', List.mem_cons_of_mem e he', hadds⟩

theorem runAll_withEntries (edits : List Edit) (he : ∀ e ∈ edits, e.Proper) (h : Coherent ds) :
    ∃ (m' : CodeModel) (es : List Declaration), Coherent es ∧
      runAll edits (m.withEntries ds) = m'.withEntries es := by
  obtain ⟨m', es, hes, -, hrun⟩ := runAll_withEntries_adds (m := m) edits he h
  exact ⟨m', es, hes, hrun⟩

theorem runAll_withEntries_above (edits : List Edit) {k : Nat} (hf : m.frozen = false)
    (he : ∀ e ∈ edits, e.Proper ∧ e.StaysAbove k) (h : Coherent ds) (hk : k ≤ ds.length) :
    ∃ es : List Declaration, Coherent es ∧ k ≤ es.length ∧ es.take k = ds.take k ∧
      runAll edits (m.withEntries ds) = m.withEntries es := by
  induction edits generalizing ds with
  | nil => exact ⟨ds, h, hk, rfl, rfl⟩
  | cons e rest ih =>
    obtain ⟨hproper, habove⟩ := he e List.mem_cons_self
    obtain ⟨es, hes, hk', htake, hrun⟩ := after_withEntries_above hf h hproper habove hk
    obtain ⟨fs, hfs, hk'', htake', hrun'⟩ :=
      ih (fun e' he' => he e' (List.mem_cons_of_mem e he')) hes hk'
    refine ⟨fs, hfs, hk'', htake'.trans htake, ?_⟩
    rw [runAll, List.foldl_cons, hrun]
    exact hrun'

end Edit

/-! ### Sound models -/

namespace CodeModel

/-- The owner of the declaration at a place; none at the top level. -/
def ownerAt (m : CodeModel) (i : Nat) : Option Int :=
  m.nodes[i]?.bind Declaration.parent

/-- **A sound model**: its four structures agree, owners come first and are classes, names
are told apart, and once it is frozen it stays as it is. -/
structure Sound (m : CodeModel) : Prop where
  /-- The journal gives the owner and the place of every declaration, the latest first. -/
  journal : m.journal.reverse = (List.range m.size).map fun i => (m.ownerAt i, i)
  /-- The top level has the places without an owner, in increasing order. -/
  topLevel : m.topLevel = (List.range m.size).filter fun i => m.ownerAt i = none
  /-- A class has the places that it owns as members, in increasing order. -/
  members : ∀ {i : Nat} {d : Declaration} {places : List Nat}, m.nodes[i]? = some d →
    d.members? = some places →
      places = (List.range m.size).filter fun j => m.ownerAt j = some (i : Int)
  /-- The owner of a declaration is a class that comes before it. -/
  owners : ∀ {i : Nat} {o : Int}, m.ownerAt i = some o →
    ∃ (p : Nat) (c : Declaration), o = p ∧ p < i ∧ m.nodes[p]? = some c ∧ c.isClass = true
  /-- Following owners from a place takes no more steps than there are places up to it. -/
  chains : ∀ {i fuel : Nat}, i < m.size → i < fuel →
    ∃ names, CSharp.nameChain m fuel i = .ok names
  /-- Writing a declaration does not go on for more levels than there are declarations. -/
  writing : ∀ {i fuel : Nat}, i < m.size → m.size ≤ fuel →
    CSharp.declaration m fuel i ≠ .error (.fault .endlessNesting)
  /-- The depth-first walk through the members meets every declaration exactly once. -/
  walk : ∀ {fuel : Nat}, m.size ≤ fuel → (m.walk fuel).Perm (List.range m.size)
  /-- The names of a scope are different keys. -/
  names : ∀ {i j : Nat} {d e : Declaration}, i ≠ j → m.nodes[i]? = some d →
    m.nodes[j]? = some e → d.parent = e.parent → d.name.sameKey e.name = false
  /-- A member with the name of its class is a constructor. -/
  constructors : ∀ {i p : Nat} {d c : Declaration}, m.nodes[i]? = some d →
    d.parent = some (p : Int) → m.nodes[p]? = some c → d.name.sameKey c.name = true →
      d.isConstructor = true
  /-- Once the model is frozen, additions and rollbacks fail and nothing changes. -/
  frozen : ∀ later : List Edit, Edit.runAll later m.freeze = m.freeze ∧
    ∀ e : Edit, e ≠ .freeze → e.perform m.freeze = .error (.fault .frozenModel) m.freeze

variable {m : CodeModel} {ds : List Declaration}

theorem ownerAt_withEntries (i : Nat) :
    (m.withEntries ds).ownerAt i = ds[i]?.bind Declaration.parent := by
  rw [ownerAt, withEntries_nodes]
  cases ds[i]? <;> simp

theorem placesOf_eq_filter (owner : Option Int) :
    placesOf ds owner =
      (List.range ds.length).filter fun i => (m.withEntries ds).ownerAt i = owner := by
  refine List.filter_congr fun i hi => ?_
  rw [List.mem_range] at hi
  rw [ownerAt_withEntries, List.getElem?_eq_getElem hi, Option.map_some, Option.bind_some,
    Bool.eq_iff_iff]
  simp

theorem exists_of_withEntries_nodes {i : Nat} {d : Declaration}
    (h : (m.withEntries ds).nodes[i]? = some d) : ∃ e, ds[i]? = some e ∧ settle ds i e = d := by
  rw [withEntries_nodes] at h
  exact Option.map_eq_some_iff.1 h

end CodeModel

/-- A model laid out from coherent entries is sound. -/
theorem Coherent.sound {m : CodeModel} {ds : List Declaration} (h : Coherent ds) :
    (m.withEntries ds).Sound where
  journal := by
    have hjournal : (m.withEntries ds).journal.reverse = ds.mapIdx fun i d => (d.parent, i) :=
      List.reverse_reverse _
    rw [CodeModel.withEntries_size, hjournal]
    refine List.ext_getElem? fun i => ?_
    rw [List.getElem?_mapIdx, List.getElem?_map]
    rcases Nat.lt_or_ge i ds.length with hi | hi
    · rw [List.getElem?_range hi, List.getElem?_eq_getElem hi, Option.map_some, Option.map_some,
        CodeModel.ownerAt_withEntries, List.getElem?_eq_getElem hi]
      rfl
    · rw [List.getElem?_eq_none hi, List.getElem?_eq_none (by simpa using hi)]
      rfl
  topLevel := by
    rw [CodeModel.withEntries_size]
    exact CodeModel.placesOf_eq_filter none
  members {i d places} hd hp := by
    obtain ⟨e, he, rfl⟩ := CodeModel.exists_of_withEntries_nodes hd
    rw [settle_members?] at hp
    split at hp
    · cases hp
      rw [CodeModel.withEntries_size]
      exact CodeModel.placesOf_eq_filter _
    · cases hp
  owners {i o} ho := by
    rw [CodeModel.ownerAt_withEntries] at ho
    obtain ⟨d, hd, ho⟩ := Option.bind_eq_some_iff.1 ho
    obtain ⟨p, c, rfl, hp, hc, hclass⟩ := h.ownerClass hd ho
    refine ⟨p, settle ds p c, rfl, hp, by rw [CodeModel.withEntries_nodes, hc]; rfl, ?_⟩
    rw [Declaration.isClass, settle_members?, hclass]
    rfl
  chains hi hfuel := CSharp.nameChain_eq_ok h (by simpa using hi) hfuel
  writing {i fuel} hi hfuel :=
    CSharp.declaration_ends h (by simpa using hi) (by simp at hfuel; omega)
  walk hfuel := by
    rw [CodeModel.withEntries_size] at hfuel ⊢
    exact CodeModel.walk_perm h hfuel
  names {i j d e} hij hd he ho := by
    obtain ⟨d', hd', rfl⟩ := CodeModel.exists_of_withEntries_nodes hd
    obtain ⟨e', he', rfl⟩ := CodeModel.exists_of_withEntries_nodes he
    rw [settle_parent, settle_parent] at ho
    rw [settle_name, settle_name]
    rcases Nat.lt_or_gt_of_ne hij with hlt | hlt
    · rw [Json.sameKey_comm]
      exact h.apart hlt hd' he' ho
    · exact h.apart hlt he' hd' ho.symm
  constructors hd ho hc hname := by
    obtain ⟨d', hd', rfl⟩ := CodeModel.exists_of_withEntries_nodes hd
    obtain ⟨c', hc', rfl⟩ := CodeModel.exists_of_withEntries_nodes hc
    rw [settle_parent] at ho
    rw [settle_name, settle_name] at hname
    rw [settle, Declaration.mapMembers_isConstructor]
    exact h.constructors hd' ho hc' hname
  frozen later := ⟨Edit.runAll_frozen rfl later, fun _ => Edit.perform_frozen rfl⟩

/-! ### Every run -/

/-- A model without declarations is laid out from no entries. -/
theorem CodeModel.withEntries_nil (words : List Json) :
    ({ reserved := words } : CodeModel).withEntries [] = { reserved := words } := rfl

/-- **Every run of proper edits on an empty model leads to a sound model.** -/
theorem sound_runAll (words : List Json) (edits : List Edit) (h : ∀ e ∈ edits, e.Proper) :
    (Edit.runAll edits { reserved := words }).Sound := by
  rw [← CodeModel.withEntries_nil words]
  obtain ⟨m, ds, hds, hrun⟩ := Edit.runAll_withEntries edits h Coherent.nil
  rw [hrun]
  exact hds.sound

/-- Edits with a class and a member that stay, additions that are refused, a rollback and a
freeze. -/
def shelfEdits : List Edit :=
  [.add none (Declaration.ofClass "Keep" [] .null),
   .add (some 0) { name := "Title", body := .property { type := "string" } },
   .add (some 0) { name := "Keep", body := .property { type := "string" } },
   .add none (Declaration.ofClass "Drop" [] .null),
   .add (some 2) { name := "Page", body := .property { type := "int?" } },
   .add (some 3) { name := "Line", body := .property { type := "int?" } },
   .rollback 2,
   .add none (Declaration.ofClass "Drop" [] .null),
   .freeze,
   .rollback 0]

theorem proper_shelfEdits : ∀ e ∈ shelfEdits, e.Proper := by
  simp [shelfEdits, Edit.Proper, Declaration.IsFresh, Declaration.members?, Declaration.ofClass]

/-- The edits above lead to a sound model: the two classes are left, and the member of the
first. -/
theorem sound_shelfEdits : (∀ e ∈ shelfEdits, e.Proper) ∧
    (Edit.runAll shelfEdits {}).topLevel = [0, 2] ∧ (Edit.runAll shelfEdits {}).Sound :=
  ⟨proper_shelfEdits, by decide,
    sound_runAll Identifier.keywordValues shelfEdits proper_shelfEdits⟩

/-- **Returning to a mark is an exact undo**: after any run of proper edits, and any further
proper edits that return to no earlier mark, returning to the mark gives the very model
that the mark was taken of. -/
theorem rollback_runAll (words : List Json) (edits later : List Edit)
    (h : ∀ e ∈ edits, e.Proper) {m : CodeModel}
    (hm : Edit.runAll edits { reserved := words } = m) (hf : m.frozen = false)
    (hl : ∀ e ∈ later, e.Proper ∧ e.StaysAbove m.mark) :
    CodeModel.rollback m.mark (Edit.runAll later m) = .ok () m := by
  rw [← CodeModel.withEntries_nil words] at hm
  obtain ⟨b, ds, hds, hrun⟩ := Edit.runAll_withEntries edits h Coherent.nil
  obtain rfl := hrun.symm.trans hm
  rw [CodeModel.withEntries_mark] at hl ⊢
  obtain ⟨es, hes, -, htake, hlater⟩ :=
    Edit.runAll_withEntries_above (m := b) later hf hl hds (Nat.le_refl _)
  rw [hlater, CodeModel.rollback_withEntries (m := b) hf hes (Int.natCast_nonneg _),
    Int.toNat_natCast, htake, List.take_length]

/-- A class with a member, another class with one that is taken back halfway, and a further
member of the first class: returning to the mark leaves the first class with its member. -/
theorem rollback_shelfEdits :
    let m := Edit.runAll (shelfEdits.take 2) {}
    let later := (shelfEdits.drop 2).take 4 ++
      [.rollback 3, .add (some 0) { name := "Drop", body := .property { type := "string" } }]
    (m.frozen = false ∧ ∀ e ∈ later, e.Proper ∧ e.StaysAbove m.mark) ∧
      (Edit.runAll later m).size = 4 ∧
      CodeModel.rollback m.mark (Edit.runAll later m) = .ok () m := by
  have hproper : ∀ e ∈ shelfEdits.take 2, e.Proper :=
    fun e he => proper_shelfEdits e (List.mem_of_mem_take he)
  have hlater : ∀ e ∈ (shelfEdits.drop 2).take 4 ++
      [.rollback 3, .add (some 0) { name := "Drop", body := .property { type := "string" } }],
      e.Proper ∧ e.StaysAbove 2 := by
    simp [shelfEdits, Edit.Proper, Edit.StaysAbove, Declaration.IsFresh, Declaration.members?,
      Declaration.ofClass]
  exact ⟨⟨by decide, hlater⟩, by decide,
    rollback_runAll Identifier.keywordValues _ _ hproper rfl (by decide) hlater⟩

end ClientGen
