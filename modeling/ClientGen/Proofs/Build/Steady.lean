import ClientGen.Generation
import ClientGen.Proofs.Code.Operations

/-!
# Steady steps

The steps of a building work on a model and a ledger. Three things are true of every one of
them, whatever it is for, and they are put together here in one notion, the **steady** step
(`ClientGen.Steady`), so that going through a step once settles them all:

* it is **blind** to the ledger: on workbenches with the same model it does the same to the
  model and ends in the same way;
* it stays **over a base** (`ClientGen.Over`): the entries that the model started from
  remain its first entries, unchanged, whether the step fails or not;
* every declaration it adds has a certain **trait**, and its result has a certain property.

A steady step in a guard can be taken back: a guarded step that meets an issue leaves
exactly the model it began with (`ClientGen.guarded_of_issue`).
-/

namespace ClientGen

open Build

/-! ### Models over a base -/

/-- The model of a building whose declarations are laid out from entries. -/
def CodeModel.ofEntries (ds : List Declaration) : CodeModel :=
  CodeModel.withEntries {} ds

/-- A property of declarations that depends neither on their comments nor on the places of
their members. -/
structure Trait where
  /-- The property. -/
  holds : Declaration → Prop
  /-- Comments do not matter. -/
  commented : ∀ {d : Declaration} (comment : Json), holds d → holds (d.commented comment)
  /-- The places of members do not matter. -/
  mapMembers : ∀ {d : Declaration} (f : List Nat → List Nat), holds d → holds (d.mapMembers f)

/-- **A model over a base** is laid out from coherent entries that begin with the base and
have a trait. -/
def Over (T : Trait) (base : List Declaration) (m : CodeModel) : Prop :=
  ∃ ds : List Declaration, Coherent ds ∧ base <+: ds ∧ (∀ d ∈ ds, T.holds d) ∧
    m = CodeModel.ofEntries ds

variable {T : Trait} {base : List Declaration} {α β : Type}

theorem Over.of_prefix {lower : List Declaration} {m : CodeModel} (hb : lower <+: base)
    (h : Over T base m) : Over T lower m := by
  obtain ⟨ds, hds, hprefix, hT, rfl⟩ := h
  exact ⟨ds, hds, hb.trans hprefix, hT, rfl⟩

theorem Over.nil : Over T [] {} :=
  ⟨[], Coherent.nil, List.prefix_rfl, by simp, rfl⟩

/-- A declaration of a model over a base has the trait. -/
theorem Over.atPlace {m : CodeModel} (h : Over T base m) {i : Nat} {d : Declaration}
    (hd : m.atPlace i = .ok d) : T.holds d := by
  obtain ⟨ds, -, -, hT, rfl⟩ := h
  rw [CodeModel.ofEntries, CodeModel.atPlace_withEntries] at hd
  split at hd
  · rename_i e he
    cases hd
    exact T.mapMembers _ (hT e (List.mem_of_getElem? he))
  · cases hd

theorem Over.get {m : CodeModel} (h : Over T base m) {i : Int} {d : Declaration}
    (hd : m.get i = .ok d) : T.holds d := by
  rw [CodeModel.get] at hd
  split at hd
  · exact h.atPlace hd
  · cases hd

theorem Over.getClass {m : CodeModel} (h : Over T base m) {i : Int} {r : Declaration × List Nat}
    (hr : m.getClass i = .ok r) : T.holds r.1 := by
  obtain ⟨d, hd, hr⟩ := Outcome.bind_eq_ok.1 hr
  split at hr
  · cases hr
    exact h.get hd
  · cases hr

theorem Over.members {m : CodeModel} (h : Over T base m) {i : Int} {ds : List Declaration}
    (hds : m.members i = .ok ds) {d : Declaration} (hd : d ∈ ds) : T.holds d := by
  obtain ⟨r, -, hplaces⟩ := Outcome.bind_eq_ok.1 hds
  obtain ⟨place, -, hplace⟩ := Outcome.of_mem_mapM hplaces hd
  exact h.atPlace hplace

/-- The declarations at the top level have no owner. -/
theorem Over.parent_of_mem_topLevel {m : CodeModel} (h : Over T base m) {i : Nat}
    (hi : i ∈ m.topLevel) {d : Declaration} (hd : m.get i = .ok d) : d.parent = none := by
  obtain ⟨ds, -, -, -, rfl⟩ := h
  obtain ⟨e, he, hparent⟩ := mem_placesOf.1 hi
  rw [CodeModel.ofEntries, CodeModel.get_withEntries, he] at hd
  cases hd
  rw [settle_parent, hparent]

/-! ### Runs that agree -/

/-- **Two runs agree** when they end in the same way with the same model, which is over the
base. The property is that of the result. -/
inductive Agree (T : Trait) (base : List Declaration) (Q : α → Prop) :
    EStateM.Result Failure Workbench α → EStateM.Result Failure Workbench α → Prop
  | ok {a : α} {w v : Workbench} (hm : w.model = v.model) (ho : Over T base w.model) (hQ : Q a) :
    Agree T base Q (.ok a w) (.ok a v)
  | error {e : Failure} {w v : Workbench} (hm : w.model = v.model) (ho : Over T base w.model) :
    Agree T base Q (.error e w) (.error e v)

variable {Q : α → Prop} {R : β → Prop}

theorem Agree.bind {x y : Build α} {f g : α → Build β} {w v : Workbench}
    (hx : Agree T base Q (x w) (y v))
    (hf : ∀ {a w' v'}, x w = .ok a w' → Q a → w'.model = v'.model → Over T base w'.model →
      Agree T base R (f a w') (g a v')) :
    Agree T base R ((x >>= f) w) ((y >>= g) v) := by
  rw [Session.bind_run, Session.bind_run]
  generalize hr : x w = r at hx hf
  generalize y v = s at hx
  cases hx with
  | ok hm ho hQ => exact hf rfl hQ hm ho
  | error hm ho => exact .error hm ho

/-- **A steady step** over a base: runs on the same model agree. -/
def Steady (T : Trait) (base : List Declaration) (Q : α → Prop) (x : Build α) : Prop :=
  ∀ w v : Workbench, w.model = v.model → Over T base w.model → Agree T base Q (x w) (x v)

/-- A step of a building, which has no result. -/
abbrev SteadyStep (T : Trait) (base : List Declaration) (x : Build Unit) : Prop :=
  Steady T base (fun _ => True) x

namespace Steady

theorem over_of_ok {x : Build α} (h : Steady T base Q x) {w w' : Workbench} {a : α}
    (ho : Over T base w.model) (hx : x w = .ok a w') : Over T base w'.model := by
  have hagree := h w w rfl ho
  rw [hx] at hagree
  cases hagree with
  | ok _ ho' => exact ho'

/-! ### Sequences and choices -/

theorem pure {a : α} (h : Q a) : Steady T base Q (Pure.pure a) :=
  fun _ _ hm ho => .ok hm ho h

theorem throw {e : Failure} : Steady T base Q (throw e : Build α) :=
  fun _ _ hm ho => .error hm ho

theorem bind {x : Build α} {f : α → Build β} (hx : Steady T base Q x)
    (hf : ∀ a, Q a → Steady T base R (f a)) : Steady T base R (x >>= f) :=
  fun w v hm ho => (hx w v hm ho).bind fun _ ha hm' ho' => hf _ ha _ _ hm' ho'

theorem ite {c : Bool} {x y : Build α} (hx : c = true → Steady T base Q x)
    (hy : c = false → Steady T base Q y) : Steady T base Q (if c = true then x else y) := by
  cases c with
  | true => exact hx rfl
  | false => exact hy rfl

theorem forM {f : β → Build PUnit} {bs : List β} (h : ∀ b ∈ bs, SteadyStep T base (f b)) :
    SteadyStep T base (bs.forM f) := by
  induction bs with
  | nil => exact pure trivial
  | cons b bs ih =>
    exact bind (h b List.mem_cons_self) fun _ _ =>
      ih fun b' hb' => h b' (List.mem_cons_of_mem b hb')

/-! ### Looking -/

theorem lift {o : Outcome α} (h : ∀ a, o = .ok a → Q a) :
    Steady T base Q (liftM o : Build α) := by
  intro w v hm ho
  rw [Session.lift_run, Session.lift_run]
  cases o with
  | ok a => exact .ok hm ho (h a rfl)
  | error e => exact .error hm ho

theorem look {f : CodeModel → Outcome α} (h : ∀ m a, Over T base m → f m = .ok a → Q a) :
    Steady T base Q (look f) := by
  intro w v hm ho
  have hw : Build.look f w = (liftM (f w.model) : Build α) w := rfl
  have hv : Build.look f v = (liftM (f w.model) : Build α) v := by rw [hm]; rfl
  rw [hw, hv]
  exact lift (fun a ha => h _ a ho ha) w v hm ho

/-! ### Logging -/

theorem write (level : LogLevel) (text : String) : SteadyStep T base (write level text) :=
  fun _ _ hm ho => .ok hm ho trivial

/-! ### Adding -/

/-- Adding a declaration with the trait, under an owner that is not counted from the end. -/
theorem insert {owner : Option Int} {d : Declaration} (ho : ∀ o, owner = some o → 0 ≤ o)
    (hd : d.IsFresh) (hT : T.holds (d.under owner)) :
    Steady T base (fun place => base.length ≤ place) (onModel (CodeModel.insert owner d)) := by
  intro w v hm hover
  obtain ⟨ds, hds, hprefix, hTs, hw⟩ := hover
  rw [onModel, onModel, ← hm, hw, CodeModel.ofEntries]
  rcases CodeModel.insert_withEntries (m := {}) rfl hds ho hd with ⟨e, hrun⟩ | ⟨ha, hrun⟩
  · rw [hrun]
    exact .error rfl ⟨ds, hds, hprefix, hTs, rfl⟩
  · rw [hrun]
    have hTs' : ∀ e ∈ ds ++ [d.under owner], T.holds e := by
      intro e he
      rcases List.mem_append.1 he with he | he
      · exact hTs e he
      · rw [List.mem_singleton.1 he]
        exact hT
    exact .ok rfl ⟨_, hds.snoc ha, hprefix.trans (List.prefix_append _ _), hTs', rfl⟩
      hprefix.length_le

theorem addMember {owner : Int} {d : Declaration} (ho : 0 ≤ owner) (hd : d.IsFresh)
    (hT : T.holds (d.under (some owner))) : SteadyStep T base (addMember owner d) :=
  bind (insert (fun _ h => Option.some.inj h ▸ ho) hd hT) fun _ _ => pure trivial

theorem addClass {owner : Option Int} {d : Declaration} (ho : ∀ o, owner = some o → 0 ≤ o)
    (hd : d.IsFresh) (hT : T.holds (d.under owner)) :
    Steady T base (fun place => (base.length : Int) ≤ place) (addClass owner d) :=
  bind (insert ho hd hT) fun _ h => pure (Int.ofNat_le.2 h)

/-! ### Comments -/

theorem setComment {index : Int} (h : (base.length : Int) ≤ index) (comment : Json) :
    SteadyStep T base (onModel (CodeModel.setComment index comment)) := by
  intro w v hm hover
  obtain ⟨ds, hds, hprefix, hTs, hw⟩ := hover
  obtain ⟨i, rfl⟩ := Int.eq_ofNat_of_zero_le (Int.le_trans (Int.natCast_nonneg _) h)
  rw [onModel, onModel, ← hm, hw, CodeModel.ofEntries, CodeModel.setComment_withEntries]
  by_cases hi : i < ds.length
  · rw [if_pos hi]
    have hbase : base <+: ds.modify i (Declaration.commented comment) := by
      rw [List.prefix_iff_getElem?] at hprefix ⊢
      intro j hj
      have hij : i ≠ j := by omega
      rw [getElem?_commented, hprefix j hj, Option.map_some, if_neg hij]
    have hTs' : ∀ e ∈ ds.modify i (Declaration.commented comment), T.holds e := by
      intro e he
      obtain ⟨j, hj⟩ := List.mem_iff_getElem?.1 he
      rw [getElem?_commented] at hj
      obtain ⟨d, hd, rfl⟩ := Option.map_eq_some_iff.1 hj
      have hold := hTs d (List.mem_of_getElem? hd)
      split
      · exact T.commented comment hold
      · exact hold
    exact .ok rfl ⟨_, hds.commented i comment, hbase, hTs', rfl⟩ trivial
  · rw [if_neg hi]
    exact .error rfl ⟨ds, hds, hprefix, hTs, rfl⟩

end Steady

/-! ### Guards -/

/-- **A guarded step that meets an issue leaves the model as it was.** -/
theorem guarded_of_issue {location : String} {step : Build Unit} {w w' : Workbench} {i : Issue}
    {ds : List Declaration} (hw : w.model = .ofEntries ds) (h : step w = .error (.issue i) w')
    (ho : Over T ds w'.model) :
    guarded location step w = .ok () ⟨w.model, w'.ledger.record (i.orAt location)⟩ := by
  obtain ⟨es, hes, hprefix, -, hw'⟩ := ho
  have hback : CodeModel.rollback w.model.mark w'.model = .ok () w.model := by
    rw [hw', hw, CodeModel.ofEntries, CodeModel.ofEntries, CodeModel.withEntries_mark,
      CodeModel.rollback_withEntries (m := {}) rfl hes (Int.natCast_nonneg _), Int.toNat_natCast,
      ← List.prefix_iff_eq_take.1 hprefix]
  rw [guarded, h]
  simp only [Session.bind_run, onModel, hback, Session.modify_run]

/-- Guarding two steps whose runs agree, whatever the base. -/
theorem Agree.guarded {location : String} {x y : Build Unit} {w v : Workbench}
    (hm : w.model = v.model) (ho : Over T base w.model)
    (h : ∀ base, Over T base w.model → Agree T base (fun _ => True) (x w) (y v)) :
    Agree T base (fun _ => True) (guarded location x w) (guarded location y v) := by
  obtain ⟨ds, hds, hprefix, hTs, hw⟩ := id ho
  have hagree := h ds ⟨ds, hds, List.prefix_rfl, hTs, hw⟩
  generalize hr : x w = r at hagree
  generalize hs : y v = s at hagree
  cases hagree with
  | ok hm' ho' _ =>
    rw [ClientGen.guarded, ClientGen.guarded, hr, hs]
    exact .ok hm' (ho'.of_prefix hprefix) trivial
  | @error e w' v' hm' ho' =>
    cases e with
    | issue i =>
      rw [guarded_of_issue hw hr ho', guarded_of_issue (hm ▸ hw) hs (hm' ▸ ho')]
      exact .ok hm ho trivial
    | fault f =>
      rw [ClientGen.guarded, ClientGen.guarded, hr, hs]
      exact .error hm' (ho'.of_prefix hprefix)

/-- A guard keeps a step steady. -/
theorem Steady.guarded {location : String} {step : Build Unit}
    (hstep : ∀ base, SteadyStep T base step) : SteadyStep T base (guarded location step) :=
  fun w v hm ho => .guarded hm ho fun base ho => hstep base w v hm ho

end ClientGen
