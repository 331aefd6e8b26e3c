import ClientGen.Proofs.Code.Edits

/-!
# Where an addition lands

The owner of an addition is an index, and an index may be counted from the last declaration. An
addition looks its owner up twice: for the names to check, before the declaration is there, and for
the list of members, afterwards. In between, every index that is counted from the end moves on to
the next declaration.

An addition **lands** (`ClientGen.CodeModel.Lands`) if a failure leaves the model as it was, and a
success makes the declaration the last member of the class whose names were checked and changes no
other class. In any model, this is so exactly for the owners that are counted from the start, and
for the additions that are turned away by the check (`ClientGen.CodeModel.lands_iff`). Any other
addition either fails and leaves a declaration behind that neither a scope nor the journal has, or
it becomes a member of the class after its owner, which may be the declaration itself.
-/

namespace ClientGen.CodeModel

open Outcome

/-! ### Scopes by places -/

/-- The places that a scope lists: the top level, or the class at a place. -/
def placesIn (m : CodeModel) : Option Nat → Option (List Nat)
  | none => some m.topLevel
  | some p => m.nodes[p]?.bind Declaration.members?

/-- **One declaration more**: it is the last declaration and the last member of one scope, and the
other scopes are as before. -/
structure Gains (m : CodeModel) (owner : Option Int) (d : Declaration) (scope : Option Nat)
    (m' : CodeModel) : Prop where
  size : m'.size = m.size + 1
  declared : m'.nodes[m.size]? = some (d.under owner)
  last : ∃ places, m.placesIn scope = some places ∧ m'.placesIn scope = some (places ++ [m.size])
  others : ∀ other, other ≠ scope → other ≠ some m.size → m'.placesIn other = m.placesIn other

/-- **An addition lands**: if it fails, the model is as it was, and if not, the class whose names
were checked has the new place as its last member, and no other class has changed. -/
structure Lands (m : CodeModel) (owner : Int) (d : Declaration) : Prop where
  refused : ∀ e m', insert (some owner) d m = .error e m' → m' = m
  added : ∀ i m', insert (some owner) d m = .ok i m' → i = m.size ∧ ∃ p places,
    m.place? owner = some p ∧ m.scope (some owner) = .ok places ∧
      m.placesIn (some p) = some places ∧ m.Gains (some owner) d (some p) m'

/-- An addition is turned away before anything is changed. -/
def TurnsAway (m : CodeModel) (owner : Int) (d : Declaration) : Prop :=
  m.frozen = true ∨ ∃ e, m.checkName (some owner) d = .error e

/-- The model between the two looks at the owner: the declaration is there and in no scope. -/
def pushed (m : CodeModel) (owner : Option Int) (d : Declaration) : CodeModel :=
  { m with nodes := m.nodes.push (d.under owner) }

variable {m : CodeModel} {owner : Option Int} {d : Declaration} {o : Int} {u : Unit}

@[simp] theorem size_pushed : (m.pushed owner d).size = m.size + 1 :=
  Array.size_push _

theorem getElem?_pushed (i : Nat) :
    (m.pushed owner d).nodes[i]? = if i = m.size then some (d.under owner) else m.nodes[i]? :=
  Array.getElem?_push

/-! ### Looking an owner up -/

theorem getClass_eq_ok {r : Declaration × List Nat} :
    m.getClass o = .ok r ↔
      ∃ p, m.place? o = some p ∧ m.nodes[p]? = some r.1 ∧ r.1.members? = some r.2 := by
  obtain ⟨c, places⟩ := r
  rw [getClass, bind_eq_ok, get]
  constructor
  · rintro ⟨c', hget, h⟩
    split at hget
    · rename_i p hp
      rw [atPlace] at hget
      split at hget
      · rename_i hc
        cases hget
        split at h
        · rename_i hmembers
          cases h
          exact ⟨p, hp, hc, hmembers⟩
        · cases h
      · cases hget
    · cases hget
  · rintro ⟨p, hp, hc, hmembers⟩
    exact ⟨c, by simp only [hp, atPlace, hc], by simp only [hmembers]; rfl⟩

/-- The check has looked the owner up. -/
theorem exists_getClass_of_checkName (h : m.checkName (some o) d = .ok u) :
    ∃ r, m.getClass o = .ok r := by
  obtain ⟨taken, htaken, -⟩ := bind_eq_ok.1 h
  obtain ⟨places, hplaces, -⟩ := bind_eq_ok.1 htaken
  obtain ⟨r, hr, -⟩ := bind_eq_ok.1 hplaces
  exact ⟨r, hr⟩

/-- **An owner counted from the end moves on** when a declaration is added. -/
theorem place?_pushed_of_neg {p : Nat} (ho : o < 0) (h : m.place? o = some p) :
    (m.pushed owner d).place? o = some (p + 1) := by
  rw [place?, if_neg (by omega)] at h ⊢
  rw [size_pushed]
  split at h
  · rw [if_pos (by omega), Option.some.injEq]
    cases h
    omega
  · cases h

/-! ### Adding to a scope -/

/-- An addition whose name passes the check, when the owner is a class the second time. -/
theorem insert_of_getClass {p : Nat} {r : Declaration × List Nat} (hf : m.frozen = false)
    (hcheck : m.checkName (some o) d = .ok u) (hp : (m.pushed (some o) d).place? o = some p)
    (hr : (m.pushed (some o) d).getClass o = .ok r) :
    insert (some o) d m = .ok m.size { m.pushed (some o) d with
      nodes := (m.pushed (some o) d).nodes.modify p
        (Declaration.mapMembers fun _ => r.2 ++ [m.size])
      journal := (some o, m.size) :: m.journal } := by
  have hrun : changeScope (some o) (fun places => .ok (places ++ [m.size]))
      { m with nodes := m.nodes.push (d.under (some o)) } = .ok () _ :=
    changeMembers_run (f := fun places => .ok (places ++ [m.size])) hp hr rfl
  rw [insert_run (some o) d hf, hcheck]
  simp only [hrun]
  rfl

/-- An addition whose name passes the check, when the owner is no class the second time. -/
theorem insert_of_getClass_error {e : Failure} (hf : m.frozen = false)
    (hcheck : m.checkName (some o) d = .ok u) (hr : (m.pushed (some o) d).getClass o = .error e) :
    insert (some o) d m = .error e (m.pushed (some o) d) := by
  have hrun : changeScope (some o) (fun places => .ok (places ++ [m.size]))
      { m with nodes := m.nodes.push (d.under (some o)) } = .error e (m.pushed (some o) d) := by
    refine (Session.bind_run_of_ok (Session.get_run (m.pushed (some o) d)) _).trans ?_
    rw [hr]
    rfl
  rw [insert_run (some o) d hf, hcheck]
  simp only [hrun]

/-- A class that has got the place of the last declaration, and no other scope has changed. -/
theorem gains_modify {p : Nat} {r : Declaration × List Nat} (hp : p < m.size)
    (hc : m.nodes[p]? = some r.1) (hmembers : r.1.members? = some r.2)
    (journal : List (Option Int × Nat)) :
    m.Gains owner d (some p) { m.pushed owner d with
      nodes := (m.pushed owner d).nodes.modify p (Declaration.mapMembers fun _ => r.2 ++ [m.size])
      journal } where
  size := by simp [CodeModel.size, pushed]
  declared := by
    rw [Array.getElem?_modify, getElem?_pushed, if_pos rfl, if_neg (by omega)]
  last := by
    refine ⟨r.2, by rw [placesIn, hc, Option.bind_some, hmembers], ?_⟩
    rw [placesIn, Array.getElem?_modify, if_pos rfl, getElem?_pushed, if_neg (by omega), hc]
    simp [hmembers]
  others other hother hnew := by
    cases other with
    | none => rfl
    | some q =>
      have hpq : p ≠ q := fun h => hother (congrArg some h.symm)
      have hq : q ≠ m.size := fun h => hnew (congrArg some h)
      rw [placesIn, Array.getElem?_modify, if_neg hpq, getElem?_pushed, if_neg hq, placesIn]

/-- **A declaration whose name passes the check lands in its scope**, if the owner is counted from
the start. -/
theorem exists_gains_of_checkName (hf : m.frozen = false) (ho : ∀ o, owner = some o → 0 ≤ o)
    (hcheck : m.checkName owner d = .ok u) :
    ∃ m', insert owner d m = .ok m.size m' ∧ m.Gains owner d (owner.map Int.toNat) m' := by
  cases owner with
  | none =>
    refine ⟨{ m.pushed none d with
      topLevel := m.topLevel ++ [m.size], journal := (none, m.size) :: m.journal }, ?_, ?_⟩
    · rw [insert_run none d hf, hcheck]
      rfl
    · refine ⟨size_pushed, ?_, ⟨m.topLevel, rfl, rfl⟩, fun other hother hnew => ?_⟩
      · exact (getElem?_pushed m.size).trans (if_pos rfl)
      · cases other with
        | none => exact absurd rfl hother
        | some q =>
          have hq : q ≠ m.size := fun h => hnew (congrArg some h)
          exact congrArg (Option.bind · Declaration.members?)
            ((getElem?_pushed q).trans (if_neg hq))
  | some o =>
    obtain ⟨p, rfl⟩ := Int.eq_ofNat_of_zero_le (ho o rfl)
    obtain ⟨r, hr⟩ := exists_getClass_of_checkName hcheck
    obtain ⟨q, hplace, hc, hmembers⟩ := getClass_eq_ok.1 hr
    have hp : p < m.size := by
      by_contra hle
      rw [place?_of_le (by omega)] at hplace
      cases hplace
    obtain rfl : p = q := by
      rw [place?_of_lt hp] at hplace
      exact Option.some.inj hplace
    refine ⟨_, insert_of_getClass hf hcheck (place?_of_lt ?_) ((getClass_push hp _).trans hr),
      gains_modify hp hc hmembers _⟩
    rw [size_pushed]
    omega

/-! ### Both looks at the owner -/

theorem insert_of_turnsAway (h : m.TurnsAway o d) : ∃ e, insert (some o) d m = .error e m := by
  by_cases hf : m.frozen = true
  · refine ⟨.fault .frozenModel, ?_⟩
    rw [insert]
    simp [Session.bind_run, hf]
  · obtain ⟨e, he⟩ := h.resolve_left hf
    refine ⟨e, ?_⟩
    rw [insert_run (some o) d (Bool.eq_false_iff.2 hf), he]

theorem of_not_turnsAway (h : ¬m.TurnsAway o d) :
    m.frozen = false ∧ m.checkName (some o) d = .ok () := by
  obtain ⟨hf, hcheck⟩ := not_or.1 h
  refine ⟨Bool.eq_false_iff.2 hf, ?_⟩
  cases hname : m.checkName (some o) d with
  | error e => exact absurd ⟨e, hname⟩ hcheck
  | ok u => rfl

theorem Lands.of_turnsAway (h : m.TurnsAway o d) : m.Lands o d := by
  obtain ⟨e, he⟩ := insert_of_turnsAway h
  constructor
  · intro e' m' hrun
    rw [he] at hrun
    cases hrun
    rfl
  · intro i m' hrun
    rw [he] at hrun
    cases hrun

/-- The two looks at an owner that is counted from the start find the same class. -/
theorem Lands.of_nonneg (ho : 0 ≤ o) : m.Lands o d := by
  by_cases haway : m.TurnsAway o d
  · exact .of_turnsAway haway
  obtain ⟨hf, hcheck⟩ := of_not_turnsAway haway
  obtain ⟨m', hrun, hgains⟩ :=
    exists_gains_of_checkName hf (fun _ h => Option.some.inj h ▸ ho) hcheck
  obtain ⟨r, hr⟩ := exists_getClass_of_checkName hcheck
  obtain ⟨p, hp, hc, hmembers⟩ := getClass_eq_ok.1 hr
  have hplace : o.toNat = p := by
    rw [place?, if_pos ho] at hp
    split at hp
    · exact Option.some.inj hp
    · cases hp
  constructor
  · intro e m'' hrun'
    rw [hrun] at hrun'
    cases hrun'
  · intro i m'' hrun'
    rw [hrun] at hrun'
    cases hrun'
    refine ⟨rfl, p, r.2, hp, by rw [scope, hr]; rfl, by rw [placesIn, hc]; exact hmembers, ?_⟩
    rw [← hplace]
    exact hgains

/-- The second look at an owner that is counted from the end finds the declaration after it. -/
theorem not_lands_of_neg (ho : o < 0) (hpass : ¬m.TurnsAway o d) : ¬m.Lands o d := by
  intro h
  obtain ⟨hf, hcheck⟩ := of_not_turnsAway hpass
  obtain ⟨r, hr⟩ := exists_getClass_of_checkName hcheck
  obtain ⟨p, hp, hc, -⟩ := getClass_eq_ok.1 hr
  have hlt : p < m.size := (Array.getElem?_eq_some_iff.1 hc).1
  cases hsecond : (m.pushed (some o) d).getClass o with
  | error e =>
    -- the declaration stays behind
    have hsame := h.refused _ _ (insert_of_getClass_error hf hcheck hsecond)
    have hsize := congrArg CodeModel.size hsame
    rw [size_pushed] at hsize
    omega
  | ok r' =>
    -- the class after the owner has changed, and the owner has not
    have hrun := insert_of_getClass hf hcheck (place?_pushed_of_neg ho hp) hsecond
    obtain ⟨-, q, -, hq, -, -, hgains⟩ := h.added _ _ hrun
    obtain rfl : p = q := Option.some.inj (hp.symm.trans hq)
    obtain ⟨places, hbefore, hafter⟩ := hgains.last
    rw [placesIn, Array.getElem?_modify, if_neg (by omega), getElem?_pushed, if_neg (by omega)]
      at hafter
    rw [placesIn, hafter] at hbefore
    simp at hbefore

/-- **An addition lands exactly if its owner is counted from the start or it is turned away.** -/
theorem lands_iff (m : CodeModel) (owner : Int) (d : Declaration) :
    m.Lands owner d ↔ 0 ≤ owner ∨ m.TurnsAway owner d := by
  constructor
  · intro h
    by_contra hnot
    obtain ⟨hneg, hpass⟩ := not_or.1 hnot
    exact not_lands_of_neg (Int.not_le.1 hneg) hpass h
  · rintro (ho | haway)
    · exact .of_nonneg ho
    · exact .of_turnsAway haway

/-- A class at the top level. -/
def crateEdits : List Edit :=
  [.add none (Declaration.ofClass "Crate" [] .null)]

/-- A property. -/
def labelProperty : Declaration :=
  { name := "Label", body := .property { type := "string" } }

/-- **Additions that do not land**: to the only class of a model, counted from the end. A property
is refused because it is no class, and stays behind in no scope; a class becomes a member of
itself. -/
theorem not_lands_crate :
    let m := Edit.runAll crateEdits {}
    let lid := Declaration.ofClass "Lid" [] .null
    (∀ e ∈ crateEdits, e.Proper) ∧
    (∃ m', insert (some (-1)) labelProperty m = .error (.fault (.notAClass (-1) "Label")) m' ∧
      m.size = 1 ∧ m'.size = 2 ∧ m'.topLevel = [0] ∧ m'.placesIn (some 0) = some [] ∧
      m'.journal = m.journal) ∧
    (∃ m', insert (some (-1)) lid m = .ok 1 m' ∧ m'.placesIn (some 0) = some [] ∧
      m'.placesIn (some 1) = some [1]) ∧
    ¬m.Lands (-1) labelProperty ∧ ¬m.Lands (-1) lid := by
  have hpass (d : Declaration) (h : (Edit.runAll crateEdits {}).checkName (some (-1)) d = .ok ()) :
      ¬(Edit.runAll crateEdits {}).TurnsAway (-1) d := by
    rintro (hf | ⟨e, he⟩)
    · exact Bool.false_ne_true hf
    · rw [h] at he
      cases he
  refine ⟨?_, ⟨_, rfl, by decide, by decide, by decide, by decide, rfl⟩,
    ⟨_, rfl, by decide, by decide⟩, not_lands_of_neg (by decide) (hpass _ rfl),
    not_lands_of_neg (by decide) (hpass _ rfl)⟩
  simp [crateEdits, Edit.Proper, Declaration.IsFresh, Declaration.members?, Declaration.ofClass]

end ClientGen.CodeModel
