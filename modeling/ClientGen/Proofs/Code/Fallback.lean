import ClientGen.Proofs.Code.Placement
import ClientGen.Proofs.Code.ScopeNames
import ClientGen.Proofs.Naming.Safe

/-!
# Safe names that are taken

A safe name for a new member is compared with the names around it twice. When it is made, its
letters and digits are told from the reserved words, the names in the scope and the name of the
class in any letter case, and the suffix is put behind them once. When the member is added, its
name is told from the names in the scope and that of the class in the very letter case.

So the letters and digits alone are never refused. A name that was **fallen back to**
(`ClientGen.Identifier.FallsBack`), the suffix alone or behind a name that is reserved, was compared
with nothing, and the addition is refused exactly if such a name is taken
(`ClientGen.collides_iff_fallsBack`), after every run of edits and in every scope.

Edits may fail, and what they changed before stays. All names are still texts then
(`ClientGen.isTextual_runAll`), which is all that the comparisons need. With owners counted from the
end, a class may be left with a place that is no longer there; it has no safe name.
-/

namespace ClientGen

/-! ### The name that is fallen back to -/

namespace Identifier

/-- **The letters and digits of a candidate**, with the suffix in front unless they start with a
letter; none if there are none. -/
def plain? (suffix : String) (candidate : Option String) : Option String :=
  if letters candidate = "" then none else some (fronted suffix (letters candidate))

/-- **The name that is fallen back to** for a candidate: the suffix if there are no letters and
digits, and otherwise these with the suffix behind, if they are a reserved word in any letter
case. -/
inductive FallsBack (suffix : String) (reserved : List String) (candidate : Option String) :
    String → Prop
  | unlettered (h : plain? suffix candidate = none) : FallsBack suffix reserved candidate suffix
  | reserved {name word : String} (h : plain? suffix candidate = some name)
      (hword : word ∈ reserved) (heq : Text.lower name = Text.lower word) :
      FallsBack suffix reserved candidate (name ++ suffix)

variable {suffix name : String} {reserved : List String} {candidate : Option String}

theorem safe_of_plain?_eq_none (h : plain? suffix candidate = none) :
    safe candidate suffix reserved = suffix := by
  rw [plain?, letters] at h
  rw [safe]
  cases hkept : (candidate.map kept).getD [] with
  | nil => rfl
  | cons c cs =>
    rw [hkept, if_neg (by simp)] at h
    cases h

theorem safe_of_plain?_eq_some (h : plain? suffix candidate = some name) :
    safe candidate suffix reserved = if isReserved name reserved then name ++ suffix else name := by
  rw [plain?, letters] at h
  rw [safe]
  cases hkept : (candidate.map kept).getD [] with
  | nil =>
    rw [hkept, if_pos rfl] at h
    cases h
  | cons c cs =>
    have hfirst : startsWithLetter (String.ofList (c :: cs)) = isFirstChar c := by
      rw [startsWithLetter, String.toList_ofList]
      rfl
    rw [hkept, if_neg (by simp), Option.some.injEq, fronted, hfirst] at h
    rw [← h]

/-- **A safe name is the plain one or the one that is fallen back to.** The plain one is no
reserved word. -/
theorem plain?_or_fallsBack (suffix : String) (reserved : List String) (candidate : Option String) :
    (plain? suffix candidate = some (safe candidate suffix reserved) ∧
      safe candidate suffix reserved ∉ reserved) ∨
      FallsBack suffix reserved candidate (safe candidate suffix reserved) := by
  cases hplain : plain? suffix candidate with
  | none =>
    rw [safe_of_plain?_eq_none hplain]
    exact .inr (.unlettered hplain)
  | some name =>
    rw [safe_of_plain?_eq_some hplain]
    cases hreserved : isReserved name reserved with
    | true =>
      obtain ⟨word, hword, heq⟩ := isReserved_iff.1 hreserved
      exact .inr (.reserved hplain hword heq)
    | false =>
      refine .inl ⟨rfl, fun hmem => Bool.false_ne_true (hreserved.symm.trans ?_)⟩
      exact isReserved_iff.2 ⟨name, hmem, rfl⟩

/-- A suffix that is not empty tells the two apart. -/
theorem FallsBack.ne_plain? (hs : suffix ≠ "") (h : FallsBack suffix reserved candidate name) :
    plain? suffix candidate ≠ some name := by
  intro hplain
  cases h with
  | unlettered h =>
    rw [h] at hplain
    cases hplain
  | @reserved plain word h =>
    rw [h] at hplain
    have hlength := congrArg String.length (Option.some.inj hplain)
    rw [String.length_append] at hlength
    exact hs (String.length_eq_zero_iff.1 (by omega))

end Identifier

/-! ### Scopes whose names are texts -/

namespace CodeModel

variable {m : CodeModel} {owner : Option Int} {names : List String} {own : Option String}
  {d : Declaration} {r : String}

/-- `Reads m owner names own`: the names in a scope, and the name of its class if it is one. -/
inductive Reads (m : CodeModel) : Option Int → List String → Option String → Prop
  | top {names : List String} (h : m.memberNames none = .ok (names.map .str)) :
      Reads m none names none
  | ofClass {o : Int} {c : Declaration} {names : List String} {own : String}
      (h : m.memberNames (some o) = .ok (names.map .str)) (hc : m.get o = .ok c)
      (hown : c.name = .str own) : Reads m (some o) names (some own)

/-- The addition of a declaration is refused because of its name. -/
def Collides (m : CodeModel) (owner : Option Int) (d : Declaration) : Prop :=
  ∃ (i : Issue) (m' : CodeModel), i.kind = .identifierCollision ∧
    insert owner d m = .error (.issue i) m'

theorem safeMemberName_of_reads {words : List String} (hwords : m.reserved = words.map .str)
    (h : m.Reads owner names own) (candidate : Option String) (suffix : String)
    (extra : List String) :
    m.safeMemberName owner (Identifier.ofCandidate candidate) (.str suffix) (extra.map .str) =
      .ok (.str (Identifier.safe candidate suffix (words ++ names ++ extra ++ own.toList))) := by
  have havoided : m.avoided owner (extra.map .str) =
      .ok ((words ++ names ++ extra ++ own.toList).map .str) := by
    obtain ⟨keys, hkeys⟩ : ∃ keys, (extra.map Json.str).mapM Json.asKey = .ok keys :=
      Outcome.exists_mapM (by simp [Json.asKey])
    obtain rfl := asKeys_eq_ok hkeys
    cases h with
    | top h => simp [avoided, h, hkeys, hwords, bind, Except.bind, pure, Except.pure]
    | ofClass h hc hown =>
      simp [avoided, h, hkeys, hwords, hc, hown, bind, Except.bind, pure, Except.pure]
  rw [safeMemberName, havoided]
  change Identifier.safeWith _ _ (Identifier.asSet (List.map _ _)) = _
  rw [Identifier.asSet_texts, Identifier.safeWith_ofCandidate]

/-- The check refuses the name of another declaration of the scope and that of its class. -/
theorem checkName_of_taken (h : m.Reads owner names own) (hd : d.name = .str r)
    (hc : d.isConstructor = false) (htaken : r ∈ names ∨ own = some r) :
    ∃ i : Issue, i.kind = .identifierCollision ∧ m.checkName owner d = .error (.issue i) := by
  rcases h with ⟨hnames⟩ | ⟨hnames, hget, hown⟩
  · have hany := any_sameKey_iff.2 (List.mem_map_of_mem (htaken.resolve_right (by simp)))
    simp only [checkName, hnames, bind, Except.bind, hd, Json.asKey, hany, if_true,
      checkName.collision, Json.written_str]
    exact ⟨_, rfl, rfl⟩
  · simp only [checkName, hnames, hget, hown, bind, Except.bind, hd, Json.asKey,
      checkName.collision, Json.written_str]
    split
    · exact ⟨_, rfl, rfl⟩
    · rename_i hfree
      have hsame := htaken.resolve_left fun hmem =>
        hfree (any_sameKey_iff.2 (List.mem_map_of_mem hmem))
      obtain rfl := Option.some.inj hsame
      simp only [Json.sameKey_str, beq_self_eq_true, hc, Bool.not_false, Bool.and_self, if_true]
      exact ⟨_, rfl, rfl⟩

/-- The check passes any other name. -/
theorem checkName_of_free (h : m.Reads owner names own) (hd : d.name = .str r)
    (hfree : ¬(r ∈ names ∨ own = some r)) : m.checkName owner d = .ok () := by
  obtain ⟨hnames', hown'⟩ := not_or.1 hfree
  have hany : (names.map .str).any (Json.sameKey (.str r)) = false :=
    any_sameKey_eq_false (by simpa using hnames')
  rcases h with ⟨hnames⟩ | ⟨hnames, hget, hown⟩
  · simp only [checkName, hnames, bind, Except.bind, hd, Json.asKey, hany]
    rfl
  · have hne : (r == _) = false := beq_eq_false_iff_ne.2 fun h => hown' (congrArg some h.symm)
    simp only [checkName, hnames, hget, hown, bind, Except.bind, hd, Json.asKey, hany,
      Json.sameKey_str, hne]
    rfl

/-- **An addition is refused for its name exactly if the name is taken**, and otherwise the
declaration becomes the last member of the scope. -/
theorem collides_iff_taken (hf : m.frozen = false) (ho : ∀ o, owner = some o → 0 ≤ o)
    (h : m.Reads owner names own) (hd : d.name = .str r) (hc : d.isConstructor = false) :
    (m.Collides owner d ↔ r ∈ names ∨ own = some r) ∧
      (¬m.Collides owner d → ∃ m', insert owner d m = .ok m.size m' ∧
        m.Gains owner d (owner.map Int.toNat) m') := by
  by_cases htaken : r ∈ names ∨ own = some r
  · have hcollides : m.Collides owner d := by
      obtain ⟨i, hkind, hcheck⟩ := checkName_of_taken h hd hc htaken
      refine ⟨i, m, hkind, ?_⟩
      rw [insert_run owner d hf, hcheck]
    exact ⟨⟨fun _ => htaken, fun _ => hcollides⟩, fun hnot => absurd hcollides hnot⟩
  · obtain ⟨m', hrun, hgains⟩ := exists_gains_of_checkName hf ho (checkName_of_free h hd htaken)
    refine ⟨⟨?_, fun h => absurd h htaken⟩, fun _ => ⟨m', hrun, hgains⟩⟩
    rintro ⟨i, m'', -, hrun'⟩
    rw [hrun] at hrun'
    cases hrun'

/-! ### Names that stay texts -/

open Session

/-- **A model whose names are all texts**, the reserved words included. -/
structure IsTextual (words : List String) (m : CodeModel) : Prop where
  names : ∀ (i : Nat) (d : Declaration), m.nodes[i]? = some d → ∃ name : String, d.name = .str name
  reserved : m.reserved = words.map .str

variable {words : List String}

theorem IsTextual.changeScope (h : m.IsTextual words) (owner : Option Int)
    (f : List Nat → Outcome (List Nat)) : ((changeScope owner f).after m).IsTextual words := by
  rcases owner with _ | o
  · refine after_bind h fun _ _ hget _ => ?_
    cases hget
    exact after_lift_bind h fun _ => ⟨h.names, h.reserved⟩
  · refine after_bind h fun _ _ hget _ => ?_
    cases hget
    refine after_lift_bind h fun _ => after_lift_bind h fun places => ?_
    split
    · refine ⟨fun i d hd => ?_, h.reserved⟩
      change (m.nodes.modify _ _)[i]? = some d at hd
      rw [Array.getElem?_modify] at hd
      split at hd
      · obtain ⟨c, hc, rfl⟩ := Option.map_eq_some_iff.1 hd
        rw [Declaration.mapMembers_name]
        exact h.names i c hc
      · exact h.names i d hd
    · exact h

theorem IsTextual.insert (h : m.IsTextual words) (owner : Option Int)
    (hd : ∃ name : String, d.name = .str name) :
    ((insert owner d).after m).IsTextual words := by
  refine after_bind h fun _ _ hget _ => ?_
  cases hget
  split
  · exact h
  · -- from here on the declaration is there, whether its scope is found again or not
    refine after_lift_bind h fun _ => after_bind ?_ fun _ _ _ hpushed => ?_
    · refine ⟨fun i e he => ?_, h.reserved⟩
      change (m.pushed owner d).nodes[i]? = some e at he
      rw [getElem?_pushed] at he
      split at he
      · cases he
        exact hd
      · exact h.names i e he
    · exact after_bind (hpushed.changeScope owner _) fun _ _ _ h' =>
        ⟨h'.names, h'.reserved⟩

theorem IsTextual.undoTimes (h : m.IsTextual words) (n : Nat) :
    ((undoTimes n).after m).IsTextual words := by
  induction n generalizing m with
  | zero => exact h
  | succ n ih =>
    refine after_bind ?_ fun _ _ _ h' => ih h'
    refine after_bind h fun _ _ hget _ => ?_
    cases hget
    split
    · exact h
    · -- the journal is shortened first, then the scope, and the declarations last
      refine after_bind ?_ fun _ _ _ h' => ?_
      · exact ⟨h.names, h.reserved⟩
      · refine after_bind (h'.changeScope _ _) fun _ t _ h'' => ⟨fun i d hd => ?_, h''.reserved⟩
        change t.nodes.pop[i]? = some d at hd
        rw [Array.getElem?_pop] at hd
        split at hd
        · exact h''.names i d hd
        · cases hd

/-- A live scope: the top level, or the place of a class. -/
def IsLive (m : CodeModel) (owner : Option Int) : Prop :=
  ∀ o, owner = some o → ∃ (p : Nat) (c : Declaration), o = p ∧ m.nodes[p]? = some c ∧
    c.isClass = true

theorem IsTextual.exists_reads (h : m.IsTextual words) (ho : m.IsLive owner) {found : List Json}
    (hfound : m.memberNames owner = .ok found) : ∃ names own, m.Reads owner names own := by
  have hatPlace {p : Nat} {d : Declaration} (hd : m.atPlace p = .ok d) : m.nodes[p]? = some d := by
    rw [atPlace] at hd
    split at hd
    · cases hd
      assumption
    · cases hd
  obtain ⟨names, rfl⟩ : ∃ names : List String, found = names.map .str := by
    refine Json.exists_texts fun name hname => ?_
    obtain ⟨places, -, hmap⟩ := Outcome.bind_eq_ok.1 hfound
    obtain ⟨p, -, hp⟩ := Outcome.of_mem_mapM hmap hname
    obtain ⟨d, hd, hname⟩ := Outcome.bind_eq_ok.1 hp
    obtain ⟨text, htext⟩ := h.names p d (hatPlace hd)
    cases hname
    rw [htext]
    rfl
  rcases owner with _ | o
  · exact ⟨names, none, .top hfound⟩
  · obtain ⟨p, c, rfl, hc, -⟩ := ho o rfl
    obtain ⟨own, hown⟩ := h.names p c hc
    have hlt : p < m.size := (Array.getElem?_eq_some_iff.1 hc).1
    refine ⟨names, some own, .ofClass hfound ?_ hown⟩
    simp only [get, place?_of_lt hlt, atPlace, hc]

end CodeModel

/-! ### Every run -/

/-- An edit that adds a declaration whose name is a text, or none. -/
def Edit.Named : Edit → Prop
  | .add _ d => ∃ name : String, d.name = .str name
  | .rollback _ | .freeze => True

open CodeModel Identifier Session

/-- **An edit keeps names texts**, whether it fails or not. -/
theorem CodeModel.IsTextual.perform {words : List String} {m : CodeModel} (h : m.IsTextual words)
    {e : Edit} (he : e.Named) :
    (e.perform.after m).IsTextual words := by
  cases e with
  | add owner d => exact after_bind (h.insert owner he) fun _ _ _ h' => h'
  | rollback mark =>
    refine after_bind h fun _ _ hget _ => ?_
    cases hget
    split
    · exact h
    · exact h.undoTimes _
  | freeze => exact ⟨h.names, h.reserved⟩

theorem isTextual_runAll (words : List String) {edits : List Edit} (h : ∀ e ∈ edits, e.Named) :
    (Edit.runAll edits { reserved := words.map .str }).IsTextual words := by
  have hstart : IsTextual words { reserved := words.map .str } := ⟨by simp, rfl⟩
  generalize ({ reserved := words.map .str } : CodeModel) = m at hstart ⊢
  induction edits generalizing m with
  | nil => exact hstart
  | cons e rest ih =>
    obtain ⟨he, hrest⟩ := List.forall_mem_cons.1 h
    exact ih hrest _ (hstart.perform he)

/-- A live scope can be read after edits that count owners and marks from the start. -/
theorem exists_memberNames_runAll (words : List String) {edits : List Edit}
    (h : ∀ e ∈ edits, e.Proper) {m : CodeModel}
    (hm : Edit.runAll edits { reserved := words.map .str } = m) {owner : Option Int}
    (ho : m.IsLive owner) : ∃ names, m.memberNames owner = .ok names := by
  rw [← CodeModel.withEntries_nil] at hm
  obtain ⟨base, ds, hds, hrun⟩ := Edit.runAll_withEntries edits h Coherent.nil
  obtain rfl := hrun.symm.trans hm
  rcases owner with _ | o
  · exact ⟨_, memberNames_none⟩
  · obtain ⟨p, _, rfl, hc, hclass⟩ := ho o rfl
    obtain ⟨c, hentry, rfl⟩ := exists_of_withEntries_nodes hc
    refine ⟨_, memberNames_withEntries_some hentry ?_⟩
    rw [Declaration.isClass, settle_members?] at hclass
    split at hclass
    · assumption
    · cases hclass

/-- **Refused only by a fallback.** For a declaration with a safe name, other than a constructor:
it is refused for its name exactly if that is not the plain one but the one that was fallen back
to, and the scope or its class has that very name. Otherwise it becomes the last member of the
scope. -/
def CodeModel.CollidesByFallback (m : CodeModel) (words : List String) (owner : Option Int)
    (candidate : Option String) (suffix : String) (extra : List String) (name : String) : Prop :=
  ∃ (names : List String) (own : Option String), m.Reads owner names own ∧
    ∀ d : Declaration, d.name = .str name → d.isConstructor = false →
      (m.Collides owner d ↔ plain? suffix candidate ≠ some name ∧
        FallsBack suffix (words ++ names ++ extra ++ own.toList) candidate name ∧
        (name ∈ names ∨ own = some name)) ∧
      (¬m.Collides owner d → ∃ m', insert owner d m = .ok m.size m' ∧
        m.Gains owner d (owner.map Int.toNat) m')

theorem collidesByFallback_safe {words : List String} {m : CodeModel} (hf : m.frozen = false)
    {owner : Option Int} (ho : m.IsLive owner) {names : List String} {own : Option String}
    (hreads : m.Reads owner names own) (candidate : Option String) {suffix : String}
    (hs : suffix ≠ "") (extra : List String) :
    m.CollidesByFallback words owner candidate suffix extra
      (safe candidate suffix (words ++ names ++ extra ++ own.toList)) := by
  refine ⟨names, own, hreads, fun d hd hc => ?_⟩
  have hnonneg : ∀ o, owner = some o → 0 ≤ o := by
    intro o howner
    obtain ⟨p, -, rfl, -⟩ := ho o howner
    exact Int.natCast_nonneg p
  obtain ⟨htaken, hgains⟩ := collides_iff_taken hf hnonneg hreads hd hc
  refine ⟨?_, hgains⟩
  rw [htaken]
  constructor
  · intro hmem
    rcases plain?_or_fallsBack suffix (words ++ names ++ extra ++ own.toList) candidate with
      ⟨-, hfree⟩ | hfalls
    · -- what is taken is reserved, and the plain name is not
      refine absurd ?_ hfree
      rcases hmem with hmem | hown
      · exact List.mem_append_left _ (List.mem_append_left _ (List.mem_append_right _ hmem))
      · exact List.mem_append_right _ (Option.mem_toList.2 hown)
    · exact ⟨hfalls.ne_plain? hs, hfalls, hmem⟩
  · rintro ⟨-, -, hmem⟩
    exact hmem

/-- **A safe name is refused exactly if it was fallen back to and is taken**, after any run of
edits and for any live scope, candidate and further words. If all edits count owners and marks from
the start, there is always a safe name. -/
theorem collides_iff_fallsBack (words : List String) (edits : List Edit)
    (h : ∀ e ∈ edits, e.Named) {m : CodeModel}
    (hm : Edit.runAll edits { reserved := words.map .str } = m) (hf : m.frozen = false)
    {owner : Option Int} (ho : m.IsLive owner) (candidate : Option String) {suffix : String}
    (hs : suffix ≠ "") (extra : List String) :
    let found := m.safeMemberName owner (ofCandidate candidate) (.str suffix) (extra.map .str)
    ((∀ e ∈ edits, e.Proper) → ∃ r, found = .ok r) ∧
      ∀ r, found = .ok r → ∃ name, r = .str name ∧
        m.CollidesByFallback words owner candidate suffix extra name := by
  have htextual := isTextual_runAll words h
  rw [hm] at htextual
  refine ⟨fun hproper => ?_, fun r hr => ?_⟩
  · obtain ⟨_, hread⟩ := exists_memberNames_runAll words hproper hm ho
    obtain ⟨names, own, hreads⟩ := htextual.exists_reads ho hread
    exact ⟨_, safeMemberName_of_reads htextual.reserved hreads candidate suffix extra⟩
  · obtain ⟨avoided, havoided, -⟩ := Outcome.bind_eq_ok.1 hr
    obtain ⟨_, hread, -⟩ := Outcome.bind_eq_ok.1 havoided
    obtain ⟨names, own, hreads⟩ := htextual.exists_reads ho hread
    rw [safeMemberName_of_reads htextual.reserved hreads] at hr
    cases hr
    exact ⟨_, rfl, collidesByFallback_safe hf ho hreads candidate hs extra⟩

/-- A class with two properties, of which one has the name of the other in another letter case
and the suffix behind it. -/
def titleEdits : List Edit :=
  [.add none (Declaration.ofClass "Shelf" [] .null),
   .add (some 0) { name := "Title", body := .property { type := "string" } },
   .add (some 0) { name := "titleValue", body := .property { type := "string" } }]

/-- The name `titleValue` is fallen back to for the candidate `title`, and is taken. -/
theorem collides_titleEdits :
    let m := Edit.runAll titleEdits { reserved := keywords.map .str }
    let found := m.safeMemberName (some 0) (ofCandidate (some "title")) (.str "Value") []
    ((∀ e ∈ titleEdits, e.Named) ∧ m.frozen = false ∧ m.IsLive (some 0) ∧ "Value" ≠ "") ∧
    m.memberNames (some 0) = .ok ["Title", "titleValue"] ∧ found = .ok "titleValue" ∧
    ((∀ e ∈ titleEdits, e.Proper) → ∃ r, found = .ok r) ∧
      ∀ r, found = .ok r → ∃ name, r = .str name ∧
        m.CollidesByFallback keywords (some 0) (some "title") "Value" [] name := by
  have hnamed : ∀ e ∈ titleEdits, e.Named := by
    simp [titleEdits, Edit.Named, Declaration.ofClass]
  have hlive : (Edit.runAll titleEdits { reserved := keywords.map .str }).IsLive (some 0) := by
    rintro o ⟨⟩
    exact ⟨0, _, rfl, rfl, rfl⟩
  exact ⟨⟨hnamed, rfl, hlive, by decide⟩, rfl, rfl, collides_iff_fallsBack keywords titleEdits
    hnamed rfl rfl hlive (some "title") (by decide) []⟩

end ClientGen
