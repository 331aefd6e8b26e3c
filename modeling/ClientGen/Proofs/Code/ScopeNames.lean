import ClientGen.Proofs.Code.Operations
import ClientGen.Proofs.Code.Tree

/-!
# The names in a scope

A scope is a class or the top level, and its names are those of the entries with that owner, in
the order of the entries (`ClientGen.scopeNames`). They are what a model gives when it is asked
for the names of a scope, and, together with the name of the class itself, what stands in the way
of one more declaration (`ClientGen.barredNames`): a class whose name is a text and is none of
them is always added (`ClientGen.CodeModel.insert_of_notMem`).

For entries that are laid out from a forest, the names in the scope of its owner are those of the
outermost trees.
-/

namespace ClientGen

open ClientGen.Tree

variable {m : CodeModel} {ds es : List Declaration} {owner : Option Int}

/-- **The names that entries declare in a scope**, in order. -/
def scopeNames (ds : List Declaration) (owner : Option Int) : List Json :=
  (ds.filter fun d => d.parent == owner).map Declaration.name

theorem mem_scopeNames {name : Json} :
    name ∈ scopeNames ds owner ↔ ∃ d ∈ ds, d.parent = owner ∧ d.name = name := by
  simp only [scopeNames, List.mem_map, List.mem_filter, beq_iff_eq, and_assoc]

theorem scopeNames_append (ds es : List Declaration) (owner : Option Int) :
    scopeNames (ds ++ es) owner = scopeNames ds owner ++ scopeNames es owner := by
  rw [scopeNames, List.filter_append, List.map_append, scopeNames, scopeNames]

theorem scopeNames_eq_nil (h : ∀ e ∈ ds, e.parent ≠ owner) : scopeNames ds owner = [] := by
  refine List.eq_nil_iff_forall_not_mem.2 fun name hname => ?_
  obtain ⟨d, hd, ho, -⟩ := mem_scopeNames.1 hname
  exact h d hd ho

theorem scopeNames_snoc_under (ds : List Declaration) (d : Declaration) (owner : Option Int) :
    scopeNames (ds ++ [d.under owner]) owner = scopeNames ds owner ++ [d.name] := by
  rw [scopeNames_append]
  simp [scopeNames, Declaration.under]

/-- The names at the places of a scope. -/
theorem map_nameAt_placesOf (ds : List Declaration) (owner : Option Int) :
    (placesOf ds owner).map (CodeModel.nameAt ds) = scopeNames ds owner := by
  have hname : CodeModel.nameAt ds =
      (fun d? => (d?.map Declaration.name).getD .null) ∘ fun i => ds[i]? := rfl
  rw [hname, ← List.map_map, map_getElem?_placesOf, List.map_map, scopeNames]
  rfl

theorem scopeNames_commented (ds : List Declaration) (i : Nat) (comment : Json)
    (owner : Option Int) :
    scopeNames (ds.modify i (Declaration.commented comment)) owner = scopeNames ds owner := by
  rw [← map_nameAt_placesOf, placesOf_commented, ← map_nameAt_placesOf]
  exact List.map_congr_left fun j _ => CodeModel.nameAt_commented ds i j comment

/-- The scope of a class has no names while the class is the last entry. -/
theorem scopeNames_last {p : Nat} (h : Coherent (ds ++ es)) (hp : ds.length = p + 1) :
    scopeNames ds (some (p : Int)) = [] := by
  refine scopeNames_eq_nil fun e he ho => ?_
  obtain ⟨i, hi⟩ := List.mem_iff_getElem?.1 he
  have hlt := (List.getElem?_eq_some_iff.1 hi).1
  have hget : (ds ++ es)[i]? = some e := by rw [List.getElem?_append_left hlt, hi]
  obtain ⟨q, -, hq, hqi, -⟩ := h.ownerClass hget ho
  omega

/-! ### Names of a forest -/

/-- The outermost trees of a forest give its owner their names. -/
theorem scopeNames_layout (owner : Option Int) :
    ∀ (start : Nat) (f : List Tree), (∀ q : Int, owner = some q → q < start) →
      scopeNames (layout owner start f) owner = f.map Tree.name
  | _, [], _ => rfl
  | start, .node d ms :: rest, ho => by
    have hinside : scopeNames (layout (some (start : Int)) (start + 1) ms) owner = [] := by
      refine scopeNames_eq_nil fun e he hparent => ?_
      rcases parent_of_mem_layout he with h | ⟨q, h, hle, -⟩
      · have := ho start (hparent.symm.trans h)
        omega
      · have := ho q (hparent.symm.trans h)
        omega
    have hrest := scopeNames_layout owner (start + 1 + size ms) rest
      fun q hq => by have := ho q hq; omega
    rw [layout_cons, ← List.singleton_append, scopeNames_append, scopeNames_append, hinside, hrest]
    simp [scopeNames, Declaration.under]

/-- A forest gives no names to the top level unless it stands there. -/
theorem scopeNames_layout_none {o : Int} (start : Nat) (f : List Tree) :
    scopeNames (layout (some o) start f) none = [] := by
  refine scopeNames_eq_nil fun e he hparent => ?_
  rcases parent_of_mem_layout he with h | ⟨q, h, -⟩
  · cases hparent.symm.trans h
  · cases hparent.symm.trans h

namespace CodeModel

/-! ### Asking for the names -/

theorem memberNames_none : (m.withEntries ds).memberNames none = .ok (scopeNames ds none) := by
  rw [memberNames_withEntries_none, map_nameAt_placesOf]

theorem memberNames_eq_ok (ho : ∀ o, owner = some o → 0 ≤ o) {names : List Json}
    (h : (m.withEntries ds).memberNames owner = .ok names) : names = scopeNames ds owner := by
  rcases owner with _ | o
  · rw [memberNames_none] at h
    exact (Except.ok.inj h).symm
  · obtain ⟨-, -, -, -, -, rfl⟩ := memberNames_withEntries_eq_ok (ho o rfl) h
    exact map_nameAt_placesOf ds (some o)

end CodeModel

/-! ### Room for a class -/

/-- The owner of a scope is a class among some entries. -/
def HasOwner (ds : List Declaration) (owner : Option Int) : Prop :=
  ∀ o, owner = some o → ∃ (p : Nat) (c : Declaration), o = p ∧ ds[p]? = some c ∧ c.isClass = true

/-- **The names that a class added to a scope must not have**: that of the class whose scope it
is, and those in the scope. -/
def barredNames (ds : List Declaration) (owner : Option Int) : List Json :=
  (owner.map fun o => CodeModel.nameAt ds o.toNat).toList ++ scopeNames ds owner

theorem barredNames_append (h : HasOwner ds owner) (es : List Declaration) :
    barredNames (ds ++ es) owner = barredNames ds owner ++ scopeNames es owner := by
  rw [barredNames, barredNames, scopeNames_append, List.append_assoc]
  congr 1
  rcases owner with _ | o
  · rfl
  · obtain ⟨p, c, rfl, hc, -⟩ := h o rfl
    have hp : p < ds.length := (List.getElem?_eq_some_iff.1 hc).1
    simp [CodeModel.nameAt, List.getElem?_append_left hp]

theorem HasOwner.append (h : HasOwner ds owner) (es : List Declaration) :
    HasOwner (ds ++ es) owner := by
  intro o ho
  obtain ⟨p, c, rfl, hc, hclass⟩ := h o ho
  refine ⟨p, c, rfl, ?_, hclass⟩
  rw [List.getElem?_append_left (List.getElem?_eq_some_iff.1 hc).1, hc]

/-- In the scope of a class that was just added there is no name, and only its own is barred. -/
theorem barredNames_snoc {ds : List Declaration} {d : Declaration} (hd : d.isClass = true)
    (h : Coherent (ds ++ [d])) :
    HasOwner (ds ++ [d]) (some (ds.length : Int)) ∧
      barredNames (ds ++ [d]) (some (ds.length : Int)) = [d.name] := by
  constructor
  · rintro o ⟨⟩
    exact ⟨ds.length, d, rfl, by simp, hd⟩
  · have hlater : Coherent (ds ++ [d] ++ []) := by rwa [List.append_nil]
    have hlast : scopeNames (ds ++ [d]) (some (ds.length : Int)) = [] :=
      scopeNames_last hlater (by simp)
    rw [barredNames, hlast]
    simp [CodeModel.nameAt]

theorem any_sameKey_iff {s : String} {names : List Json} :
    names.any (Json.sameKey (.str s)) = true ↔ Json.str s ∈ names := by
  rw [List.any_eq_true]
  constructor
  · rintro ⟨name, hname, hsame⟩
    cases name with
    | str t =>
      rw [Json.sameKey_str, beq_iff_eq] at hsame
      exact hsame ▸ hname
    | _ => simp [Json.sameKey, Json.asInt?] at hsame
  · intro h
    exact ⟨_, h, by simp⟩

theorem any_sameKey_eq_false {s : String} {names : List Json} (h : Json.str s ∉ names) :
    names.any (Json.sameKey (.str s)) = false :=
  Bool.eq_false_iff.2 fun hany => h (any_sameKey_iff.1 hany)

namespace CodeModel

theorem checkName_of_notMem {d : Declaration} {s : String} (ho : HasOwner ds owner)
    (hd : d.name = .str s) (hfree : Json.str s ∉ barredNames ds owner) :
    (m.withEntries ds).checkName owner d = .ok () := by
  rw [barredNames, List.mem_append, not_or] at hfree
  have hany := any_sameKey_eq_false hfree.2
  rcases owner with _ | o
  · simp only [checkName, memberNames_none, bind, Except.bind, hd, Json.asKey, hany]
    rfl
  · obtain ⟨p, c, rfl, hc, hclass⟩ := ho o rfl
    have hne : Json.sameKey (.str s) c.name = false := by
      have hname : Json.str s ∉ [c.name] := by simpa [nameAt, hc] using hfree.1
      simpa using any_sameKey_eq_false hname
    simp only [checkName, memberNames_withEntries_some hc hclass, map_nameAt_placesOf,
      get_withEntries, hc, settle_name, bind, Except.bind, hd, Json.asKey, hany, hne]
    rfl

/-- A constructor may have the name of its class, unless a member has it. -/
theorem checkName_of_isConstructor {p : Nat} {c d : Declaration} {name : String}
    (hc : ds[p]? = some c) (hclass : c.isClass = true) (hd : d.name = .str name)
    (hmakes : d.isConstructor = true)
    (hfree : Json.str name ∉ scopeNames ds (some (p : Int))) :
    (m.withEntries ds).checkName (some (p : Int)) d = .ok () := by
  have hany := any_sameKey_eq_false hfree
  simp only [checkName, memberNames_withEntries_some hc hclass, map_nameAt_placesOf,
    get_withEntries, hc, settle_name, bind, Except.bind, hd, Json.asKey, hany, hmakes,
    Bool.not_true, Bool.and_false]
  rfl

/-- **A declaration whose name is a text and not barred is added.** -/
theorem insert_of_notMem {d : Declaration} {s : String} (hf : m.frozen = false)
    (h : Coherent ds) (ho : HasOwner ds owner) (hfresh : d.IsFresh) (hd : d.name = .str s)
    (hfree : Json.str s ∉ barredNames ds owner) :
    insert owner d (m.withEntries ds) =
      .ok ds.length (m.withEntries (ds ++ [d.under owner])) := by
  refine insert_of_checkName hf h (fun o howner => ?_) hfresh (checkName_of_notMem ho hd hfree)
  obtain ⟨p, -, rfl, -⟩ := ho o howner
  exact Int.natCast_nonneg p

end CodeModel

end ClientGen
