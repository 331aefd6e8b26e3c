import ClientGen.Proofs.Code.Operations
import Mathlib.Data.List.Nodup

/-!
# Walking through a code model

A model laid out from coherent entries is a forest: the owner of an entry comes before it.
So a depth-first walk from the top level through the members ends after at most as many
levels as there are declarations, and it meets every declaration exactly once
(`ClientGen.CodeModel.walk_perm`).

The walk is written with fuel, like the writer of C#. What it meets from a declaration on is
what lies **within** that declaration (`ClientGen.Within`). Two declarations with something
in common within them lie one within the other, because owners are unique; for two members
of one class that leaves only their being the same.
-/

namespace ClientGen

/-! ### Lying within a declaration -/

/-- `Within ds i j`: the entry at `j` is the one at `i`, or a member of one within it. -/
inductive Within (ds : List Declaration) (i : Nat) : Nat → Prop
  /-- Every entry lies within itself. -/
  | self : Within ds i i
  /-- A member of an entry lies within what the entry lies within. -/
  | member {p j : Nat} {d : Declaration} : Within ds i p → ds[j]? = some d →
      d.parent = some (p : Int) → Within ds i j

namespace Within

variable {ds : List Declaration} {i j : Nat}

theorem trans {k : Nat} (hij : Within ds i j) (hjk : Within ds j k) : Within ds i k := by
  induction hjk with
  | self => exact hij
  | member _ hd ho ih => exact ih.member hd ho

theorem le (h : Coherent ds) (hij : Within ds i j) : i ≤ j := by
  induction hij with
  | self => exact Nat.le_refl i
  | member _ hd ho ih =>
    obtain ⟨p, _, hp, hlt, -⟩ := h.ownerClass hd ho
    omega

/-- **Owners are unique**: of two entries with a third within both, one lies within the
other. -/
theorem comparable {c c' : Nat} (hc : Within ds c j) (hc' : Within ds c' j) :
    Within ds c c' ∨ Within ds c' c := by
  induction hc with
  | self => exact Or.inr hc'
  | member hp hd ho ih =>
    cases hc' with
    | self => exact Or.inl (hp.member hd ho)
    | member hp' hd' ho' =>
      rw [hd] at hd'
      cases hd'
      rw [ho] at ho'
      obtain rfl := Int.ofNat.inj (Option.some.inj ho')
      exact ih hp'

/-- An entry within another one of the same scope is that one. -/
theorem eq_of_sibling (h : Coherent ds) {d e : Declaration} (hij : Within ds i j)
    (hd : ds[i]? = some d) (he : ds[j]? = some e) (ho : d.parent = e.parent) : i = j := by
  cases hij with
  | self => rfl
  | member hp he' ho' =>
    rw [he] at he'
    cases he'
    -- the owner of `j` lies within `i`, and is the owner of `i` too, which comes before `i`
    obtain ⟨q, _, hq, hlt, -⟩ := h.ownerClass hd (ho.trans ho')
    have := hp.le h
    omega

end Within

namespace CodeModel

/-! ### The walk -/

/-- The places of the members of the declaration at a place. -/
def memberPlaces (m : CodeModel) (i : Nat) : List Nat :=
  (m.nodes[i]?.bind Declaration.members?).getD []

/-- The depth-first walk from a declaration on, with a bound for the number of levels. -/
def walkFrom (m : CodeModel) : Nat → Nat → List Nat
  | 0, _ => []
  | fuel + 1, i => i :: (m.memberPlaces i).flatMap (walkFrom m fuel)

/-- **The depth-first walk** from the top level through the members. -/
def walk (m : CodeModel) (fuel : Nat) : List Nat :=
  m.topLevel.flatMap (m.walkFrom fuel)

variable {m : CodeModel} {ds : List Declaration}

theorem memberPlaces_withEntries (h : Coherent ds) (i : Nat) :
    (m.withEntries ds).memberPlaces i = placesOf ds (some i) := by
  have hnone (hno : ∀ c, ds[i]? = some c → c.isClass = false) :
      placesOf ds (some (i : Int)) = [] := by
    refine List.eq_nil_iff_forall_not_mem.2 fun j hj => ?_
    obtain ⟨d, hd, ho⟩ := mem_placesOf.1 hj
    obtain ⟨p, c, hp, -, hc, hclass⟩ := h.ownerClass hd ho
    obtain rfl := Int.ofNat.inj hp
    rw [hno c hc] at hclass
    cases hclass
  rw [memberPlaces, withEntries_nodes]
  rcases hc : ds[i]? with _ | c
  · rw [hnone fun c' hc' => by rw [hc] at hc'; cases hc']
    rfl
  · rw [Option.map_some, Option.bind_some, settle_members?]
    by_cases hclass : c.isClass = true
    · simp [hclass]
    · rw [hnone fun c' hc' => by rw [hc] at hc'; cases hc'; simpa using hclass]
      simp [hclass]

theorem within_of_mem_walkFrom (h : Coherent ds) {fuel i j : Nat}
    (hj : j ∈ (m.withEntries ds).walkFrom fuel i) : Within ds i j := by
  induction fuel generalizing i with
  | zero => simp [walkFrom] at hj
  | succ fuel ih =>
    rw [walkFrom, memberPlaces_withEntries h] at hj
    rcases List.mem_cons.1 hj with rfl | hj
    · exact Within.self
    · obtain ⟨c, hc, hj⟩ := List.mem_flatMap.1 hj
      obtain ⟨d, hd, ho⟩ := mem_placesOf.1 hc
      exact (Within.self.member hd ho).trans (ih hj)

/-- A walk with enough fuel goes on from each declaration that it meets to its members. -/
theorem mem_walkFrom_of_owner (h : Coherent ds) {fuel i p j : Nat} {d : Declaration}
    (hfuel : ds.length ≤ fuel + i) (hp : p ∈ (m.withEntries ds).walkFrom fuel i)
    (hd : ds[j]? = some d) (ho : d.parent = some (p : Int)) :
    j ∈ (m.withEntries ds).walkFrom fuel i := by
  induction fuel generalizing i with
  | zero => simp [walkFrom] at hp
  | succ fuel ih =>
    rw [walkFrom, memberPlaces_withEntries h] at hp ⊢
    refine List.mem_cons_of_mem _ (List.mem_flatMap.2 ?_)
    rcases List.mem_cons.1 hp with rfl | hp
    · refine ⟨j, mem_placesOf.2 ⟨d, hd, ho⟩, ?_⟩
      obtain ⟨q, _, hq, hqj, -⟩ := h.ownerClass hd ho
      have hj := (List.getElem?_eq_some_iff.1 hd).1
      obtain ⟨rest, hrest⟩ : ∃ rest, fuel = rest + 1 := ⟨fuel - 1, by omega⟩
      rw [hrest, walkFrom]
      exact List.mem_cons_self
    · obtain ⟨c, hc, hp⟩ := List.mem_flatMap.1 hp
      obtain ⟨e, he, heo⟩ := mem_placesOf.1 hc
      obtain ⟨q, _, hq, hqc, -⟩ := h.ownerClass he heo
      exact ⟨c, hc, ih (by omega) hp⟩

/-- The walks from the entries of one scope have nothing in common. -/
theorem disjoint_walkFrom (h : Coherent ds) (fuel : Nat) (owner : Option Int) :
    (placesOf ds owner).Pairwise
      (Function.onFun List.Disjoint ((m.withEntries ds).walkFrom fuel)) := by
  refine (nodup_placesOf ds owner).imp_of_mem fun {c c'} hc hc' hne j hj hj' => hne ?_
  obtain ⟨d, hd, ho⟩ := mem_placesOf.1 hc
  obtain ⟨e, he, ho'⟩ := mem_placesOf.1 hc'
  rcases (within_of_mem_walkFrom h hj).comparable (within_of_mem_walkFrom h hj') with hw | hw
  · exact hw.eq_of_sibling h hd he (ho.trans ho'.symm)
  · exact (hw.eq_of_sibling h he hd (ho'.trans ho.symm)).symm

theorem nodup_walkFrom (h : Coherent ds) (fuel i : Nat) :
    ((m.withEntries ds).walkFrom fuel i).Nodup := by
  induction fuel generalizing i with
  | zero => simp [walkFrom]
  | succ fuel ih =>
    rw [walkFrom, memberPlaces_withEntries h, List.nodup_cons]
    refine ⟨fun hmem => ?_, List.nodup_flatMap.2 ⟨fun c _ => ih c, disjoint_walkFrom h fuel _⟩⟩
    obtain ⟨c, hc, hi⟩ := List.mem_flatMap.1 hmem
    obtain ⟨d, hd, ho⟩ := mem_placesOf.1 hc
    obtain ⟨p, _, hp, hlt, -⟩ := h.ownerClass hd ho
    have := (within_of_mem_walkFrom h hi).le h
    omega

theorem lt_length_of_mem_walkFrom (h : Coherent ds) {fuel i j : Nat} (hi : i < ds.length)
    (hj : j ∈ (m.withEntries ds).walkFrom fuel i) : j < ds.length := by
  cases within_of_mem_walkFrom h hj with
  | self => exact hi
  | member _ hd _ => exact (List.getElem?_eq_some_iff.1 hd).1

theorem mem_walk (h : Coherent ds) {fuel j : Nat} (hfuel : ds.length ≤ fuel)
    (hj : j < ds.length) : j ∈ (m.withEntries ds).walk fuel := by
  -- the owner of an entry comes before it, so the induction is on the place
  induction j using Nat.strongRecOn with
  | ind j ih =>
    have hd : ds[j]? = some ds[j] := List.getElem?_eq_getElem hj
    rw [walk, withEntries_topLevel, List.mem_flatMap]
    rcases ho : ds[j].parent with _ | o
    · refine ⟨j, mem_placesOf.2 ⟨_, hd, ho⟩, ?_⟩
      obtain ⟨rest, rfl⟩ : ∃ rest, fuel = rest + 1 := ⟨fuel - 1, by omega⟩
      rw [walkFrom]
      exact List.mem_cons_self
    · obtain ⟨p, _, rfl, hp, -⟩ := h.ownerClass hd ho
      obtain ⟨r, hr, hpr⟩ := List.mem_flatMap.1 (ih p hp (by omega))
      exact ⟨r, hr, mem_walkFrom_of_owner h (by omega) hpr hd ho⟩

/-- **The walk meets every declaration exactly once.** -/
theorem walk_perm (h : Coherent ds) {fuel : Nat} (hfuel : ds.length ≤ fuel) :
    ((m.withEntries ds).walk fuel).Perm (List.range ds.length) := by
  have hnodup : ((m.withEntries ds).walk fuel).Nodup :=
    List.nodup_flatMap.2 ⟨fun i _ => nodup_walkFrom h fuel i, disjoint_walkFrom h fuel none⟩
  refine (List.perm_ext_iff_of_nodup hnodup List.nodup_range).2 fun j => ?_
  rw [List.mem_range]
  refine ⟨fun hj => ?_, mem_walk h hfuel⟩
  obtain ⟨r, hr, hj⟩ := List.mem_flatMap.1 hj
  exact lt_length_of_mem_walkFrom h (lt_of_mem_placesOf hr) hj

end CodeModel

end ClientGen
