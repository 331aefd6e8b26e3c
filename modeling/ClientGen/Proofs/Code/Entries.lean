import ClientGen.Code.Model
import Mathlib.Data.List.Basic
import Mathlib.Data.List.Induction

/-!
# A code model laid out from its declarations

A code model keeps the same information in four places: the declarations, the list of the
top level, the list of members of each class, and the journal. All four can be laid out
from one list, the **entries**: the declarations in the order in which they were added, each
with its owner (`ClientGen.CodeModel.withEntries`). What the operations of a model do is
then said on that list alone: adding a declaration appends an entry, and returning to a mark
keeps as many entries as the mark says.

The entries of a model are **coherent** (`ClientGen.Coherent`): every owner is a class
that was added before, the names of a scope are different keys, and only a constructor has
the name of its class. Coherent entries stay coherent when one is added that the model
admits (`ClientGen.Admits`) and when the last ones are dropped.
-/

namespace ClientGen

/-! ### Places of entries -/

/-- Whether a declaration is a class. -/
def Declaration.isClass (d : Declaration) : Bool :=
  d.members?.isSome

/-- The places of the entries with a given owner, in increasing order. -/
def placesOf (ds : List Declaration) (owner : Option Int) : List Nat :=
  (List.range ds.length).filter fun i => (ds[i]?.map Declaration.parent) == some owner

theorem mem_placesOf {ds : List Declaration} {owner : Option Int} {i : Nat} :
    i ∈ placesOf ds owner ↔ ∃ d, ds[i]? = some d ∧ d.parent = owner := by
  simp only [placesOf, List.mem_filter, List.mem_range, beq_iff_eq, Option.map_eq_some_iff]
  constructor
  · rintro ⟨-, h⟩
    exact h
  · rintro ⟨d, hd, ho⟩
    exact ⟨(List.getElem?_eq_some_iff.1 hd).1, d, hd, ho⟩

theorem lt_of_mem_placesOf {ds : List Declaration} {owner : Option Int} {i : Nat}
    (h : i ∈ placesOf ds owner) : i < ds.length := by
  obtain ⟨d, hd, -⟩ := mem_placesOf.1 h
  exact (List.getElem?_eq_some_iff.1 hd).1

/-- One more entry adds its place to the places of its owner and changes no others. -/
theorem placesOf_snoc (ds : List Declaration) (d : Declaration) (owner : Option Int) :
    placesOf (ds ++ [d]) owner =
      placesOf ds owner ++ if d.parent = owner then [ds.length] else [] := by
  have hold : ∀ i ∈ List.range ds.length,
      (((ds ++ [d])[i]?.map Declaration.parent) == some owner)
        = ((ds[i]?.map Declaration.parent) == some owner) := by
    intro i hi
    rw [List.getElem?_append_left (List.mem_range.1 hi)]
  rw [placesOf, List.length_append, List.length_singleton, List.range_succ, List.filter_append,
    List.filter_congr hold, placesOf]
  congr 1
  by_cases h : d.parent = owner <;> simp [h]

/-- The entries at the places of a scope. -/
theorem map_getElem?_placesOf (ds : List Declaration) (owner : Option Int) :
    ((placesOf ds owner).map fun i => ds[i]?) =
      (ds.filter fun e => e.parent == owner).map some := by
  induction ds using List.reverseRecOn with
  | nil => rfl
  | append_singleton ds d ih =>
    have hold : ∀ i ∈ placesOf ds owner, (ds ++ [d])[i]? = ds[i]? := fun i hi =>
      List.getElem?_append_left (lt_of_mem_placesOf hi)
    rw [placesOf_snoc, List.map_append, List.map_congr_left hold, ih, List.filter_append,
      List.map_append]
    congr 1
    by_cases ho : d.parent = owner <;> simp [ho]

theorem pairwise_placesOf (ds : List Declaration) (owner : Option Int) :
    (placesOf ds owner).Pairwise (· < ·) :=
  List.pairwise_lt_range.filter _

theorem nodup_placesOf (ds : List Declaration) (owner : Option Int) :
    (placesOf ds owner).Nodup :=
  List.nodup_range.filter _

/-! ### Coherent entries -/

/-- **Coherent entries**: owners are classes among the earlier entries, the names of a scope
are different keys, and a member with the name of its class is a constructor. -/
structure Coherent (ds : List Declaration) : Prop where
  /-- The owner of an entry is an earlier class. -/
  ownerClass : ∀ {i : Nat} {d : Declaration} {o : Int}, ds[i]? = some d → d.parent = some o →
    ∃ (p : Nat) (c : Declaration), o = p ∧ p < i ∧ ds[p]? = some c ∧ c.isClass = true
  /-- The names of the entries with one owner are different keys. -/
  apart : ∀ {i j : Nat} {d e : Declaration}, i < j → ds[i]? = some d → ds[j]? = some e →
    d.parent = e.parent → e.name.sameKey d.name = false
  /-- Only a constructor has the name of its class. -/
  constructors : ∀ {i p : Nat} {d c : Declaration}, ds[i]? = some d → d.parent = some (p : Int) →
    ds[p]? = some c → d.name.sameKey c.name = true → d.isConstructor = true

theorem Coherent.nil : Coherent [] where
  ownerClass h := by simp at h
  apart _ h := by simp at h
  constructors h := by simp at h

theorem getElem?_take_eq_some {ds : List Declaration} {k i : Nat} {d : Declaration} :
    (ds.take k)[i]? = some d ↔ i < k ∧ ds[i]? = some d := by
  rw [List.getElem?_take]
  by_cases h : i < k <;> simp [h]

theorem Coherent.take {ds : List Declaration} (h : Coherent ds) (k : Nat) :
    Coherent (ds.take k) where
  ownerClass {i d o} hd ho := by
    obtain ⟨hik, hd⟩ := getElem?_take_eq_some.1 hd
    obtain ⟨p, c, rfl, hp, hc, hclass⟩ := h.ownerClass hd ho
    exact ⟨p, c, rfl, hp, getElem?_take_eq_some.2 ⟨by omega, hc⟩, hclass⟩
  apart hij hd he :=
    h.apart hij (getElem?_take_eq_some.1 hd).2 (getElem?_take_eq_some.1 he).2
  constructors hd ho hc :=
    h.constructors (getElem?_take_eq_some.1 hd).2 ho
      (getElem?_take_eq_some.1 hc).2

/-- **A scope admits a declaration**: its owner is a class, no entry of the scope has its
name, and it has the name of its class only if it is a constructor. -/
structure Admits (ds : List Declaration) (owner : Option Int) (d : Declaration) : Prop where
  /-- The owner is a class. -/
  ownerClass : ∀ {o : Int}, owner = some o →
    ∃ (p : Nat) (c : Declaration), o = p ∧ ds[p]? = some c ∧ c.isClass = true
  /-- No entry of the scope has the name. -/
  free : ∀ e ∈ ds, e.parent = owner → d.name.sameKey e.name = false
  /-- Only a constructor has the name of its class. -/
  constructors : ∀ {p : Nat} {c : Declaration}, owner = some (p : Int) → ds[p]? = some c →
    d.name.sameKey c.name = true → d.isConstructor = true

/-- A declaration under an owner, as it becomes an entry. -/
def Declaration.under (d : Declaration) (owner : Option Int) : Declaration :=
  { d with parent := owner }

@[simp] theorem Declaration.under_parent (d : Declaration) (owner : Option Int) :
    (d.under owner).parent = owner := rfl

/-- Adding an entry that the scope admits keeps the entries coherent. -/
theorem Coherent.snoc {ds : List Declaration} {owner : Option Int} {d : Declaration}
    (h : Coherent ds) (ha : Admits ds owner d) : Coherent (ds ++ [d.under owner]) where
  ownerClass {i e o} he ho := by
    rcases Nat.lt_or_ge i ds.length with hi | hi
    · rw [List.getElem?_append_left hi] at he
      obtain ⟨p, c, rfl, hp, hc, hclass⟩ := h.ownerClass he ho
      exact ⟨p, c, rfl, hp, by rw [List.getElem?_append_left (by omega)]; exact hc, hclass⟩
    · rw [List.getElem?_append_right hi, List.getElem?_singleton] at he
      split at he
      · cases he
        obtain ⟨p, c, rfl, hc, hclass⟩ := ha.ownerClass ho
        have hp := (List.getElem?_eq_some_iff.1 hc).1
        exact ⟨p, c, rfl, by omega, by rw [List.getElem?_append_left hp]; exact hc, hclass⟩
      · cases he
  apart {i j a b} hij hi hj hab := by
    have hlt := (List.getElem?_eq_some_iff.1 hj).1
    simp only [List.length_append, List.length_singleton] at hlt
    rw [List.getElem?_append_left (by omega)] at hi
    rcases Nat.lt_or_ge j ds.length with hj' | hj'
    · rw [List.getElem?_append_left hj'] at hj
      exact h.apart hij hi hj hab
    · obtain rfl : j = ds.length := by omega
      obtain rfl : d.under owner = b := by simpa using hj
      exact ha.free a (List.mem_of_getElem? hi) hab
  constructors {i p e c} he ho hc hname := by
    rcases Nat.lt_or_ge i ds.length with hi | hi
    · rw [List.getElem?_append_left hi] at he
      obtain ⟨q, c', hq, hqi, -, -⟩ := h.ownerClass he ho
      have hpi : p < ds.length := by omega
      rw [List.getElem?_append_left hpi] at hc
      exact h.constructors he ho hc hname
    · rw [List.getElem?_append_right hi, List.getElem?_singleton] at he
      split at he
      · cases he
        obtain ⟨q, c', hq, hc', -⟩ := ha.ownerClass ho
        have hpi : p < ds.length := by
          have := (List.getElem?_eq_some_iff.1 hc').1
          omega
        rw [List.getElem?_append_left hpi] at hc
        exact ha.constructors ho hc hname
      · cases he

/-! ### Changing a comment -/

/-- A declaration with a comment. -/
def Declaration.commented (comment : Json) (d : Declaration) : Declaration :=
  { d with comment }

theorem modify_append {ds es : List Declaration} {i : Nat} (hi : i < ds.length)
    (f : Declaration → Declaration) : (ds ++ es).modify i f = ds.modify i f ++ es := by
  induction ds generalizing i with
  | nil => cases hi
  | cons d rest ih =>
    cases i with
    | zero => rfl
    | succ i => simp [List.modify_succ_cons, ih (Nat.lt_of_succ_lt_succ hi)]

theorem getElem?_commented (ds : List Declaration) (i j : Nat) (comment : Json) :
    (ds.modify i (Declaration.commented comment))[j]? =
      ds[j]?.map fun d => if i = j then d.commented comment else d :=
  List.getElem?_modify _ _ _ _

/-- An entry with another comment is the same in everything else. -/
theorem exists_of_commented {ds : List Declaration} {i j : Nat} {comment : Json}
    {d : Declaration} (h : (ds.modify i (Declaration.commented comment))[j]? = some d) :
    ∃ e, ds[j]? = some e ∧ d.parent = e.parent ∧ d.name = e.name ∧
      d.isConstructor = e.isConstructor ∧ d.isClass = e.isClass := by
  rw [getElem?_commented] at h
  obtain ⟨e, he, rfl⟩ := Option.map_eq_some_iff.1 h
  refine ⟨e, he, ?_⟩
  split <;> exact ⟨rfl, rfl, rfl, rfl⟩

theorem placesOf_commented (ds : List Declaration) (i : Nat) (comment : Json)
    (owner : Option Int) :
    placesOf (ds.modify i (Declaration.commented comment)) owner = placesOf ds owner := by
  rw [placesOf, placesOf, List.length_modify]
  refine List.filter_congr fun j _ => ?_
  rw [getElem?_commented, Option.map_map]
  congr 2
  funext d
  simp only [Function.comp_apply]
  split <;> rfl

theorem Coherent.commented {ds : List Declaration} (h : Coherent ds) (i : Nat) (comment : Json) :
    Coherent (ds.modify i (Declaration.commented comment)) where
  ownerClass {j d o} hd ho := by
    obtain ⟨e, he, hparent, -⟩ := exists_of_commented hd
    obtain ⟨p, c, rfl, hp, hc, hclass⟩ := h.ownerClass he (hparent ▸ ho)
    refine ⟨p, _, rfl, hp, by rw [getElem?_commented, hc]; rfl, ?_⟩
    split <;> exact hclass
  apart hij hd he hparent := by
    obtain ⟨d', hd', hp, hn, -⟩ := exists_of_commented hd
    obtain ⟨e', he', hp', hn', -⟩ := exists_of_commented he
    rw [hn, hn']
    exact h.apart hij hd' he' (by rw [← hp, ← hp', hparent])
  constructors hd ho hc hname := by
    obtain ⟨d', hd', hp, hn, hcon, -⟩ := exists_of_commented hd
    obtain ⟨c', hc', -, hn', -⟩ := exists_of_commented hc
    rw [hcon]
    exact h.constructors hd' (hp ▸ ho) hc' (by rw [← hn, ← hn', hname])

/-! ### Laying a model out -/

/-- An entry as it stands in a model: a class has the places of its members. -/
def settle (ds : List Declaration) (i : Nat) (d : Declaration) : Declaration :=
  d.mapMembers fun _ => placesOf ds (some i)

namespace Declaration

/-- Whether a declaration has no members yet. -/
def IsFresh (d : Declaration) : Prop :=
  ∀ places, d.members? = some places → places = []

theorem mapMembers_mapMembers (f g : List Nat → List Nat) (d : Declaration) :
    (d.mapMembers f).mapMembers g = d.mapMembers fun places => g (f places) := by
  unfold mapMembers
  rcases d with ⟨_, _, _, _, _, _, body⟩
  cases body <;> rfl

theorem mapMembers_congr {f g : List Nat → List Nat} {d : Declaration}
    (h : ∀ places, d.members? = some places → f places = g places) :
    d.mapMembers f = d.mapMembers g := by
  rcases d with ⟨_, _, _, _, _, _, body⟩
  cases body with
  | ofClass bases places => simp [mapMembers, h places rfl]
  | _ => rfl

theorem mapMembers_id (d : Declaration) : d.mapMembers (fun places => places) = d := by
  rcases d with ⟨_, _, _, _, _, _, body⟩
  cases body <;> rfl

@[simp] theorem mapMembers_name (f : List Nat → List Nat) (d : Declaration) :
    (d.mapMembers f).name = d.name := by
  unfold mapMembers
  split <;> rfl

@[simp] theorem mapMembers_parent (f : List Nat → List Nat) (d : Declaration) :
    (d.mapMembers f).parent = d.parent := by
  unfold mapMembers
  split <;> rfl

@[simp] theorem mapMembers_members? (f : List Nat → List Nat) (d : Declaration) :
    (d.mapMembers f).members? = d.members?.map f := by
  rcases d with ⟨_, _, _, _, _, _, body⟩
  cases body <;> rfl

@[simp] theorem mapMembers_isConstructor (f : List Nat → List Nat) (d : Declaration) :
    (d.mapMembers f).isConstructor = d.isConstructor := by
  rcases d with ⟨_, _, _, _, _, _, body⟩
  cases body <;> rfl

end Declaration

@[simp] theorem settle_name (ds : List Declaration) (i : Nat) (d : Declaration) :
    (settle ds i d).name = d.name := by
  simp [settle]

@[simp] theorem settle_parent (ds : List Declaration) (i : Nat) (d : Declaration) :
    (settle ds i d).parent = d.parent := by
  simp [settle]

@[simp] theorem settle_comment (ds : List Declaration) (i : Nat) (d : Declaration) :
    (settle ds i d).comment = d.comment := by
  rcases d with ⟨_, _, _, _, _, _, body⟩
  cases body <;> rfl

theorem settle_of_isClass {d : Declaration} (h : d.isClass = false) (ds : List Declaration)
    (i : Nat) : settle ds i d = d := by
  rcases d with ⟨_, _, _, _, _, _, body⟩
  cases body with
  | ofClass => cases h
  | _ => rfl

theorem settle_members? (ds : List Declaration) (i : Nat) (d : Declaration) :
    (settle ds i d).members? = if d.isClass then some (placesOf ds (some i)) else none := by
  rw [settle, Declaration.mapMembers_members?, Declaration.isClass]
  cases d.members? <;> rfl

/-- One more entry changes the class that owns it and no other entry. -/
theorem settle_snoc (ds : List Declaration) (d : Declaration) (i : Nat) (e : Declaration) :
    settle (ds ++ [d]) i e =
      if d.parent = some (i : Int) then (settle ds i e).mapMembers (· ++ [ds.length])
      else settle ds i e := by
  rw [settle, placesOf_snoc]
  split
  · rw [settle, Declaration.mapMembers_mapMembers]
  · rw [List.append_nil, settle]

/-- A fresh entry stands in a model as it was added, as long as nothing is added to it. -/
theorem settle_length {ds : List Declaration} {d : Declaration} {owner : Option Int}
    (hd : d.IsFresh) (h : Coherent (ds ++ [d.under owner])) :
    settle (ds ++ [d.under owner]) ds.length (d.under owner) = d.under owner := by
  have hplaces : placesOf (ds ++ [d.under owner]) (some (ds.length : Int)) = [] := by
    refine List.eq_nil_iff_forall_not_mem.2 fun i hi => ?_
    obtain ⟨e, he, ho⟩ := mem_placesOf.1 hi
    obtain ⟨p, c, hp, hpi, -, -⟩ := h.ownerClass he ho
    have := (List.getElem?_eq_some_iff.1 he).1
    simp only [List.length_append, List.length_singleton] at this
    omega
  rw [settle, hplaces]
  have hsame : (d.under owner).mapMembers (fun _ => [])
      = (d.under owner).mapMembers fun places => places :=
    Declaration.mapMembers_congr fun places hp => (hd places hp).symm
  exact hsame.trans (Declaration.mapMembers_id _)

namespace CodeModel

/-- **A model with its declarations laid out from entries.** -/
def withEntries (m : CodeModel) (ds : List Declaration) : CodeModel :=
  { m with
    nodes := (ds.mapIdx (settle ds)).toArray
    topLevel := placesOf ds none
    journal := (ds.mapIdx fun i d => (d.parent, i)).reverse }

variable (m : CodeModel) (ds : List Declaration)

@[simp] theorem withEntries_size : (m.withEntries ds).size = ds.length := by
  simp [withEntries, size]

@[simp] theorem withEntries_nodes_size : (m.withEntries ds).nodes.size = ds.length :=
  withEntries_size m ds

@[simp] theorem withEntries_mark : (m.withEntries ds).mark = ds.length := by
  simp [withEntries, mark]

@[simp] theorem withEntries_topLevel : (m.withEntries ds).topLevel = placesOf ds none := rfl

@[simp] theorem withEntries_frozen : (m.withEntries ds).frozen = m.frozen := rfl

@[simp] theorem withEntries_nodes (i : Nat) :
    (m.withEntries ds).nodes[i]? = ds[i]?.map (settle ds i) := by
  simp [withEntries]

end CodeModel

end ClientGen
