import ClientGen.Proofs.Naming.Words

/-!
# Stems of names

The classes that are nested in others are named after what they are for: their names end in
`Data`, `Request` or `Resource`. Such a **stem** stays in a name whatever is done to tell the
name apart, since only the suffix comes after it (`ClientGen.HasStem`).

Different schemas get different names for their classes (`ClientGen.Naming.injective_resolve`):
the name of a class is made free among all those chosen before.
-/

namespace ClientGen

/-- **A name with a stem**: after the stem comes the suffix, any number of times. -/
inductive HasStem (suffix stem : String) : String → Prop
  | base (front : String) : HasStem suffix stem (front ++ stem)
  | more {name : String} (h : HasStem suffix stem name) : HasStem suffix stem (name ++ suffix)

/-- The value of a name with a stem. -/
def IsStemmed (suffix stem : String) (name : Json) : Prop :=
  ∃ text, name = .str text ∧ HasStem suffix stem text

/-- A name with a stem ends like the stem or like the suffix. -/
theorem HasStem.getLast? {suffix stem name : String} (h : HasStem suffix stem name)
    (hstem : stem.toList ≠ []) (hsuffix : suffix.toList ≠ []) :
    name.toList.getLast? = stem.toList.getLast? ∨
      name.toList.getLast? = suffix.toList.getLast? := by
  cases h with
  | base front =>
    rw [String.toList_append, List.getLast?_append_of_ne_nil _ hstem]
    exact .inl rfl
  | more h =>
    rw [String.toList_append, List.getLast?_append_of_ne_nil _ hsuffix]
    exact .inr rfl

namespace Identifier

variable {suffix stem : String}

theorem isStemmed_safeWith {front : String} {reserved : List Json} {name : Json}
    (hstem : kept stem = stem.toList) (hne : stem.toList ≠ [])
    (h : safeWith (.str (front ++ stem)) (.str suffix) reserved = .ok name) :
    IsStemmed suffix stem name := by
  have hkept : kept (front ++ stem) = kept front ++ stem.toList := by
    rw [kept, String.toList_append, List.filter_append, ← kept, ← kept, hstem]
  have hlast : kept (front ++ stem) ≠ [] := by
    rw [hkept]
    exact List.append_ne_nil_of_right_ne_nil _ hne
  obtain ⟨before, back, rfl, hback⟩ := exists_of_safeWith hlast h
  have hbase : HasStem suffix stem (before ++ String.ofList (kept (front ++ stem))) := by
    rw [hkept, String.ofList_append, String.ofList_toList, ← String.append_assoc]
    exact .base _
  refine ⟨_, rfl, ?_⟩
  rcases hback with rfl | hback
  · rw [String.append_empty]
    exact hbase
  · cases hback
    exact hbase.more

theorem isStemmed_freshWithin {used : List Json} {fuel : Nat} {name free : Json}
    (hn : IsStemmed suffix stem name) (h : freshWithin (.str suffix) used fuel name = .ok free) :
    IsStemmed suffix stem free := by
  induction fuel generalizing name with
  | zero => cases h
  | succ fuel ih =>
    obtain ⟨key, -, h⟩ := Outcome.bind_eq_ok.1 h
    split at h
    · obtain ⟨longer, hlonger, h⟩ := Outcome.bind_eq_ok.1 h
      obtain ⟨text, rfl, htext⟩ := hn
      cases hlonger
      exact ih ⟨_, rfl, htext.more⟩ h
    · cases h
      exact hn

end Identifier

namespace Naming

/-- The names of the classes of resources have the stem of resources. -/
theorem isStemmed_resources {suffix : String} {service : Service} {naming : Naming}
    (h : resolve (.str suffix) service = .ok naming) :
    EntriesHave (IsStemmed suffix "Resource") naming.resources := by
  obtain ⟨serviceClass, -, h⟩ := Outcome.bind_eq_ok.1 h
  obtain ⟨named, -, h⟩ := Outcome.bind_eq_ok.1 h
  obtain ⟨resources, hresources, h⟩ := Outcome.bind_eq_ok.1 h
  cases h
  refine entriesHave_nameResources (fun {used label name} hname => ?_) _ .nil hresources
  obtain ⟨start, hstart, hname⟩ := Outcome.bind_eq_ok.1 hname
  have hstem : IsStemmed suffix "Resource" start :=
    Identifier.isStemmed_safeWith (by decide) (by decide) hstart
  exact Identifier.isStemmed_freshWithin hstem hname

/-! ### Different schemas, different classes -/

/-- A table with no name under two keys. -/
def IsInjective (table : Table) : Prop :=
  ∀ (key key' : String) (name : Json), table.find? key = some name →
    table.find? key' = some name → key = key'

variable {suffix : Json}

theorem IsInjective.set {table : Table} (h : IsInjective table) {key : String} {name : Json}
    (hname : ∀ key', table.find? key' ≠ some name) : IsInjective (table.set key name) := by
  intro k k' n hk hk'
  by_cases hkey : k = key
  · by_cases hkey' : k' = key
    · rw [hkey, hkey']
    · rw [hkey, Table.find?_set_self] at hk
      rw [Table.find?_set_of_ne _ _ hkey', ← hk] at hk'
      exact absurd hk' (hname k')
  · rw [Table.find?_set_of_ne _ _ hkey] at hk
    by_cases hkey' : k' = key
    · rw [hkey', Table.find?_set_self] at hk'
      rw [← hk'] at hk
      exact absurd hk (hname k)
    · rw [Table.find?_set_of_ne _ _ hkey'] at hk'
      exact h k k' n hk hk'

theorem injective_nameSchemas (hP : ChoiceHas suffix fun name => name.sameKey name = true)
    {schemas : List Schema} {used : List Json} {table : Table} {r : List Json × Table}
    (hused : EntriesHave (· ∈ used) table) (htable : IsInjective table)
    (h : nameSchemas suffix schemas used table = .ok r) : IsInjective r.2 := by
  induction schemas generalizing used table with
  | nil =>
    cases h
    exact htable
  | cons s rest ih =>
    obtain ⟨name, hname, h⟩ := Outcome.bind_eq_ok.1 h
    have hself := hP hname
    obtain ⟨start, -, hname⟩ := Outcome.bind_eq_ok.1 hname
    have hfree := Identifier.sameKey_of_freshWithin hname
    refine ih ?_ (htable.set fun key hkey => ?_) h
    · -- the names in the table are used, and so is the new one
      have hmore : EntriesHave (· ∈ used ++ [name]) table :=
        fun key n hn => List.mem_append_left _ (hused key n hn)
      exact hmore.set (List.mem_append_right _ (List.mem_singleton_self name)) s.name
    · have hsame := hfree name (hused key name hkey)
      rw [hself] at hsame
      cases hsame

/-- **Different schemas have different class names.** -/
theorem injective_resolve (hP : ChoiceHas suffix fun name => name.sameKey name = true)
    {service : Service} {naming : Naming} (h : resolve suffix service = .ok naming) :
    IsInjective naming.schemas := by
  obtain ⟨serviceClass, -, h⟩ := Outcome.bind_eq_ok.1 h
  obtain ⟨named, hschemas, h⟩ := Outcome.bind_eq_ok.1 h
  obtain ⟨resources, -, h⟩ := Outcome.bind_eq_ok.1 h
  cases h
  exact injective_nameSchemas hP .nil (fun _ _ _ h => by cases h) hschemas

end Naming

end ClientGen
