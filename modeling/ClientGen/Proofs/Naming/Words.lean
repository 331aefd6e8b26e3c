import ClientGen.Naming
import ClientGen.Proofs.Session

/-!
# Names are words

A **word** is a text of ASCII letters and digits (`ClientGen.IsWord`). If the suffix is a
word, then so is every name that is made safe or kept free with it, whatever text the
name is made from, and so are all the names chosen for the classes of a service
(`ClientGen.Naming.isWord_resolve`). Every schema is given such a name.
-/

namespace ClientGen

/-- Decide whether a value is a text with a property. -/
@[reducible] def Json.decidableText {P : String → Prop} (decide : ∀ s, Decidable (P s)) :
    ∀ v : Json, Decidable (∃ s : String, v = .str s ∧ P s)
  | .str s =>
    have := decide s
    decidable_of_iff (P s) ⟨fun h => ⟨s, rfl, h⟩, fun ⟨_, h, hs⟩ => Json.str.inj h ▸ hs⟩
  | .null => isFalse nofun
  | .bool _ => isFalse nofun
  | .int _ => isFalse nofun
  | .float _ => isFalse nofun
  | .list _ => isFalse nofun
  | .object _ => isFalse nofun

/-- **A word**: a text of ASCII letters and digits. -/
def IsWord (v : Json) : Prop :=
  ∃ s : String, v = .str s ∧ ∀ c ∈ s.toList, c.isAlphanum = true

instance : DecidablePred IsWord :=
  Json.decidableText fun s =>
    decidable_of_iff (s.toList.all Char.isAlphanum = true) List.all_eq_true

theorem IsWord.append {s t : String} (hs : IsWord (.str s)) (ht : IsWord (.str t)) :
    IsWord (.str (s ++ t)) := by
  obtain ⟨_, ⟨⟩, hs⟩ := hs
  obtain ⟨_, ⟨⟩, ht⟩ := ht
  refine ⟨s ++ t, rfl, fun c hc => ?_⟩
  rw [String.toList_append] at hc
  rcases List.mem_append.1 hc with hc | hc
  · exact hs c hc
  · exact ht c hc

namespace Identifier

/-! ### Joined words -/

theorem isAlphanum_toUpper {c : Char} (h : c.isAlphanum = true) : c.toUpper.isAlphanum = true := by
  unfold Char.toUpper
  split
  · rename_i hc
    have hupper : ∀ hv, Char.isUpper ⟨c.val + ('A'.val - 'a'.val), hv⟩ = true := by
      intro hv
      refine decide_eq_true ?_
      simp only [UInt32.le_iff_toNat_le, UInt32.toNat_add, UInt32.toNat_sub] at hc ⊢
      change 97 ≤ c.val.toNat ∧ c.val.toNat ≤ 122 at hc
      change 65 ≤ (c.val.toNat + 4294967264) % 4294967296 ∧
        (c.val.toNat + 4294967264) % 4294967296 ≤ 90
      omega
    change (Char.isUpper _ || Char.isLower _ || Char.isDigit _) = true
    rw [hupper]
    rfl
  · exact h

theorem isAlphanum_words {cs : List Char} :
    ∀ w ∈ words cs, w.1.isAlphanum = true ∧ ∀ c ∈ w.2, c.isAlphanum = true := by
  fun_induction words cs with
  | case1 => exact nofun
  | case2 c d ds rest next tail hjoin later hlater ih =>
    have hc : c.isAlphanum = true := by
      rw [Bool.or_eq_true, Bool.and_eq_true, Bool.and_eq_true] at hjoin
      rw [Char.isAlphanum, Bool.or_eq_true]
      exact hjoin.imp And.left And.left
    change words (next :: tail) = _ at hlater
    rw [hlater, List.forall_mem_cons] at ih
    exact List.forall_mem_cons.2 ⟨⟨hc, List.forall_mem_cons.2 ih.1⟩, ih.2⟩
  | case3 c d ds rest next tail hjoin hc later hlater ih =>
    exact List.forall_mem_cons.2 ⟨⟨hc, nofun⟩, ih⟩
  | case4 _ _ _ _ _ _ _ _ _ _ ih => exact ih
  | case5 c cs later hc hlater ih => exact List.forall_mem_cons.2 ⟨⟨hc, nofun⟩, ih⟩
  | case6 _ _ _ _ _ ih => exact ih

/-- Joining the words of a name leaves nothing else of it. -/
theorem isWord_pascal (name : String) : IsWord (.str (pascal name)) := by
  refine ⟨_, rfl, fun c hc => ?_⟩
  rw [pascal, String.toList_ofList] at hc
  obtain ⟨w, hw, hc⟩ := List.mem_flatMap.1 hc
  obtain ⟨hfirst, hrest⟩ := isAlphanum_words w hw
  rcases List.mem_cons.1 hc with rfl | hc
  · exact isAlphanum_toUpper hfirst
  · exact hrest c hc

/-! ### Safe and free names -/

theorem mem_asSet {words : List Json} {word : Json} :
    word ∈ asSet words ↔ word ∈ words := by
  simp only [asSet, List.mem_append, List.mem_filter]
  cases word.isString <;> simp

variable {suffix : Json}

theorem isWord_spared (hs : IsWord suffix) {text : String} (ht : IsWord (.str text))
    {reserved : List Json} {name : Json} (h : spared text suffix reserved = .ok name) :
    IsWord name := by
  obtain ⟨among, -, h⟩ := Outcome.bind_eq_ok.1 h
  split at h
  · obtain ⟨u, hu, h⟩ := Outcome.bind_eq_ok.1 h
    cases h
    obtain ⟨_, rfl, -⟩ := id hs
    cases hu
    exact ht.append hs
  · cases h
    exact ht

theorem isWord_safeWith (hs : IsWord suffix) {candidate : String} {reserved : List Json}
    {name : Json} (h : safeWith candidate suffix reserved = .ok name) : IsWord name := by
  obtain ⟨chars, hchars, h⟩ := Outcome.bind_eq_ok.1 h
  cases hchars
  split at h
  · cases h
    exact hs
  · rename_i c cs hkept
    have hbody : IsWord (.str (String.ofList (c :: cs))) := by
      refine ⟨_, rfl, fun d hd => ?_⟩
      rw [String.toList_ofList, ← hkept] at hd
      exact (List.mem_filter.1 hd).2
    dsimp only at h
    split at h
    · exact isWord_spared hs hbody h
    · obtain ⟨u, hu, h⟩ := Outcome.bind_eq_ok.1 h
      obtain ⟨_, rfl, -⟩ := id hs
      cases hu
      exact isWord_spared hs (hs.append hbody) h

theorem exists_of_spared {text : String} {reserved : List Json} {name : Json}
    (h : spared text suffix reserved = .ok name) :
    ∃ back, name = .str (text ++ back) ∧ (back = "" ∨ suffix = .str back) := by
  obtain ⟨among, -, h⟩ := Outcome.bind_eq_ok.1 h
  split at h
  · obtain ⟨u, hu, h⟩ := Outcome.bind_eq_ok.1 h
    cases h
    cases suffix with
    | str s =>
      cases hu
      exact ⟨u, rfl, .inr rfl⟩
    | _ => cases hu
  · cases h
    exact ⟨"", by rw [String.append_empty], .inl rfl⟩

/-- **A safe name contains what is kept of the candidate**, with at most the suffix after it. -/
theorem exists_of_safeWith {candidate : String} {reserved : List Json} {name : Json}
    (hk : kept candidate ≠ []) (h : safeWith candidate suffix reserved = .ok name) :
    ∃ front back, name = .str (front ++ String.ofList (kept candidate) ++ back) ∧
      (back = "" ∨ suffix = .str back) := by
  obtain ⟨chars, hchars, h⟩ := Outcome.bind_eq_ok.1 h
  cases hchars
  split at h
  · rename_i hnil
    exact absurd hnil hk
  · rename_i c cs hkept
    rw [hkept]
    dsimp only at h
    split at h
    · obtain ⟨back, rfl, hback⟩ := exists_of_spared h
      exact ⟨"", back, by rw [String.empty_append], hback⟩
    · obtain ⟨front, -, h⟩ := Outcome.bind_eq_ok.1 h
      obtain ⟨back, rfl, hback⟩ := exists_of_spared h
      exact ⟨front, back, rfl, hback⟩

theorem isWord_freshWithin (hs : IsWord suffix) {used : List Json} {fuel : Nat} {name r : Json}
    (hn : IsWord name) (h : freshWithin suffix used fuel name = .ok r) : IsWord r := by
  induction fuel generalizing name with
  | zero => cases h
  | succ fuel ih =>
    obtain ⟨key, -, h⟩ := Outcome.bind_eq_ok.1 h
    split at h
    · obtain ⟨longer, hlonger, h⟩ := Outcome.bind_eq_ok.1 h
      obtain ⟨_, rfl, -⟩ := id hs
      obtain ⟨_, rfl, -⟩ := id hn
      cases hlonger
      exact ih (hn.append hs) h
    · cases h
      exact hn

/-- A name that was made free is none of the names used. -/
theorem sameKey_of_freshWithin {used : List Json} {fuel : Nat} {name free : Json}
    (h : freshWithin suffix used fuel name = .ok free) :
    ∀ u ∈ used, free.sameKey u = false := by
  induction fuel generalizing name with
  | zero => cases h
  | succ fuel ih =>
    obtain ⟨key, hkey, h⟩ := Outcome.bind_eq_ok.1 h
    obtain rfl := Json.asKey_eq_ok hkey
    split at h
    · obtain ⟨longer, -, h⟩ := Outcome.bind_eq_ok.1 h
      exact ih h
    · rename_i hfree
      cases h
      simpa using hfree

end Identifier

/-! ### The names of classes -/

namespace Naming

variable {suffix : Json}

theorem isWord_choose (hs : IsWord suffix) {used : List Json} {candidate : String} {name : Json}
    (h : choose suffix used candidate = .ok name) : IsWord name := by
  obtain ⟨start, hstart, h⟩ := Outcome.bind_eq_ok.1 h
  exact Identifier.isWord_freshWithin hs (Identifier.isWord_safeWith hs hstart) h

/-- A table whose entries have a property. -/
def EntriesHave (P : Json → Prop) (table : Table) : Prop :=
  ∀ (key : String) (name : Json), table.find? key = some name → P name

/-- A table whose entries are words. -/
abbrev HasWords (table : Table) : Prop :=
  EntriesHave IsWord table

theorem has_set_of_has {table : Table} {key key' : String} (name : Json)
    (h : table.has key' = true) : (table.set key name).has key' = true := by
  by_cases hkey : key' = key
  · rw [hkey, Table.has, Table.find?_set_self]
    rfl
  · rw [Table.has, Table.find?_set_of_ne _ _ hkey]
    exact h

/-- Naming schemas gives each of them an entry, and keeps the entries there are. -/
theorem has_nameSchemas {schemas : List Schema} {used : List Json} {table : Table}
    {r : List Json × Table} (h : nameSchemas suffix schemas used table = .ok r) :
    (∀ key, table.has key = true → r.2.has key = true) ∧
      ∀ s ∈ schemas, r.2.has s.name = true := by
  induction schemas generalizing used table with
  | nil =>
    cases h
    exact ⟨fun _ h => h, by simp⟩
  | cons s rest ih =>
    obtain ⟨name, -, h⟩ := Outcome.bind_eq_ok.1 h
    obtain ⟨hkeep, hall⟩ := ih h
    refine ⟨fun key hkey => hkeep key (has_set_of_has name hkey), ?_⟩
    refine List.forall_mem_cons.2 ⟨hkeep s.name ?_, hall⟩
    rw [Table.has, Table.find?_set_self]
    rfl

section EntriesHave

variable {P : Json → Prop}

theorem EntriesHave.nil : EntriesHave P [] := nofun

theorem EntriesHave.set {table : Table} (h : EntriesHave P table) {name : Json} (hname : P name)
    (key : String) : EntriesHave P (table.set key name) := by
  intro key' name' hfind
  by_cases hkey : key' = key
  · rw [hkey, Table.find?_set_self] at hfind
    cases hfind
    exact hname
  · rw [Table.find?_set_of_ne _ _ hkey] at hfind
    exact h key' name' hfind

/-- Every name that is chosen has the property. -/
abbrev ChoiceHas (suffix : Json) (P : Json → Prop) : Prop :=
  ∀ {used : List Json} {candidate : String} {name : Json},
    choose suffix used candidate = .ok name → P name

theorem entriesHave_nameSchemas (hP : ChoiceHas suffix P) {schemas : List Schema}
    {used : List Json} {table : Table} {r : List Json × Table} (ht : EntriesHave P table)
    (h : nameSchemas suffix schemas used table = .ok r) : EntriesHave P r.2 := by
  induction schemas generalizing used table with
  | nil =>
    cases h
    exact ht
  | cons s rest ih =>
    obtain ⟨name, hname, h⟩ := Outcome.bind_eq_ok.1 h
    exact ih (ht.set (hP hname) s.name) h

/-- Every name that is chosen for a resource has the property. -/
abbrev ResourceChoiceHas (suffix : Json) (P : Json → Prop) : Prop :=
  ∀ {used : List Json} {label : String} {name : Json},
    choose suffix used (resourceCandidate label) = .ok name → P name

mutual

theorem entriesHave_nameResource (hP : ResourceChoiceHas suffix P) :
    ∀ (r : Resource) {used : List Json} {table : Table} {result : Json × Table},
      EntriesHave P table → nameResource suffix r used table = .ok result →
        EntriesHave P result.2
  | ⟨name, _, inner, path⟩, used, table, result, ht, h => by
    rw [nameResource] at h
    obtain ⟨className, hname, h⟩ := Outcome.bind_eq_ok.1 h
    obtain ⟨table', htable, h⟩ := Outcome.bind_eq_ok.1 h
    cases h
    exact entriesHave_nameResources hP inner (ht.set (hP hname) path) htable

theorem entriesHave_nameResources (hP : ResourceChoiceHas suffix P) :
    ∀ (rs : List Resource) {used : List Json} {table result : Table}, EntriesHave P table →
      nameResources suffix rs used table = .ok result → EntriesHave P result
  | [], _, _, _, ht, h => by
    cases h
    exact ht
  | r :: rest, used, table, result, ht, h => by
    rw [nameResources] at h
    obtain ⟨named, hnamed, h⟩ := Outcome.bind_eq_ok.1 h
    exact entriesHave_nameResources hP rest (entriesHave_nameResource hP r ht hnamed) h

end

/-- **The names of the classes of a service** have every property that chosen names have. -/
theorem entriesHave_resolve (hP : ChoiceHas suffix P) {service : Service} {naming : Naming}
    (h : resolve suffix service = .ok naming) :
    P naming.serviceClass ∧ EntriesHave P naming.schemas ∧ EntriesHave P naming.resources := by
  obtain ⟨serviceClass, hservice, h⟩ := Outcome.bind_eq_ok.1 h
  obtain ⟨named, hschemas, h⟩ := Outcome.bind_eq_ok.1 h
  obtain ⟨resources, hresources, h⟩ := Outcome.bind_eq_ok.1 h
  cases h
  exact ⟨hP hservice, entriesHave_nameSchemas hP .nil hschemas,
    entriesHave_nameResources hP _ .nil hresources⟩

end EntriesHave

/-- Every schema of a service has a class name. -/
theorem has_resolve {service : Service} {naming : Naming}
    (h : resolve suffix service = .ok naming) :
    ∀ s ∈ service.schemas, naming.schemas.has s.name = true := by
  obtain ⟨serviceClass, -, h⟩ := Outcome.bind_eq_ok.1 h
  obtain ⟨named, hschemas, h⟩ := Outcome.bind_eq_ok.1 h
  obtain ⟨resources, -, h⟩ := Outcome.bind_eq_ok.1 h
  cases h
  exact (has_nameSchemas hschemas).2

/-- **The names of the classes of a service are words**, and every schema has one. -/
theorem isWord_resolve (hs : IsWord suffix) {service : Service} {naming : Naming}
    (h : resolve suffix service = .ok naming) :
    IsWord naming.serviceClass ∧ HasWords naming.schemas ∧ HasWords naming.resources ∧
      ∀ s ∈ service.schemas, naming.schemas.has s.name = true := by
  obtain ⟨hservice, hschemas, hresources⟩ := entriesHave_resolve (isWord_choose hs) h
  exact ⟨hservice, hschemas, hresources, has_resolve h⟩

end Naming

end ClientGen
