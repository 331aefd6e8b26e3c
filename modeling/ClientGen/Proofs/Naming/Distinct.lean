import Mathlib.Data.List.Nodup
import ClientGen.Proofs.Naming.Usable

/-!
# Names that are told apart

The names of the classes of a service are chosen one after the other, each free among those
chosen before it in its scope. The scope of the service is shared by its class, the classes of
the schemas and those of the top-level resources; the class of a resource is a scope of its own
for the resources inside it.

The search for a free name ends because the suffix makes a name longer: each name that is found
in use leaves fewer names in use that are at least as long
(`ClientGen.Identifier.exists_freshWithin`). So all names are chosen, whatever the names in the
document, and those of one scope are different (`ClientGen.Naming.exists_told_resolve`). A table
is asked for the names by keys, so the schemas of the service have to have different names and
its resources different paths, at all levels.
-/

namespace ClientGen

/-! ### Choosing a name -/

namespace Identifier

theorem any_sameKey_texts (name : String) (used : List String) :
    (used.map Json.str).any (Json.sameKey (.str name)) = decide (name ∈ used) := by
  rw [List.any_map, Bool.eq_iff_iff]
  simp

theorem freshWithin_of_mem {suffix name : String} {used : List String} (h : name ∈ used)
    (fuel : Nat) : freshWithin (.str suffix) (used.map .str) (fuel + 1) (.str name) =
      freshWithin (.str suffix) (used.map .str) fuel (.str (name ++ suffix)) := by
  change (if (used.map Json.str).any (Json.sameKey (.str name)) = true then _ else _) = _
  rw [any_sameKey_texts, decide_eq_true h]
  rfl

theorem freshWithin_of_notMem {suffix name : String} {used : List String} (h : name ∉ used)
    (fuel : Nat) : freshWithin (.str suffix) (used.map .str) (fuel + 1) (.str name) =
      .ok (.str name) := by
  change (if (used.map Json.str).any (Json.sameKey (.str name)) = true then _ else _) = _
  rw [any_sameKey_texts, decide_eq_false h]
  rfl

/-- **The search for a free name ends**, before there is no fuel left: after a name in use, fewer
of the names in use are at least as long as the next. -/
theorem exists_freshWithin {suffix : String} (hs : suffix ≠ "") {used : List String} {fuel : Nat}
    {name : String}
    (hfuel : (used.filter fun u => name.length ≤ u.length).length < fuel) :
    ∃ free : String, freshWithin (.str suffix) (used.map .str) fuel (.str name) =
      .ok (.str free) := by
  induction fuel generalizing name with
  | zero => omega
  | succ fuel ih =>
    by_cases hmem : name ∈ used
    · have hlonger : name.length < (name ++ suffix).length := by
        rw [String.length_append]
        have : suffix.length ≠ 0 := fun h => hs (String.length_eq_zero_iff.1 h)
        omega
      -- the name itself is one of those that are no longer long enough
      have hfewer : (used.filter fun u => (name ++ suffix).length ≤ u.length).length <
          (used.filter fun u => name.length ≤ u.length).length := by
        have hsame : (used.filter fun u => (name ++ suffix).length ≤ u.length) =
            (used.filter fun u => name.length ≤ u.length).filter
              fun u => (name ++ suffix).length ≤ u.length := by
          rw [List.filter_filter]
          refine List.filter_congr fun u _ => ?_
          rw [Bool.eq_iff_iff]
          simp only [Bool.and_eq_true, decide_eq_true_eq]
          omega
        rw [hsame, List.length_filter_lt_length_iff_exists]
        refine ⟨name, List.mem_filter.2 ⟨hmem, by simp⟩, ?_⟩
        simp only [decide_eq_true_eq]
        omega
      rw [freshWithin_of_mem hmem]
      exact ih (by omega)
    · exact ⟨name, freshWithin_of_notMem hmem fuel⟩

theorem exists_fresh {suffix : String} (hs : suffix ≠ "") (used : List String) (name : String) :
    ∃ free : String, fresh (.str suffix) (used.map .str) (.str name) = .ok (.str free) := by
  refine exists_freshWithin hs (Nat.lt_succ_of_le ?_)
  rw [List.length_map]
  exact List.length_filter_le _ _

theorem Disarms.ne_empty {s : String} {reserved : List String} (h : Disarms s reserved) :
    s ≠ "" := by
  rintro rfl
  exact absurd h.start (by decide)

end Identifier

/-! ### Trees of resources -/

namespace Resource

theorem withNested_eq (r : Resource) : r.withNested = r :: allNested r.resources := by
  obtain ⟨name, methods, inner, path⟩ := r
  rw [withNested]

theorem mem_withNested_self (r : Resource) : r ∈ r.withNested := by
  rw [withNested_eq]
  exact List.mem_cons_self

theorem mem_allNested_of_mem {r : Resource} {rs : List Resource} (h : r ∈ rs) :
    r ∈ allNested rs := by
  induction rs with
  | nil => cases h
  | cons r' rest ih =>
    rw [allNested]
    rcases List.mem_cons.1 h with rfl | h
    · exact List.mem_append_left _ r.mem_withNested_self
    · exact List.mem_append_right _ (ih h)

mutual

/-- With a resource, a tree has the resources right inside it. -/
theorem mem_withNested_of_mem_resources {q child : Resource} (hchild : child ∈ q.resources) :
    ∀ r : Resource, q ∈ r.withNested → child ∈ r.withNested
  | ⟨_, _, inner, _⟩, hq => by
    rw [withNested, List.mem_cons] at hq ⊢
    rcases hq with rfl | hq
    · exact .inr (mem_allNested_of_mem hchild)
    · exact .inr (mem_allNested_of_mem_resources hchild inner hq)

theorem mem_allNested_of_mem_resources {q child : Resource} (hchild : child ∈ q.resources) :
    ∀ rs : List Resource, q ∈ allNested rs → child ∈ allNested rs
  | [], hq => by
    rw [allNested] at hq
    cases hq
  | r :: rest, hq => by
    rw [allNested, List.mem_append] at hq ⊢
    exact hq.imp (mem_withNested_of_mem_resources hchild r)
      (mem_allNested_of_mem_resources hchild rest)

end

end Resource

namespace Naming

/-! ### Names of one scope -/

/-- **Names that are told apart**: each of them is there, and no two are the same. -/
def AreTold (names : List (Option Json)) : Prop :=
  none ∉ names ∧ names.Nodup

/-- The names that a table has for a resource and for the resources right inside it. -/
def family (table : Table) (r : Resource) : List (Option Json) :=
  table.find? r.path :: r.resources.map fun q => table.find? q.path

theorem areTold_map_some {names : List Json} (h : names.Nodup) : AreTold (names.map some) :=
  ⟨by simp, h.map fun _ _ => Option.some.inj⟩

/-- Names that are told apart are a list of different names. -/
theorem exists_of_areTold {found : List (Option Json)} (h : AreTold found) :
    ∃ names : List Json, found = names.map some ∧ names.Nodup := by
  obtain ⟨hnone, hnodup⟩ := h
  refine ⟨found.filterMap id, ?_, hnodup.filterMap fun a b c ha hb => ?_⟩
  · clear hnodup
    induction found with
    | nil => rfl
    | cons name? rest ih =>
      rw [List.mem_cons, not_or] at hnone
      obtain ⟨name, rfl⟩ := Option.ne_none_iff_exists'.1 (Ne.symm hnone.1)
      exact congrArg (some name :: ·) (ih hnone.2)
  · exact (Option.mem_def.1 ha).trans (Option.mem_def.1 hb).symm

/-- The names for a resource and for the resources right inside it, when they are told apart. -/
theorem exists_of_family {table : Table} {r : Resource} (h : AreTold (family table r)) :
    ∃ (own : Json) (names : List Json), table.find? r.path = some own ∧
      (r.resources.map fun q => table.find? q.path) = names.map some ∧ (own :: names).Nodup := by
  obtain ⟨_, hfound, hnodup⟩ := exists_of_areTold h
  obtain ⟨own, names, rfl, hown, hnames⟩ := List.map_eq_cons_iff.1 hfound.symm
  exact ⟨own, names, hown.symm, hnames.symm, hnodup⟩

/-- Two tables that agree on the paths of a tree have the same names for its resources. -/
theorem family_congr {table table' : Table} {r : Resource}
    (h : ∀ key ∈ r.withNested.map Resource.path, table'.find? key = table.find? key)
    {q : Resource} (hq : q ∈ r.withNested) : family table' q = family table q := by
  rw [family, family, h _ (List.mem_map_of_mem hq)]
  congr 1
  refine List.map_congr_left fun child hchild => ?_
  exact h _ (List.mem_map_of_mem (Resource.mem_withNested_of_mem_resources hchild r hq))

variable {suffix : String}

/-- Among texts, a class name is searched for from the safe name for the candidate on. -/
theorem choose_texts (suffix : String) (used : List String) (candidate : String) :
    choose (.str suffix) (used.map .str) candidate = Identifier.fresh (.str suffix)
      (used.map .str) (.str (Identifier.safe (some candidate) suffix
        (Identifier.keywords ++ used))) := by
  have hwords : Identifier.keywordValues ++ used.map Json.str =
      (Identifier.keywords ++ used).map .str := by
    rw [List.map_append, Identifier.keywordValues]
  rw [choose, hwords, Identifier.asSet_texts, Identifier.safeWith_texts]
  rfl

section Search

variable (hs : IsDisarming suffix)

include hs

/-- **A name can always be chosen.** -/
theorem exists_choose {used : List Json} (hused : ∀ name ∈ used, IsUsable name)
    (candidate : String) : ∃ name, choose (.str suffix) used candidate = .ok name := by
  have htexts : ∀ name ∈ used, name.isString = true := by
    intro name hname
    obtain ⟨text, rfl, -⟩ := hused name hname
    rfl
  obtain ⟨texts, rfl⟩ := Json.exists_texts htexts
  rw [choose_texts]
  obtain ⟨free, hfree⟩ := Identifier.exists_fresh hs.ne_empty texts _
  exact ⟨.str free, hfree⟩

/-- A name that was chosen was not in use. -/
theorem notMem_of_choose {used : List Json} {candidate : String} {name : Json}
    (h : choose (.str suffix) used candidate = .ok name) : name ∉ used := by
  obtain ⟨start, hstart, h⟩ := exists_of_choose hs h
  exact Identifier.notMem_of_freshWithin hs hstart h

theorem nodup_snoc_of_choose {used : List Json} (hused : used.Nodup) {candidate : String}
    {name : Json} (h : choose (.str suffix) used candidate = .ok name) :
    (used ++ [name]).Nodup := by
  rw [List.nodup_append]
  refine ⟨hused, List.nodup_singleton name, ?_⟩
  rintro u hu v hv rfl
  rw [List.mem_singleton.1 hv] at hu
  exact notMem_of_choose hs h hu

/-! ### All names are chosen -/

theorem forall_isUsable_snoc {used : List Json} (hused : ∀ name ∈ used, IsUsable name)
    {candidate : String} {name : Json} (h : choose (.str suffix) used candidate = .ok name) :
    ∀ u ∈ used ++ [name], IsUsable u := by
  refine List.forall_mem_append.2 ⟨hused, ?_⟩
  simpa using isUsable_choose hs h

theorem exists_nameSchemas (schemas : List Schema) {used : List Json}
    (hused : ∀ name ∈ used, IsUsable name) (table : Table) :
    ∃ r, nameSchemas (.str suffix) schemas used table = .ok r ∧ ∀ name ∈ r.1, IsUsable name := by
  induction schemas generalizing used table with
  | nil => exact ⟨_, rfl, hused⟩
  | cons s rest ih =>
    obtain ⟨name, hname⟩ := exists_choose hs hused (schemaCandidate s.name)
    obtain ⟨r, hr, husable⟩ := ih (forall_isUsable_snoc hs hused hname) (table.set s.name name)
    exact ⟨r, Outcome.bind_eq_ok.2 ⟨name, hname, hr⟩, husable⟩

mutual

theorem exists_nameResource :
    ∀ (r : Resource) {used : List Json}, (∀ name ∈ used, IsUsable name) → ∀ table : Table,
      ∃ result, nameResource (.str suffix) r used table = .ok result ∧
        ∃ candidate, choose (.str suffix) used candidate = .ok result.1
  | ⟨name, _, inner, path⟩, used, hused, table => by
    obtain ⟨className, hname⟩ := exists_choose hs hused (resourceCandidate name)
    have hinner : ∀ u ∈ [className], IsUsable u := by simpa using isUsable_choose hs hname
    obtain ⟨result, hresult⟩ := exists_nameResources inner hinner (table.set path className)
    refine ⟨(className, result), ?_, _, hname⟩
    rw [nameResource]
    exact Outcome.bind_eq_ok.2 ⟨className, hname, Outcome.bind_eq_ok.2 ⟨result, hresult, rfl⟩⟩

theorem exists_nameResources :
    ∀ (rs : List Resource) {used : List Json}, (∀ name ∈ used, IsUsable name) →
      ∀ table : Table, ∃ result, nameResources (.str suffix) rs used table = .ok result
  | [], _, _, table => ⟨table, rfl⟩
  | r :: rest, used, hused, table => by
    obtain ⟨named, hnamed, candidate, hname⟩ := exists_nameResource r hused table
    obtain ⟨result, hresult⟩ :=
      exists_nameResources rest (forall_isUsable_snoc hs hused hname) named.2
    refine ⟨result, ?_⟩
    rw [nameResources]
    exact Outcome.bind_eq_ok.2 ⟨named, hnamed, hresult⟩

end

theorem exists_resolve (service : Service) :
    ∃ naming, resolve (.str suffix) service = .ok naming := by
  have hnone : ∀ u ∈ ([] : List Json), IsUsable u := nofun
  obtain ⟨serviceClass, hservice⟩ := exists_choose hs hnone (serviceCandidate service.name)
  have hused : ∀ u ∈ [serviceClass], IsUsable u := by simpa using isUsable_choose hs hservice
  obtain ⟨named, hnamed, husable⟩ := exists_nameSchemas hs service.schemas hused []
  obtain ⟨resources, hresources⟩ := exists_nameResources hs service.resources husable []
  exact ⟨_, Outcome.bind_eq_ok.2 ⟨serviceClass, hservice, Outcome.bind_eq_ok.2 ⟨named, hnamed,
    Outcome.bind_eq_ok.2 ⟨resources, hresources, rfl⟩⟩⟩⟩

end Search

/-! ### The names of a scope are different -/

/-- The names of schemas are added to those in use and stay different. Entries under other keys
are not touched. -/
theorem told_nameSchemas (hs : IsDisarming suffix) {schemas : List Schema} {used : List Json}
    {table : Table} {r : List Json × Table} (hnames : (schemas.map Schema.name).Nodup)
    (hused : used.Nodup) (h : nameSchemas (.str suffix) schemas used table = .ok r) :
    (∃ names, r.1 = used ++ names ∧ r.1.Nodup ∧
      schemas.map (fun s => r.2.find? s.name) = names.map some) ∧
    ∀ key, key ∉ schemas.map Schema.name → r.2.find? key = table.find? key := by
  induction schemas generalizing used table with
  | nil =>
    cases h
    exact ⟨⟨[], by simp [hused]⟩, fun _ _ => rfl⟩
  | cons s rest ih =>
    obtain ⟨name, hname, h⟩ := Outcome.bind_eq_ok.1 h
    obtain ⟨hnew, hnames⟩ := List.nodup_cons.1 hnames
    obtain ⟨⟨names, hr, hnodup, hfound⟩, hother⟩ :=
      ih hnames (nodup_snoc_of_choose hs hused hname) h
    refine ⟨⟨name :: names, by rw [hr, List.append_assoc, List.singleton_append], hnodup, ?_⟩,
      fun key hkey => ?_⟩
    · rw [List.map_cons, hother s.name hnew, Table.find?_set_self, hfound, List.map_cons]
    · rw [List.map_cons, List.mem_cons, not_or] at hkey
      rw [hother key hkey.2, Table.find?_set_of_ne _ _ hkey.1]

mutual

/-- A resource gets a name that was not in use, and the scopes inside it are told apart. -/
theorem told_nameResource (hs : IsDisarming suffix) :
    ∀ (r : Resource) {used : List Json} {table : Table} {result : Json × Table},
      (r.withNested.map Resource.path).Nodup → used.Nodup →
      nameResource (.str suffix) r used table = .ok result →
      (used ++ [result.1]).Nodup ∧ result.2.find? r.path = some result.1 ∧
      (∀ key, key ∉ r.withNested.map Resource.path → result.2.find? key = table.find? key) ∧
      ∀ q ∈ r.withNested, AreTold (family result.2 q)
  | ⟨name, methods, inner, path⟩, used, table, result, hpaths, hused, h => by
    rw [nameResource] at h
    obtain ⟨className, hname, h⟩ := Outcome.bind_eq_ok.1 h
    obtain ⟨table', htable, h⟩ := Outcome.bind_eq_ok.1 h
    cases h
    rw [Resource.withNested, List.map_cons] at hpaths ⊢
    obtain ⟨hnew, hpaths⟩ := List.nodup_cons.1 hpaths
    obtain ⟨⟨names, hfound, hnodup⟩, hother, htold⟩ :=
      told_nameResources hs inner hpaths (List.nodup_singleton className) htable
    have hself : table'.find? path = some className := by
      rw [hother path hnew, Table.find?_set_self]
    refine ⟨nodup_snoc_of_choose hs hused hname, hself, fun key hkey => ?_, ?_⟩
    · rw [List.mem_cons, not_or] at hkey
      rw [hother key hkey.2, Table.find?_set_of_ne _ _ hkey.1]
    · refine List.forall_mem_cons.2 ⟨?_, htold⟩
      rw [family, hself, hfound]
      exact areTold_map_some hnodup

/-- Resources get names that were not in use, and the scopes inside them are told apart. -/
theorem told_nameResources (hs : IsDisarming suffix) :
    ∀ (rs : List Resource) {used : List Json} {table result : Table},
      ((Resource.allNested rs).map Resource.path).Nodup → used.Nodup →
      nameResources (.str suffix) rs used table = .ok result →
      (∃ names, rs.map (fun r => result.find? r.path) = names.map some ∧
        (used ++ names).Nodup) ∧
      (∀ key, key ∉ (Resource.allNested rs).map Resource.path →
        result.find? key = table.find? key) ∧
      ∀ q ∈ Resource.allNested rs, AreTold (family result q)
  | [], used, table, result, _, hused, h => by
    cases h
    exact ⟨⟨[], by simp [hused]⟩, fun _ _ => rfl, fun q hq => by cases hq⟩
  | r :: rest, used, table, result, hpaths, hused, h => by
    rw [nameResources] at h
    obtain ⟨named, hnamed, h⟩ := Outcome.bind_eq_ok.1 h
    rw [Resource.allNested, List.map_append] at hpaths ⊢
    obtain ⟨hfirst, hrest, hdisjoint⟩ := List.nodup_append.1 hpaths
    obtain ⟨hnew, hself, hotherFirst, htoldFirst⟩ :=
      told_nameResource hs r hfirst hused hnamed
    obtain ⟨⟨names, hfound, hnodup⟩, hother, htold⟩ := told_nameResources hs rest hrest hnew h
    -- what was named for the first resource stays when the others are named
    have hkeep : ∀ key ∈ r.withNested.map Resource.path, result.find? key = named.2.find? key :=
      fun key hkey => hother key fun hlater => hdisjoint key hkey key hlater rfl
    refine ⟨⟨named.1 :: names, ?_, by simpa using hnodup⟩, fun key hkey => ?_, ?_⟩
    · rw [List.map_cons, hkeep _ (List.mem_map_of_mem r.mem_withNested_self), hself, hfound,
        List.map_cons]
    · rw [List.mem_append, not_or] at hkey
      rw [hother key hkey.2, hotherFirst key hkey.1]
    · refine List.forall_mem_append.2 ⟨fun q hq => ?_, htold⟩
      rw [family_congr hkeep hq]
      exact htoldFirst q hq

end

/-- **Names that tell the classes of a service apart**: those of the service, its schemas and its
top-level resources from each other, and those right inside a resource from each other and from
that resource. All of them are there and can be used. -/
structure Tells (naming : Naming) (service : Service) : Prop where
  topLevel : AreTold (some naming.serviceClass ::
    (service.schemas.map (fun s => naming.schemas.find? s.name) ++
      service.resources.map fun r => naming.resources.find? r.path))
  nested : ∀ r ∈ Resource.allNested service.resources, AreTold (family naming.resources r)
  serviceClass : IsUsable naming.serviceClass
  schemaClasses : EntriesHave IsUsable naming.schemas
  resourceClasses : EntriesHave IsUsable naming.resources

/-- The names at the top level: those for the schemas and those for the resources. -/
theorem Tells.exists_names {naming : Naming} {service : Service} (h : naming.Tells service) :
    ∃ schemas resources : List Json,
      (service.schemas.map fun s => naming.schemas.find? s.name) = schemas.map some ∧
      (service.resources.map fun r => naming.resources.find? r.path) = resources.map some ∧
      (naming.serviceClass :: (schemas ++ resources)).Nodup := by
  obtain ⟨_, hfound, hnodup⟩ := exists_of_areTold h.topLevel
  obtain ⟨_, _, rfl, hservice, hrest⟩ := List.map_eq_cons_iff.1 hfound.symm
  obtain ⟨schemas, resources, rfl, hschemas, hresources⟩ := List.map_eq_append_iff.1 hrest
  obtain rfl := Option.some.inj hservice
  exact ⟨schemas, resources, hschemas.symm, hresources.symm, hnodup⟩

theorem tells_resolve (hs : IsDisarming suffix) {service : Service}
    (hnames : (service.schemas.map Schema.name).Nodup)
    (hpaths : ((Resource.allNested service.resources).map Resource.path).Nodup) {naming : Naming}
    (h : resolve (.str suffix) service = .ok naming) : naming.Tells service := by
  obtain ⟨hservice, hschemas, hresources⟩ := entriesHave_resolve (isUsable_choose hs) h
  obtain ⟨serviceClass, -, h⟩ := Outcome.bind_eq_ok.1 h
  obtain ⟨named, hnamed, h⟩ := Outcome.bind_eq_ok.1 h
  obtain ⟨resources, hnamed', h⟩ := Outcome.bind_eq_ok.1 h
  cases h
  obtain ⟨⟨names, hused, hnodup, hfound⟩, -⟩ :=
    told_nameSchemas hs hnames (List.nodup_singleton serviceClass) hnamed
  obtain ⟨⟨names', hfound', hnodup'⟩, -, htold⟩ :=
    told_nameResources hs service.resources hpaths hnodup hnamed'
  refine ⟨?_, htold, hservice, hschemas, hresources⟩
  rw [hused] at hnodup'
  rw [hfound, hfound', ← List.map_append, ← List.map_cons]
  exact areTold_map_some hnodup'

/-- **Names are found that tell the classes of a service apart**, whatever the names in it. -/
theorem exists_told_resolve (hs : IsDisarming suffix) (service : Service)
    (hnames : (service.schemas.map Schema.name).Nodup)
    (hpaths : ((Resource.allNested service.resources).map Resource.path).Nodup) :
    ∃ naming, resolve (.str suffix) service = .ok naming ∧ naming.Tells service := by
  obtain ⟨naming, hnaming⟩ := exists_resolve hs service
  exact ⟨naming, hnaming, tells_resolve hs hnames hpaths hnaming⟩

/-- A service whose names meet: keywords, names without a letter, names that differ in case or in
what stands between their words, and names that already end with the suffix. -/
def tangledService : Service where
  name := "in"
  version := "v1"
  title := .null
  description := .null
  baseUri := .null
  scopes := []
  schemas := ["", "!", "in_service", "InService", "INSERVICE", "InServiceValue", "1st", "value1st",
    "void", "Void", "a resource", "éa"].map fun name => ⟨name, .null, [], name⟩
  resources :=
    [⟨"a", [], [⟨"a", [], [⟨"A", [], [], "a.a.A"⟩], "a.a"⟩, ⟨"A", [], [], "a.A"⟩,
        ⟨"a_resource_value", [], [], "a.a_resource_value"⟩], "a"⟩,
      ⟨"", [], [⟨"-", [], [], ".-"⟩], ""⟩]

/-- The names of the service above are told apart. -/
theorem exists_told_tangledService : IsDisarming "Value" ∧
    (tangledService.schemas.map Schema.name).Nodup ∧
    ((Resource.allNested tangledService.resources).map Resource.path).Nodup ∧
    ∃ naming, resolve (.str "Value") tangledService = .ok naming ∧
      naming.Tells tangledService := by
  have hs : IsDisarming "Value" := by decide +kernel
  have hnames : (tangledService.schemas.map Schema.name).Nodup := by decide +kernel
  have hpaths : ((Resource.allNested tangledService.resources).map Resource.path).Nodup := by
    decide +kernel
  exact ⟨hs, hnames, hpaths, exists_told_resolve hs tangledService hnames hpaths⟩

end Naming

end ClientGen
