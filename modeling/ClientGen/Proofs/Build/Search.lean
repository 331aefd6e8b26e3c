import ClientGen.Proofs.Build.Defaults
import ClientGen.Proofs.Naming.Initials

/-!
# The end of a search

A name is told apart from the names in use by adding the suffix until it is free: the names of
classes among those chosen before, and the names of parameters among those of a constructor. The
search may be cut off once it has made more names than there are in use, because with a suffix that
is not empty the names are all different. With the empty suffix it goes round in one place.

So, for any suffix that a configuration may have, a search ends exactly if the suffix is not empty
or the first name is free. It gives the first free name of the sequence
(`ClientGen.Identifier.IsFirstFree`), and otherwise the sequence has none
(`ClientGen.search_ends_iff`).
-/

namespace ClientGen

namespace Identifier

/-! ### The first free name -/

/-- **The first free name** among a name, the name with the suffix, with the suffix twice, and so
on. -/
def IsFirstFree (suffix : String) (used : List String) (name free : String) : Prop :=
  ∃ k, free = lengthened suffix name k ∧ free ∉ used ∧ ∀ j < k, lengthened suffix name j ∈ used

variable {suffix name free : String} {used : List String}

theorem lengthened_append (suffix name : String) (k : Nat) :
    lengthened suffix (name ++ suffix) k = lengthened suffix name (k + 1) := by
  induction k with
  | zero => rfl
  | succ k ih =>
    rw [lengthened, ih]
    rfl

theorem lengthened_empty (name : String) (k : Nat) : lengthened "" name k = name := by
  induction k with
  | zero => rfl
  | succ k ih => rw [lengthened, ih, String.append_empty]

/-- A name in use is passed over. -/
theorem IsFirstFree.of_mem (h : name ∈ used)
    (hfree : IsFirstFree suffix used (name ++ suffix) free) :
    IsFirstFree suffix used name free := by
  obtain ⟨k, rfl, hnot, hbefore⟩ := hfree
  refine ⟨k + 1, lengthened_append suffix name k, hnot, fun j hj => ?_⟩
  rcases j with _ | j
  · exact h
  · rw [← lengthened_append]
    exact hbefore j (by omega)

/-- **What a search gives is the first free name**, with any fuel. -/
theorem isFirstFree_of_freshWithin {fuel : Nat}
    (h : freshWithin (.str suffix) (used.map .str) fuel (.str name) = .ok (.str free)) :
    IsFirstFree suffix used name free := by
  induction fuel generalizing name with
  | zero => cases h
  | succ fuel ih =>
    by_cases hmem : name ∈ used
    · rw [freshWithin_of_mem hmem] at h
      exact .of_mem hmem (ih h)
    · rw [freshWithin_of_notMem hmem] at h
      cases h
      exact ⟨0, rfl, hmem, fun j hj => absurd hj (Nat.not_lt_zero j)⟩

/-- **The empty suffix leads nowhere** from a name in use, with any fuel. -/
theorem freshWithin_empty (h : name ∈ used) (fuel : Nat) :
    freshWithin (.str "") (used.map .str) fuel (.str name) = Outcome.fault .endlessSearch := by
  induction fuel with
  | zero => rfl
  | succ fuel ih => rw [freshWithin_of_mem h, String.append_empty, ih]

/-- **A search that gives its name to a result**: it ends with the first free name exactly if the
suffix is not empty or the name it starts with is free. Otherwise no name of the sequence is. -/
structure Searches {α : Type} (suffix : String) (used : List String) (start : String)
    (give : String → α) (result : Outcome α) : Prop where
  ends : suffix ≠ "" ∨ start ∉ used →
    ∃ free, result = .ok (give free) ∧ IsFirstFree suffix used start free
  endless : suffix = "" → start ∈ used →
    result = Outcome.fault .endlessSearch ∧ ∀ k, lengthened suffix start k ∈ used

theorem searches_fresh (suffix : String) (used : List String) (start : String) :
    Searches suffix used start Json.str (fresh (.str suffix) (used.map .str) (.str start)) where
  ends h := by
    obtain ⟨free, hfree⟩ : ∃ free : String,
        fresh (.str suffix) (used.map .str) (.str start) = .ok (.str free) := by
      rcases h with hs | hnot
      · exact exists_fresh hs used start
      · exact ⟨start, freshWithin_of_notMem hnot _⟩
    exact ⟨free, hfree, isFirstFree_of_freshWithin hfree⟩
  endless hs hmem := by
    subst hs
    refine ⟨freshWithin_empty hmem _, fun k => ?_⟩
    rw [lengthened_empty]
    exact hmem

theorem Searches.bind {α : Type} {start : String} {result : Outcome Json}
    (h : Searches suffix used start Json.str result) (give : String → α) (f : Json → Outcome α)
    (hf : ∀ free, f (.str free) = .ok (give free)) :
    Searches suffix used start give (result >>= f) where
  ends hends := by
    obtain ⟨free, rfl, hfree⟩ := h.ends hends
    exact ⟨free, hf free, hfree⟩
  endless hs hmem := by
    obtain ⟨rfl, hused⟩ := h.endless hs hmem
    exact ⟨rfl, hused⟩

end Identifier

open Identifier RequestPass

/-- **A search for a free name ends exactly if the suffix is not empty or the first name is free.**
Any text is accepted as the suffix. -/
theorem search_ends_iff (suffix : String) (used : List String) :
    (∃ config, Config.ofJson (.object [("unique_suffix", .str suffix)]) = .ok config ∧
      config.uniqueSuffix = .str suffix) ∧
    (∀ candidate : String,
      Searches suffix used (safe (some candidate) suffix (keywords ++ used)) Json.str
        (Naming.choose (.str suffix) (used.map .str) candidate)) ∧
    ∀ (parameters : List Argument) (statements : List Statement) (wanted : String)
        (type target : Json),
      let g : Signature := ⟨parameters, statements, used.map .str⟩
      Searches suffix used (safe (some (lowerFirst (pascal wanted))) suffix keywords)
        (fun free => g.extended type target (.str free))
        (g.take wanted (.str suffix) (.ok type) target) := by
  refine ⟨⟨_, rfl, rfl⟩, fun candidate => ?_, fun parameters statements wanted type target => ?_⟩
  · rw [Naming.choose_texts]
    exact searches_fresh suffix used _
  · dsimp only
    rw [Signature.take_texts]
    exact (searches_fresh suffix used _).bind _ _ fun free => rfl

/-- Whether a run ends in a search without an end. -/
def isEndless {σ α : Type} : EStateM.Result Failure σ α → Bool
  | .error (.fault .endlessSearch) _ => true
  | _ => false

theorem exists_of_isEndless {σ α : Type} {r : EStateM.Result Failure σ α}
    (h : isEndless r = true) : ∃ s, r = .error (.fault .endlessSearch) s := by
  unfold isEndless at h
  split at h
  · exact ⟨_, rfl⟩
  · cases h

/-- A document with two schemas whose classes would have the same name. -/
def alikeDocument : Json :=
  .object [("name", "x"), ("schemas", .object [("a", .object []), ("A", .object [])])]

/-- A document with a required parameter that has the name of the service parameter. -/
def waiterDocument : Json :=
  .object [("name", "x"), ("resources", .object [("items", .object [("methods", .object [
    ("get", .object [("httpMethod", "GET"), ("path", "items"), ("parameters", .object [
      ("service", .object [("type", "string"), ("location", "query"),
        ("required", .bool true)])])])])])])]

/-- **Searches without an end**: the empty suffix is accepted, and then neither the classes of two
schemas are told apart nor the parameters of a constructor, since no name is free. -/
theorem endless_emptySuffix :
    ∃ config, Config.ofJson (.object [("unique_suffix", "")]) = .ok config ∧
      (∃ w, buildDocument config .registered alikeDocument (Workbench.start alikeDocument) =
        .error (.fault .endlessSearch) w) ∧
      (∃ w, buildDocument config .registered waiterDocument (Workbench.start waiterDocument) =
        .error (.fault .endlessSearch) w) ∧
      ∀ k, lengthened "" "A" k ∈ ["A"] ∧ lengthened "" "service" k ∈ ["service"] := by
  refine ⟨_, rfl, exists_of_isEndless (by decide +kernel), exists_of_isEndless (by decide +kernel),
    fun k => ?_⟩
  simp [lengthened_empty]

end ClientGen
