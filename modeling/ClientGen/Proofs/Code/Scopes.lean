import ClientGen.Proofs.Code.Tree

/-!
# Scopes

A declaration of a forest stands inside some classes, its **scopes**, of which the innermost
comes first (`ClientGen.Occurs`). A name that is written there stands for the innermost class
with that name: a class that one of the scopes declares, or else one at the top level
(`ClientGen.resolve?`). So a class at the top level is out of reach from where a scope declares
a class with its name.
-/

namespace ClientGen

namespace Tree

/-- The base types of a class. -/
def baseTypes? (t : Tree) : Option (List Json) :=
  match t.decl.body with
  | .ofClass bases _ => some bases
  | _ => none

/-- Whether a declaration is a class with a name. -/
def isClassNamed (t : Tree) (name : String) : Bool :=
  t.isClass && t.name.isText name

/-- The class with a name right inside a class. -/
def nested? (t : Tree) (name : String) : Option Tree :=
  t.members.find? (·.isClassNamed name)

theorem isClassNamed_iff {t : Tree} {name : String} :
    t.isClassNamed name = true ↔ t.isClass = true ∧ t.name = .str name := by
  rw [isClassNamed, Bool.and_eq_true, Json.isText_iff]

theorem isClass_of_baseTypes? {t : Tree} {bases : List Json} (h : t.baseTypes? = some bases) :
    t.isClass = true := by
  obtain ⟨⟨name, access, modifiers, attributes, comment, parent, body⟩, members⟩ := t
  cases body <;> first | rfl | cases h

end Tree

open ClientGen.Tree

/-! ### Occurrences -/

/-- `Occurs around forest scopes t`: in a forest that stands inside some classes, `t` stands
inside `scopes`. -/
inductive Occurs : (around forest scopes : List Tree) → Tree → Prop
  | here {around forest : List Tree} {t : Tree} (h : t ∈ forest) : Occurs around forest around t
  | inside {around forest scopes : List Tree} {u t : Tree} (hu : u ∈ forest)
    (h : Occurs (u :: around) u.members scopes t) : Occurs around forest scopes t

namespace Occurs

variable {around forest f g scopes : List Tree} {t u : Tree}

theorem not_nil : ¬ Occurs around [] scopes t := by
  intro h
  cases h with
  | here h => cases h
  | inside hu => cases hu

theorem mono (hsub : ∀ u ∈ f, u ∈ g) (h : Occurs around f scopes t) : Occurs around g scopes t := by
  cases h with
  | here h => exact .here (hsub t h)
  | inside hu h => exact .inside (hsub _ hu) h

theorem cons_iff : Occurs around (u :: f) scopes t ↔
    (scopes = around ∧ t = u) ∨ Occurs (u :: around) u.members scopes t ∨
      Occurs around f scopes t := by
  constructor
  · intro h
    cases h with
    | here h =>
      rcases List.mem_cons.1 h with rfl | h
      · exact .inl ⟨rfl, rfl⟩
      · exact .inr (.inr (.here h))
    | inside hv h =>
      rcases List.mem_cons.1 hv with rfl | hv
      · exact .inr (.inl h)
      · exact .inr (.inr (.inside hv h))
  · rintro (⟨rfl, rfl⟩ | h | h)
    · exact .here List.mem_cons_self
    · exact .inside List.mem_cons_self h
    · exact h.mono fun v hv => List.mem_cons_of_mem _ hv

theorem append_iff : Occurs around (f ++ g) scopes t ↔
    Occurs around f scopes t ∨ Occurs around g scopes t := by
  induction f with
  | nil => simp [not_nil]
  | cons u f ih => rw [List.cons_append, cons_iff, cons_iff, ih, or_assoc, or_assoc]

theorem singleton_iff : Occurs around [u] scopes t ↔
    (scopes = around ∧ t = u) ∨ Occurs (u :: around) u.members scopes t := by
  rw [cons_iff]
  simp [not_nil]

/-- What occurs in a forest occurs in one of its trees. -/
theorem exists_singleton (h : Occurs around f scopes t) : ∃ u ∈ f, Occurs around [u] scopes t := by
  cases h with
  | here h => exact ⟨t, h, .here (List.mem_singleton_self t)⟩
  | inside hu h => exact ⟨_, hu, .inside (List.mem_singleton_self _) h⟩

/-- Inside a forest without members there is only the forest. -/
theorem eq_of_leaves (hf : ∀ u ∈ f, u.members = []) (h : Occurs around f scopes t) :
    scopes = around ∧ t ∈ f := by
  cases h with
  | here h => exact ⟨rfl, h⟩
  | inside hu h =>
    rw [hf _ hu] at h
    exact absurd h not_nil

end Occurs

/-! ### The class that a name stands for -/

/-- **The class that a name stands for** inside some scopes. -/
def resolve? (forest : List Tree) : List Tree → String → Option Tree
  | [], name => forest.find? (·.isClassNamed name)
  | e :: scopes, name => (e.nested? name).or (resolve? forest scopes name)

variable {forest scopes : List Tree} {name : String}

theorem resolve?_of_nested?_eq_none (h : ∀ e ∈ scopes, e.nested? name = none) :
    resolve? forest scopes name = forest.find? (·.isClassNamed name) := by
  induction scopes with
  | nil => rfl
  | cons e rest ih =>
    obtain ⟨he, hrest⟩ := List.forall_mem_cons.1 h
    rw [resolve?, he, Option.none_or, ih hrest]

theorem exists_of_resolve? {e : Tree} (he : e ∈ scopes) (h : e.nested? name ≠ none) :
    ∃ e' ∈ scopes, ∃ u ∈ e'.members, u.isClassNamed name = true ∧
      resolve? forest scopes name = some u := by
  induction scopes with
  | nil => cases he
  | cons e' rest ih =>
    rw [resolve?]
    cases hfound : e'.nested? name with
    | some u =>
      rw [nested?] at hfound
      have hnamed : u.isClassNamed name = true := by simpa using List.find?_some hfound
      exact ⟨e', List.mem_cons_self, u, List.mem_of_find?_eq_some hfound, hnamed, Option.some_or⟩
    | none =>
      have hrest : e ∈ rest := by
        rcases List.mem_cons.1 he with rfl | he
        · exact absurd hfound h
        · exact he
      obtain ⟨e'', he'', u, hu, hnamed, hres⟩ := ih hrest
      exact ⟨e'', List.mem_cons_of_mem _ he'', u, hu, hnamed, by rw [Option.none_or, hres]⟩

end ClientGen
