import ClientGen.Proofs.Output.Writing

/-!
# What a write leaves

A write that fails leaves all files as they were, temporary ones included, and the directories
that it has made are empty; a write that succeeds changes the file at its path and no other
(`ClientGen.Writing.leaves_writeUnit`). This holds for every output mode, with and without the
check, for atomic and for direct writes, and whatever stands in the way.

Where names may have any length, atomic and direct writes succeed on the same trees and leave
the same tree (`ClientGen.Writing.writeUnit_atomic_iff_direct`), although they look at the text
and at the directories in a different order.
-/

namespace ClientGen

namespace FileTree

variable {t t' : FileTree} {p : Path} {content : String}

/-- The text of the file at a place, if there is one. -/
def fileAt? (t : FileTree) (place : List String) : Option String :=
  match t.find? place with
  | some (.file text) => some text
  | _ => none

theorem fileAt?_eq_some_iff {place : List String} {text : String} :
    t.fileAt? place = some text ↔ t.find? place = some (.file text) := by
  rw [fileAt?]
  rcases t.find? place with _ | _ | _ <;> simp

theorem fileAt?_congr {place : List String} (h : t'.find? place = t.find? place) :
    t'.fileAt? place = t.fileAt? place := by
  rw [fileAt?, fileAt?, h]

/-- **The files are left alone**: no file is changed, lost or new, directories stay, and one
that is new has no file anywhere in it. -/
structure LeavesFiles (t t' : FileTree) : Prop where
  files : ∀ place, t'.fileAt? place = t.fileAt? place
  directories : ∀ place, t.find? place = some .directory → t'.find? place = some .directory
  empty : ∀ place, t.find? place = none → t'.find? place = some .directory →
    ∀ q, place <+: q → t'.fileAt? q = none

/-- **Only one file is written**: the path leads to a file with the content, every other file
is as it was, and directories stay. -/
structure WritesOnly (t : FileTree) (p : Path) (content : String) (t' : FileTree) : Prop where
  text : t'.text? p = some content
  others : ∀ place, t'.locate .root p ≠ .ok place → t'.fileAt? place = t.fileAt? place
  directories : ∀ place, t.find? place = some .directory → t'.find? place = some .directory

theorem Grows.fileAt? (h : Grows t t') (place : List String) :
    t'.fileAt? place = t.fileAt? place := by
  cases hplace : t.find? place with
  | some e => exact fileAt?_congr ((h.kept hplace).trans hplace.symm)
  | none =>
    cases hplace' : t'.find? place with
    | none => exact fileAt?_congr (hplace'.trans hplace.symm)
    | some e =>
      rw [FileTree.fileAt?, FileTree.fileAt?, hplace, hplace', h.made hplace hplace']

theorem Grows.leavesFiles (h : Grows t t') (ht : t.WellFormed) : LeavesFiles t t' := by
  refine ⟨h.fileAt?, fun _ => h.kept, ?_⟩
  intro place hnone _ q hq
  rw [h.fileAt?, Option.eq_none_iff_forall_ne_some]
  intro text htext
  have hfile := fileAt?_eq_some_iff.1 htext
  -- a file below the place would have stood in it before
  by_cases heq : place = q
  · rw [heq, hfile] at hnone
    cases hnone
  · rw [ht.find?_of_prefix hfile hq heq] at hnone
    cases hnone

theorem text?_eq_some_iff {text : String} :
    t.text? p = some text ↔
      ∃ place, t.locate .root p = .ok place ∧ t.find? place = some (.file text) := by
  rw [← entryAt_eq_ok_iff, text?]
  rcases t.entryAt .root p with _ | _ | _ <;> simp

namespace Stores

/-- What a stored file leaves: the place of its path, and the same way there. -/
theorem exists_place (h : t.Stores p content t') :
    ∃ place, place ≠ [] ∧ t'.locate .root p = .ok place ∧
      t'.find? place = some (.file content) ∧
      (∀ q, q ≠ place → t'.find? q = (t.makeDirs p.parent).1.find? q) ∧
      (t.makeDirs p.parent).1.find? place ≠ some .directory := by
  obtain ⟨made, place, hmade, hlocate, hdir, rfl⟩ := h
  have hne : place ≠ [] := by
    rintro rfl
    exact hdir rfl
  rw [hmade]
  refine ⟨place, hne, ?_, find?_put_self made _ hne, fun q => find?_put_of_ne made _, hdir⟩
  obtain ⟨hcheck, hwalk⟩ := locate_root_eq_ok_iff.1 hlocate
  refine locate_root_eq_ok_iff.2 ⟨hcheck, walk_of_kept (limits_put made _ _) ?_ hwalk⟩
  intro q hq
  rw [find?_put_of_ne made _ (by rintro rfl; exact hdir hq), hq]

theorem writesOnly (h : t.Stores p content t') : WritesOnly t p content t' := by
  have hgrows := grows_makeDirs t p.parent
  obtain ⟨place, -, hlocate, hfile, hothers, hdir⟩ := h.exists_place
  refine ⟨text?_eq_some_iff.2 ⟨place, hlocate, hfile⟩, ?_, ?_⟩
  · intro q hq
    have hne : q ≠ place := by
      rintro rfl
      exact hq hlocate
    rw [fileAt?_congr (hothers q hne), hgrows.fileAt?]
  · intro q hq
    have hkept := hgrows.kept hq
    rw [hothers q (by rintro rfl; exact hdir hkept), hkept]

theorem wellFormed (h : t.Stores p content t') (ht : t.WellFormed) : t'.WellFormed := by
  obtain ⟨made, place, hmade, hlocate, hdir, rfl⟩ := h
  have hwf := ht.makeDirs p.parent
  rw [hmade] at hwf
  have hne : place ≠ [] := by
    rintro rfl
    exact hdir rfl
  exact hwf.put hne
    (hasDirectory_dropLast_of_walk (locate_root_eq_ok_iff.1 hlocate).2).find?
    fun h => absurd h hdir

end Stores

end FileTree

namespace Writing

open FileTree

variable {t t' : FileTree}

/-- **A failed write leaves the files as they were, and a successful one writes one file.** -/
theorem leaves_writeUnit (output : OutputConfig) (requireNamespace : Bool) (dir : Path)
    (fileName content : String) (ht : t.WellFormed) :
    match writeUnit output requireNamespace dir fileName content t with
    | .ok p t' => p = dir.join (Path.ofString fileName) ∧ WritesOnly t p content t' ∧ t'.WellFormed
    | .error _ t' => LeavesFiles t t' ∧ t'.WellFormed := by
  split
  · rename_i p t' h
    obtain ⟨hp, -, -, -, hstores⟩ := writeUnit_eq_ok_iff.1 h
    exact ⟨hp, hstores.writesOnly, hstores.wellFormed ht⟩
  · rename_i e t' h
    rcases eq_of_writeUnit_eq_error h with rfl | rfl
    · exact ⟨(Grows.refl _).leavesFiles ht, ht⟩
    · exact ⟨(grows_makeDirs t _).leavesFiles ht, ht.makeDirs _⟩

/-- An output directory with one file in it. -/
def shelf : FileTree :=
  .mk [(["out"], .directory), (["out", "A.cs"], .file "class A")]

/-- A write that fails after its directory and its temporary file were made. -/
theorem leaves_writeUnit_shelf :
    shelf.WellFormed ∧ ∃ e t',
      writeUnit {} true ⟨true, ["out"]⟩ "sub/B.cs" "class B" shelf = .error e t' ∧
      t'.find? ["out", "sub"] = some .directory ∧ LeavesFiles shelf t' ∧ t'.WellFormed := by
  have hwf : shelf.WellFormed := wellFormed_of_entries (by decide)
  have hrun : writeUnit {} true ⟨true, ["out"]⟩ "sub/B.cs" "class B" shelf =
      .error (.issue ⟨.noNamespace, ""⟩) (shelf.put ["out", "sub"] .directory) := rfl
  have hleaves := leaves_writeUnit {} true ⟨true, ["out"]⟩ "sub/B.cs" "class B" hwf
  rw [hrun] at hleaves
  exact ⟨hwf, _, _, hrun, by decide, hleaves⟩

/-- Atomic writes succeed where direct ones do and a temporary name has room. -/
theorem writeUnit_atomic_iff (output : OutputConfig) (requireNamespace : Bool) (dir : Path)
    (fileName content : String) (q : Path) :
    writeUnit { output with atomic := .bool true } requireNamespace dir fileName content t
        = .ok q t' ↔
      writeUnit { output with atomic := .bool false } requireNamespace dir fileName content t
        = .ok q t' ∧ t.TakesTemporary q := by
  rw [writeUnit_eq_ok_iff, writeUnit_eq_ok_iff]
  simp only [Json.truthy, forall_const, reduceCtorEq, false_imp_iff, true_and]
  tauto

/-- **Atomic and direct writes agree** where names may have any length: they succeed on the
same trees, and leave the same tree and give the same path. -/
theorem writeUnit_atomic_iff_direct (output : OutputConfig) (requireNamespace : Bool) (dir : Path)
    (fileName content : String) (ht : t.limits = .unlimited) (q : Path) (t' : FileTree) :
    writeUnit { output with atomic := .bool true } requireNamespace dir fileName content t
        = .ok q t' ↔
      writeUnit { output with atomic := .bool false } requireNamespace dir fileName content t
        = .ok q t' := by
  rw [writeUnit_atomic_iff, and_iff_left (takesTemporary_of_unlimited ht q)]

/-- Writing over the file of a tree without limits, by a path through a directory that is
missing. -/
theorem writeUnit_atomic_iff_direct_shelf :
    { shelf with limits := .unlimited }.limits = PathLimits.unlimited ∧ ∃ q t',
      writeUnit { mode := .force, atomic := .bool true } true ⟨true, ["out"]⟩ "sub/../A.cs"
        "using B; namespace C \x7b class A \x7b\x7d \x7d" { shelf with limits := .unlimited }
        = .ok q t' ∧
      writeUnit { mode := .force, atomic := .bool false } true ⟨true, ["out"]⟩ "sub/../A.cs"
        "using B; namespace C \x7b class A \x7b\x7d \x7d" { shelf with limits := .unlimited }
        = .ok q t' ∧
      t'.find? ["out", "sub"] = some .directory := by
  have hpasses : Session.passes (fun _ t' => t'.find? ["out", "sub"] == some .directory)
      (writeUnit { mode := .force, atomic := .bool false } true ⟨true, ["out"]⟩ "sub/../A.cs"
        "using B; namespace C \x7b class A \x7b\x7d \x7d" { shelf with limits := .unlimited })
      = true := by
    decide +kernel
  obtain ⟨q, t', hdirect, htest⟩ := Session.exists_of_passes hpasses
  exact ⟨rfl, q, t', (writeUnit_atomic_iff_direct { mode := .force } _ _ _ _ rfl q t').2 hdirect,
    hdirect, eq_of_beq htest⟩

end Writing

end ClientGen
