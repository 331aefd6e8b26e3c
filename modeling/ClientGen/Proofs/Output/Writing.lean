import ClientGen.Output.Writer
import ClientGen.Proofs.Output.Places
import Mathlib.Data.List.Nodup
import Mathlib.Logic.Function.Basic

/-!
# Writing source files

Both ways of writing a file come to the same: the directories are made, and the file stands
at the place that its path leads to (`ClientGen.FileTree.Stores`). What writing in either way
takes, and what it leaves when it fails, is said once for all output settings, in
`ClientGen.Writing.writeUnit_eq_ok_iff` and `ClientGen.Writing.eq_of_writeUnit_eq_error`.

The one thing that an atomic write needs and a direct one does not is **room for a temporary
name**, which is longer than the name of the file (`ClientGen.FileTree.TakesTemporary`). With
the usual limits a name of more than 241 bytes is written directly only.
-/

namespace ClientGen

open Writing

namespace Writing

/-! ### Temporary names -/

theorem ofDigitChars_replicate_append (k : Nat) (ds : List Char) :
    Nat.ofDigitChars 10 (List.replicate k '0' ++ ds) 0 = Nat.ofDigitChars 10 ds 0 := by
  induction k with
  | zero => rfl
  | succ k ih =>
    rw [List.replicate_succ, List.cons_append, Nat.ofDigitChars_cons]
    exact ih

theorem temporaryName_injective (name : String) : Function.Injective (temporaryName name) := by
  intro m n h
  have hchars := congrArg String.toList h
  simp only [temporaryName, String.toList_append, String.toList_ofList] at hchars
  have hdigits := List.append_cancel_left (List.append_cancel_right hchars)
  have hvalue := congrArg (Nat.ofDigitChars 10 · 0) hdigits
  simpa only [ofDigitChars_replicate_append, Nat.ofDigitChars_ten_toDigits] using hvalue

theorem lt_length_temporaryName (name : String) (n : Nat) :
    name.length + 5 < (temporaryName name n).length := by
  have hdot : ".".length = 1 := by decide
  have htmp : ".tmp".length = 4 := by decide
  simp only [temporaryName, String.length_append, hdot, htmp]
  omega

theorem temporaryName_ne (name : String) (n : Nat) : temporaryName name n ≠ name := by
  intro h
  have := lt_length_temporaryName name n
  rw [h] at this
  omega

theorem temporaryName_ne_dots (name : String) (n : Nat) : temporaryName name n ≠ ".." := by
  intro h
  have hlength := lt_length_temporaryName name n
  have hdots : "..".length = 2 := by decide
  rw [h, hdots] at hlength
  omega

/-- The path of the first temporary file that is tried for a file. -/
def temporaryPath (p : Path) : Path :=
  ⟨true, Path.collapse p.parent.parts ++ [temporaryName p.name 0]⟩

theorem collapse_temporaryPath (p : Path) :
    Path.collapse (temporaryPath p).parts = (temporaryPath p).parts := by
  refine Path.collapse_of_not_mem ?_
  rw [temporaryPath, List.mem_append, List.mem_singleton, not_or]
  exact ⟨Path.not_mem_collapse _, (temporaryName_ne_dots p.name 0).symm⟩

theorem hasNull_temporaryPath {p : Path} (h : p.hasNull = false) :
    (temporaryPath p).hasNull = false := by
  rw [Path.hasNull, List.any_eq_false] at h ⊢
  have hname : '\x00' ∉ p.name.toList := by
    rw [Path.name]
    cases hlast : p.parts.getLast? with
    | none => exact List.not_mem_nil
    | some last => simpa using h last (List.mem_of_getLast? hlast)
  intro part hpart
  rcases List.mem_append.1 hpart with hpart | hpart
  · exact h part (List.mem_of_mem_dropLast (Path.collapse_subset _ hpart))
  · rw [List.mem_singleton.1 hpart, List.contains_iff_mem]
    simp only [temporaryName, String.toList_append, List.mem_append, not_or]
    exact ⟨⟨⟨⟨by decide, hname⟩, by decide⟩, by decide⟩, by decide⟩

variable {t t' : FileTree} {p : Path}

/-- Among one number more than there are entries, one gives a name that is free. -/
theorem exists_free (t : FileTree) (dir : List String) (name : String) :
    ∃ n ∈ List.range (t.entries.length + 1), t.find? (dir ++ [temporaryName name n]) = none := by
  -- otherwise there would be more names that are taken than there are entries
  by_contra hnone
  push Not at hnone
  let places := (List.range (t.entries.length + 1)).map fun n => dir ++ [temporaryName name n]
  have hnodup : places.Nodup := by
    refine List.nodup_range.map fun m n h => temporaryName_injective name ?_
    exact List.singleton_inj.1 (List.append_cancel_left h)
  have hsubset : places ⊆ t.entries.map Prod.fst := by
    intro place hplace
    obtain ⟨n, hn, rfl⟩ := List.mem_map.1 hplace
    obtain ⟨e, he⟩ := Option.ne_none_iff_exists'.1 (hnone n hn)
    rw [FileTree.find?_of_ne_nil t (List.append_ne_nil_of_right_ne_nil _ (List.cons_ne_nil _ _)),
      List.lookup_eq_some_iff] at he
    obtain ⟨before, after, hentries, -⟩ := he
    rw [hentries, List.map_append, List.map_cons]
    exact List.mem_append_right _ List.mem_cons_self
  have hlength := hnodup.length_le_of_subset hsubset
  simp only [places, List.length_map, List.length_range] at hlength
  omega

/-- A temporary file is made beside its file, where nothing was. -/
theorem exists_makeTemporary {first : List String}
    (h : t.locate .root (temporaryPath p) = .ok first) :
    ∃ n, t.find? (Path.collapse p.parent.parts ++ [temporaryName p.name n]) = none ∧
      makeTemporary p t = .ok (Path.collapse p.parent.parts ++ [temporaryName p.name n])
        (t.put (Path.collapse p.parent.parts ++ [temporaryName p.name n]) (.file "")) := by
  have hfirst : first.dropLast = Path.collapse p.parent.parts := by
    rw [FileTree.eq_collapse_of_walk (FileTree.locate_root_eq_ok_iff.1 h).2, collapse_temporaryPath,
      temporaryPath, List.dropLast_concat]
  rw [temporaryPath] at h
  rw [makeTemporary, h]
  simp only [hfirst]
  generalize hfree : List.find? _ _ = free
  cases free with
  | none =>
    obtain ⟨n, hn, hplace⟩ := exists_free t (Path.collapse p.parent.parts) p.name
    exact absurd (by rw [hplace]; rfl) (List.find?_eq_none.1 hfree n hn)
  | some n =>
    have hn := List.find?_some hfree
    exact ⟨n, Option.isNone_iff_eq_none.1 hn, rfl⟩

end Writing

/-! ### Where a file is written -/

namespace FileTree

variable {t t' : FileTree} {p : Path} {place : List String}

/-- The limits leave room for a temporary file beside a path. -/
def TakesTemporary (t : FileTree) (p : Path) : Prop :=
  t.limits.refusesName (temporaryName p.name 0) = false ∧
    t.limits.refusesPath (temporaryPath p).text = false

/-- **A file is stored at a path**: the directories on the way are made, and the file stands
at the place that the path leads to then, where there is no directory. -/
def Stores (t : FileTree) (p : Path) (content : String) (t' : FileTree) : Prop :=
  ∃ made place, t.makeDirs p.parent = (made, none) ∧ made.locate .root p = .ok place ∧
    made.find? place ≠ some .directory ∧ t' = made.put place (.file content)

/-- A path that does not lead to a directory ends in a name, in the directory that its other
parts lead to. -/
theorem eq_append_name_of_walk (h : t.walk p.parts = .ok place)
    (hplace : t.find? place ≠ some .directory) :
    t.walk p.parent.parts = .ok (Path.collapse p.parent.parts) ∧
      t.HasDirectory (Path.collapse p.parent.parts) ∧ p.name ≠ ".." ∧
      t.limits.refusesName p.name = false ∧ place = Path.collapse p.parent.parts ++ [p.name] := by
  have hne : p.parts ≠ [] := by
    intro hnil
    rw [hnil] at h
    cases h
    exact hplace rfl
  rw [← Path.parts_parent_append_name hne, walk_append_singleton] at h
  obtain ⟨here, hwalk, h⟩ := Outcome.bind_eq_ok.1 h
  obtain rfl := eq_collapse_of_walk hwalk
  obtain ⟨hdir, ⟨-, rfl⟩ | ⟨hname, hlimit, rfl⟩⟩ := step_eq_ok_iff.1 h
  · exact absurd (hasDirectory_dropLast_of_walk hwalk).find? hplace
  · exact ⟨hwalk, (hasDirectory_dropLast_of_walk hwalk).of_dropLast hdir, hname, hlimit, rfl⟩

/-- Where a file can be stored, a temporary file can be made beside it if there is room. -/
theorem locate_temporaryPath (h : t.locate .root p = .ok place)
    (hplace : t.find? place ≠ some .directory) (htake : t.TakesTemporary p) :
    t.locate .root (temporaryPath p) = .ok (temporaryPath p).parts := by
  obtain ⟨hcheck, hwalk⟩ := locate_root_eq_ok_iff.1 h
  obtain ⟨hparent, hdir, -, -, -⟩ := eq_append_name_of_walk hwalk hplace
  refine locate_root_eq_ok_iff.2 ⟨checkPath_eq_ok_iff.2 ⟨?_, htake.2⟩, ?_⟩
  · exact hasNull_temporaryPath (checkPath_eq_ok_iff.1 hcheck).1
  · rw [temporaryPath, walk_append_singleton, walk_self_of_walk hparent]
    exact step_eq_ok_iff.2
      ⟨hdir.find?, .inr ⟨temporaryName_ne_dots p.name 0, htake.1, rfl⟩⟩

theorem takesTemporary_of_locate {first : List String}
    (h : t.locate .root (temporaryPath p) = .ok first) : t.TakesTemporary p := by
  obtain ⟨hcheck, hwalk⟩ := locate_root_eq_ok_iff.1 h
  refine ⟨?_, (checkPath_eq_ok_iff.1 hcheck).2⟩
  rw [temporaryPath, walk_append_singleton] at hwalk
  obtain ⟨_, -, hstep⟩ := Outcome.bind_eq_ok.1 hwalk
  obtain ⟨-, ⟨hdots, -⟩ | ⟨-, hname, -⟩⟩ := step_eq_ok_iff.1 hstep
  · exact absurd hdots (temporaryName_ne_dots p.name 0)
  · exact hname

theorem TakesTemporary.congr (hlimits : t'.limits = t.limits) :
    t'.TakesTemporary p ↔ t.TakesTemporary p := by
  rw [TakesTemporary, TakesTemporary, hlimits]

theorem takesTemporary_of_unlimited (h : t.limits = .unlimited) (p : Path) :
    t.TakesTemporary p := by
  rw [TakesTemporary, h]
  exact ⟨rfl, rfl⟩

/-- A temporary file beside a path is not where the path leads to. -/
theorem ne_temporary_of_walk {n : Nat} (h : t.walk p.parts = .ok place)
    (hfree : t.find? (Path.collapse p.parent.parts ++ [temporaryName p.name n]) = none) :
    place ≠ Path.collapse p.parent.parts ++ [temporaryName p.name n] := by
  rintro rfl
  obtain ⟨-, -, -, -, hname⟩ := eq_append_name_of_walk h (by rw [hfree]; exact nofun)
  exact temporaryName_ne p.name n (List.singleton_inj.1 (List.append_cancel_left hname))

/-- A new file does not change where paths lead to. -/
theorem locate_put_file {other : List String} (content : String) (hfree : t.find? other = none) :
    (t.put other (.file content)).locate .root p = .ok place ↔ t.locate .root p = .ok place := by
  rw [locate_root_eq_ok_iff, locate_root_eq_ok_iff]
  refine and_congr Iff.rfl ⟨fun h => walk_of_kept (limits_put t _ _).symm (fun q hq => ?_) h,
    fun h => walk_of_kept (limits_put t _ _) (fun q hq => ?_) h⟩
  · by_cases heq : q = other
    · rw [heq, find?_put_self t _ (ne_nil_of_find?_eq_none hfree)] at hq
      cases hq
    · rwa [find?_put_of_ne t _ heq] at hq
  · rw [find?_put_of_ne t _ (by rintro rfl; rw [hfree] at hq; cases hq), hq]

end FileTree

namespace Writing

variable {t t' : FileTree} {p : Path} {content : String} {validate requireNamespace : Bool}
  {u : Unit}

/-! ### The parts of a write -/

theorem change_eq_ok_iff {f : FileTree → Except FileFault FileTree} :
    change f t = .ok u t' ↔ f t = .ok t' := by
  rw [change]
  cases f t <;> simp

theorem eq_of_change_eq_error {f : FileTree → Except FileFault FileTree} {e : WriteFailure}
    (h : change f t = .error e t') : t' = t := by
  rw [change] at h
  cases hf : f t <;> rw [hf] at h <;> cases h
  rfl

theorem makeDirs_eq_ok_iff : makeDirs p t = .ok u t' ↔ t.makeDirs p = (t', none) := by
  rw [makeDirs]
  rcases t.makeDirs p with ⟨made, _ | fault⟩ <;> simp

theorem eq_of_makeDirs_eq_error {e : WriteFailure} (h : makeDirs p t = .error e t') :
    t' = (t.makeDirs p).1 := by
  rw [makeDirs] at h
  rcases hmade : t.makeDirs p with ⟨made, _ | fault⟩ <;> rw [hmade] at h <;> cases h
  rfl

/-- The check of a text before it is written, if it is wanted. -/
def checkIf (validate : Bool) (content : String) (requireNamespace : Bool) : Writing Unit :=
  if validate then check content requireNamespace else pure ()

theorem checkIf_eq_ok_iff :
    checkIf validate content requireNamespace t = .ok u t' ↔
      (validate = true → Output.check content requireNamespace = .ok ()) ∧ t' = t := by
  rw [checkIf]
  cases validate with
  | false => simp [eq_comm (a := t')]
  | true =>
    rw [if_pos rfl, check]
    cases Output.check content requireNamespace <;> simp [eq_comm (a := t')]

theorem eq_of_checkIf_eq_error {e : WriteFailure}
    (h : checkIf validate content requireNamespace t = .error e t') : t' = t := by
  rw [checkIf] at h
  cases validate with
  | false => cases h
  | true =>
    rw [if_pos rfl, check] at h
    cases hcheck : Output.check content requireNamespace <;> rw [hcheck] at h <;> cases h
    rfl

/-! ### Direct writes -/

theorem writeDirectly_eq :
    writeDirectly p content validate requireNamespace =
      (do
        checkIf validate content requireNamespace
        makeDirs p.parent
        change fun t => t.writeFile p content) := by
  cases validate <;> rfl

/-- **A direct write** succeeds when the text passes its check and the file is stored. -/
theorem writeDirectly_eq_ok_iff :
    writeDirectly p content validate requireNamespace t = .ok u t' ↔
      (validate = true → Output.check content requireNamespace = .ok ()) ∧
        t.Stores p content t' := by
  rw [writeDirectly_eq]
  simp only [Session.bind_eq_ok, checkIf_eq_ok_iff, makeDirs_eq_ok_iff, change_eq_ok_iff,
    FileTree.writeFile_eq_ok_iff]
  constructor
  · rintro ⟨_, _, ⟨hcheck, rfl⟩, _, made, hmade, place, hplace⟩
    exact ⟨hcheck, made, place, hmade, hplace⟩
  · rintro ⟨hcheck, made, place, hmade, hplace⟩
    exact ⟨(), t, ⟨hcheck, rfl⟩, (), made, hmade, place, hplace⟩

theorem eq_of_writeDirectly_eq_error {e : WriteFailure}
    (h : writeDirectly p content validate requireNamespace t = .error e t') :
    t' = t ∨ t' = (t.makeDirs p.parent).1 := by
  rw [writeDirectly_eq] at h
  rcases Session.bind_eq_error.1 h with hcheck | ⟨_, _, hcheck, hrest⟩
  · exact .inl (eq_of_checkIf_eq_error hcheck)
  · obtain ⟨-, rfl⟩ := checkIf_eq_ok_iff.1 hcheck
    rcases Session.bind_eq_error.1 hrest with hmade | ⟨_, made, hmade, hwrite⟩
    · exact .inr (eq_of_makeDirs_eq_error hmade)
    · rw [makeDirs_eq_ok_iff.1 hmade]
      exact .inr (eq_of_change_eq_error hwrite)

/-! ### Atomic writes -/

/-- The parts of an atomic write after its temporary file has been filled. -/
def settle (temporary : List String) (p : Path) (content : String) (validate : Bool)
    (requireNamespace : Bool) : Writing Unit := do
  checkIf validate content requireNamespace
  change fun t => t.renameFile temporary p

theorem tryCatch_run {α : Type} (x : Writing α) (handle : WriteFailure → Writing α)
    (t : FileTree) :
    (tryCatch x handle : Writing α) t = match x t with
      | .ok a t' => .ok a t'
      | .error e t' => handle e t' := by
  simp only [tryCatch, tryCatchThe, MonadExceptOf.tryCatch, EStateM.tryCatch]
  cases x t <;> rfl

/-- An atomic write whose temporary file can be made: it goes on with the file filled, and
takes it away if that fails. -/
theorem writeAtomically_run {made : FileTree} {temporary : List String}
    (hmade : t.makeDirs p.parent = (made, none))
    (htemporary : makeTemporary p made = .ok temporary (made.put temporary (.file ""))) :
    writeAtomically p content validate requireNamespace t =
      match settle temporary p content validate requireNamespace
        (made.put temporary (.file content)) with
      | .ok _ t' => .ok () t'
      | .error e t' => .error e (t'.erase temporary) := by
  rw [writeAtomically, Session.bind_run_of_ok (makeDirs_eq_ok_iff (u := ()).2 hmade),
    Session.bind_run_of_ok htemporary, tryCatch_run]
  have hfill : fillAndRename temporary p content validate requireNamespace
      (made.put temporary (.file "")) =
      settle temporary p content validate requireNamespace
        (made.put temporary (.file content)) := by
    rw [← FileTree.put_put made temporary (.file "") (.file content)]
    cases validate <;> rfl
  rw [hfill]
  cases settle temporary p content validate requireNamespace
    (made.put temporary (.file content)) <;> rfl

/-- With a temporary file that is free, what is left of an atomic write stores the file. -/
theorem settle_eq_ok_iff {n : Nat}
    (hfree : t.find? (Path.collapse p.parent.parts ++ [temporaryName p.name n]) = none) :
    settle (Path.collapse p.parent.parts ++ [temporaryName p.name n]) p content validate
        requireNamespace
        (t.put (Path.collapse p.parent.parts ++ [temporaryName p.name n]) (.file content))
        = .ok u t' ↔
      (validate = true → Output.check content requireNamespace = .ok ()) ∧
        ∃ place, t.locate .root p = .ok place ∧ t.find? place ≠ some .directory ∧
          t' = t.put place (.file content) := by
  have hplace : ∀ {place}, t.locate .root p = .ok place →
      (t.put (Path.collapse p.parent.parts ++ [temporaryName p.name n]) (.file content)).find?
        place = t.find? place := fun h =>
    FileTree.find?_put_of_ne t _
      (FileTree.ne_temporary_of_walk (FileTree.locate_root_eq_ok_iff.1 h).2 hfree)
  have hsource := FileTree.find?_put_self t (.file content)
    (FileTree.ne_nil_of_find?_eq_none hfree)
  rw [settle, Session.bind_eq_ok]
  -- the temporary file is new and is not where the path leads, so it may be left out of account
  constructor
  · rintro ⟨_, _, hchecked, hchange⟩
    obtain ⟨hcheck, rfl⟩ := checkIf_eq_ok_iff.1 hchecked
    obtain ⟨place, hlocate, -, hdir, rfl⟩ :=
      (FileTree.renameFile_eq_ok_iff hsource).1 (change_eq_ok_iff.1 hchange)
    rw [FileTree.locate_put_file content hfree] at hlocate
    rw [hplace hlocate] at hdir
    exact ⟨hcheck, place, hlocate, hdir, by rw [FileTree.erase_put _ hfree]⟩
  · rintro ⟨hcheck, place, hlocate, hdir, rfl⟩
    obtain ⟨-, -, hname, -⟩ :=
      FileTree.eq_append_name_of_walk (FileTree.locate_root_eq_ok_iff.1 hlocate).2 hdir
    refine ⟨(), _, checkIf_eq_ok_iff.2 ⟨hcheck, rfl⟩,
      change_eq_ok_iff.2 ((FileTree.renameFile_eq_ok_iff hsource).2 ?_)⟩
    exact ⟨place, (FileTree.locate_put_file content hfree).2 hlocate, hname,
      by rwa [hplace hlocate], by rw [FileTree.erase_put _ hfree]⟩

theorem exists_locate_of_makeTemporary {temporary : List String}
    (h : makeTemporary p t = .ok temporary t') :
    ∃ first, t.locate .root (temporaryPath p) = .ok first := by
  rw [temporaryPath]
  rw [makeTemporary] at h
  split at h
  · cases h
  · rename_i first hfirst
    exact ⟨first, hfirst⟩

/-- **An atomic write** succeeds when the text passes its check and the file is stored, if
there is room for the temporary name. -/
theorem writeAtomically_eq_ok_iff :
    writeAtomically p content validate requireNamespace t = .ok u t' ↔
      (validate = true → Output.check content requireNamespace = .ok ()) ∧
        t.TakesTemporary p ∧ t.Stores p content t' := by
  have hlimits := (FileTree.grows_makeDirs t p.parent).limits
  constructor
  · intro h
    obtain ⟨_, made, hmade, hrest⟩ := Session.bind_eq_ok.1 h
    obtain ⟨_, _, htemporary, -⟩ := Session.bind_eq_ok.1 hrest
    obtain ⟨first, hfirst⟩ := exists_locate_of_makeTemporary htemporary
    rw [makeDirs_eq_ok_iff] at hmade
    rw [hmade] at hlimits
    obtain ⟨n, hfree, hmake⟩ := exists_makeTemporary hfirst
    rw [writeAtomically_run hmade hmake] at h
    split at h
    · rename_i hsettle
      cases h
      obtain ⟨hcheck, place, hlocate, hdir, rfl⟩ := (settle_eq_ok_iff hfree).1 hsettle
      exact ⟨hcheck, (FileTree.TakesTemporary.congr hlimits).1
        (FileTree.takesTemporary_of_locate hfirst), made, place, hmade, hlocate, hdir, rfl⟩
    · cases h
  · rintro ⟨hcheck, htake, made, place, hmade, hlocate, hdir, rfl⟩
    rw [hmade] at hlimits
    have hfirst := FileTree.locate_temporaryPath hlocate hdir
      ((FileTree.TakesTemporary.congr hlimits).2 htake)
    obtain ⟨n, hfree, hmake⟩ := exists_makeTemporary hfirst
    rw [writeAtomically_run hmade hmake,
      (settle_eq_ok_iff hfree (u := ())).2 ⟨hcheck, place, hlocate, hdir, rfl⟩]

theorem eq_of_writeAtomically_eq_error {e : WriteFailure}
    (h : writeAtomically p content validate requireNamespace t = .error e t') :
    t' = (t.makeDirs p.parent).1 := by
  rcases Session.bind_eq_error.1 h with hmade | ⟨_, made, hmade, hrest⟩
  · exact eq_of_makeDirs_eq_error hmade
  · rw [makeDirs_eq_ok_iff] at hmade
    rw [hmade]
    rcases Session.bind_eq_error.1 hrest with htemporary | ⟨_, _, htemporary, -⟩
    · rw [makeTemporary] at htemporary
      split at htemporary
      · cases htemporary
        rfl
      · cases htemporary
    · obtain ⟨first, hfirst⟩ := exists_locate_of_makeTemporary htemporary
      obtain ⟨n, hfree, hmake⟩ := exists_makeTemporary hfirst
      rw [writeAtomically_run hmade hmake] at h
      split at h
      · cases h
      · rename_i hsettle
        cases h
        -- a failure after the temporary file was filled leaves the tree at that point
        rcases Session.bind_eq_error.1 hsettle with hcheck | ⟨_, _, hcheck, hchange⟩
        · rw [eq_of_checkIf_eq_error hcheck, FileTree.erase_put _ hfree]
        · obtain ⟨-, rfl⟩ := checkIf_eq_ok_iff.1 hcheck
          rw [eq_of_change_eq_error hchange, FileTree.erase_put _ hfree]

/-! ### Units -/

/-- The refusal to write over something, if the output mode wants it. -/
def refuseIf (mode : OutputMode) (p : Path) : Writing Unit :=
  match mode with
  | .keep => refuseExisting p
  | _ => pure ()

theorem refuseIf_eq_ok_iff {mode : OutputMode} :
    refuseIf mode p t = .ok u t' ↔
      (mode = .keep → t.exists? .root p = .ok false) ∧ t' = t := by
  cases mode with
  | keep =>
    rw [refuseIf, refuseExisting]
    rcases t.exists? .root p with _ | _ | _ <;> simp [eq_comm (a := t')]
  | force => simp [refuseIf, eq_comm (a := t')]
  | other value => simp [refuseIf, eq_comm (a := t')]

theorem eq_of_refuseIf_eq_error {mode : OutputMode} {e : WriteFailure}
    (h : refuseIf mode p t = .error e t') : t' = t := by
  cases mode with
  | keep =>
    rw [refuseIf, refuseExisting] at h
    rcases hexists : t.exists? .root p with _ | _ | _ <;> rw [hexists] at h <;> cases h <;> rfl
  | force => cases h
  | other value => cases h

variable {output : OutputConfig} {dir q : Path} {fileName : String}

/-- Write a file in the way that the output settings say. -/
def writeTo (output : OutputConfig) (requireNamespace : Bool) (p : Path) (content : String) :
    Writing Unit :=
  if output.atomic.truthy then
    writeAtomically p content output.validate.truthy requireNamespace
  else
    writeDirectly p content output.validate.truthy requireNamespace

theorem writeTo_eq_ok_iff :
    writeTo output requireNamespace p content t = .ok u t' ↔
      (output.validate.truthy = true → Output.check content requireNamespace = .ok ()) ∧
      (output.atomic.truthy = true → t.TakesTemporary p) ∧ t.Stores p content t' := by
  rw [writeTo]
  split
  · rename_i hatomic
    rw [writeAtomically_eq_ok_iff, forall_prop_of_true hatomic]
  · rename_i hatomic
    rw [writeDirectly_eq_ok_iff, forall_prop_of_false hatomic, true_and]

theorem eq_of_writeTo_eq_error {e : WriteFailure}
    (h : writeTo output requireNamespace p content t = .error e t') :
    t' = t ∨ t' = (t.makeDirs p.parent).1 := by
  rw [writeTo] at h
  split at h
  · exact .inr (eq_of_writeAtomically_eq_error h)
  · exact eq_of_writeDirectly_eq_error h

theorem writeUnit_eq (output : OutputConfig) (requireNamespace : Bool) (dir : Path)
    (fileName content : String) :
    writeUnit output requireNamespace dir fileName content =
      (do
        refuseIf output.mode (dir.join (Path.ofString fileName))
        writeTo output requireNamespace (dir.join (Path.ofString fileName)) content
        return dir.join (Path.ofString fileName)) := by
  rw [writeUnit]
  unfold writeTo
  cases output.mode <;> cases output.atomic.truthy <;> rfl

/-- **What it takes to write a unit**: where existing files are kept there is nothing at its
path, the text passes its check if it is wanted, a temporary name has room if one is used,
and the file is stored. -/
theorem writeUnit_eq_ok_iff :
    writeUnit output requireNamespace dir fileName content t = .ok q t' ↔
      q = dir.join (Path.ofString fileName) ∧
      (output.mode = .keep → t.exists? .root q = .ok false) ∧
      (output.validate.truthy = true → Output.check content requireNamespace = .ok ()) ∧
      (output.atomic.truthy = true → t.TakesTemporary q) ∧ t.Stores q content t' := by
  rw [writeUnit_eq]
  constructor
  · intro h
    obtain ⟨_, _, hrefuse, hrest⟩ := Session.bind_eq_ok.1 h
    obtain ⟨hkeep, rfl⟩ := refuseIf_eq_ok_iff.1 hrefuse
    obtain ⟨_, _, hwrite, hpure⟩ := Session.bind_eq_ok.1 hrest
    cases hpure
    exact ⟨rfl, hkeep, writeTo_eq_ok_iff.1 hwrite⟩
  · rintro ⟨rfl, hkeep, hwrite⟩
    exact Session.bind_eq_ok.2 ⟨(), t, refuseIf_eq_ok_iff.2 ⟨hkeep, rfl⟩,
      Session.bind_eq_ok.2 ⟨(), t', writeTo_eq_ok_iff.2 hwrite, rfl⟩⟩

/-- **What a failed write leaves**: the tree as it was, or with the directories made. -/
theorem eq_of_writeUnit_eq_error {e : WriteFailure}
    (h : writeUnit output requireNamespace dir fileName content t = .error e t') :
    t' = t ∨ t' = (t.makeDirs (dir.join (Path.ofString fileName)).parent).1 := by
  rw [writeUnit_eq] at h
  rcases Session.bind_eq_error.1 h with hrefuse | ⟨_, _, hrefuse, hrest⟩
  · exact .inl (eq_of_refuseIf_eq_error hrefuse)
  · obtain ⟨-, rfl⟩ := refuseIf_eq_ok_iff.1 hrefuse
    rcases Session.bind_eq_error.1 hrest with hwrite | ⟨_, _, -, hpure⟩
    · exact eq_of_writeTo_eq_error hwrite
    · cases hpure

end Writing

end ClientGen
