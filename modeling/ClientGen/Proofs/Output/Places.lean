import ClientGen.Output.FileTree
import ClientGen.Proofs.Session
import Mathlib.Data.List.Infix

/-!
# Places in file trees

What the operations on a file tree do, told by what stands at each place and not by the list
of entries.

* A walk that succeeds ends where the path leads when its parts `..` are followed beforehand
  (`ClientGen.FileTree.eq_collapse_of_walk`), since there are no links.
* Making directories leaves everything that is there as it is, and what is new is a directory
  (`ClientGen.FileTree.grows_makeDirs`). When it succeeds, the path leads to a directory
  (`ClientGen.FileTree.exists_walk_of_makeDirs`); when the path leads to a directory already,
  nothing is done (`ClientGen.FileTree.makeDirs_of_walk`).

A list of entries may have something that stands in no directory. A tree in which everything
does is `ClientGen.FileTree.WellFormed`, and it stays so.
-/

namespace ClientGen

namespace Path

attribute [ext] Path

/-! ### Following the parts `..` -/

theorem collapse_append_singleton (parts : List String) (part : String) :
    collapse (parts ++ [part]) =
      if part = ".." then (collapse parts).dropLast else collapse parts ++ [part] := by
  rw [collapse, List.foldl_append, List.foldl_cons, List.foldl_nil]
  split
  · rw [collapse, List.drop_one, List.dropLast_reverse]
  · rw [collapse, List.reverse_cons]

theorem not_mem_collapse (parts : List String) : ".." ∉ collapse parts := by
  induction parts using List.reverseRecOn with
  | nil => exact List.not_mem_nil
  | append_singleton parts part ih =>
    rw [collapse_append_singleton]
    split
    · exact fun h => ih (List.mem_of_mem_dropLast h)
    · rename_i hpart
      rw [List.mem_append, List.mem_singleton, not_or]
      exact ⟨ih, fun h => hpart h.symm⟩

theorem collapse_of_not_mem {parts : List String} (h : ".." ∉ parts) :
    collapse parts = parts := by
  induction parts using List.reverseRecOn with
  | nil => rfl
  | append_singleton parts part ih =>
    rw [List.mem_append, List.mem_singleton, not_or] at h
    rw [collapse_append_singleton, if_neg fun hpart => h.2 hpart.symm, ih h.1]

theorem collapse_subset (parts : List String) : collapse parts ⊆ parts := by
  induction parts using List.reverseRecOn with
  | nil => exact List.Subset.refl []
  | append_singleton parts part ih =>
    rw [collapse_append_singleton]
    split
    · exact fun x hx => List.mem_append_left [part] (ih (List.mem_of_mem_dropLast hx))
    · exact List.append_subset.2
        ⟨fun x hx => List.mem_append_left [part] (ih hx), List.subset_append_right parts [part]⟩

@[simp] theorem parts_root_join (p : Path) : (root.join p).parts = p.parts := by
  rw [join]
  split <;> rfl

theorem parts_parent_append_name {p : Path} (h : p.parts ≠ []) :
    p.parent.parts ++ [p.name] = p.parts := by
  rw [parent, name, List.getLast?_eq_getLast_of_ne_nil h, Option.getD_some,
    List.dropLast_append_getLast]

end Path

namespace FileTree

variable {t t' : FileTree}

/-! ### Entries -/

@[simp] theorem find?_nil (t : FileTree) : t.find? [] = some .directory := rfl

theorem find?_of_ne_nil (t : FileTree) {place : List String} (h : place ≠ []) :
    t.find? place = t.entries.lookup place := by
  rw [find?, if_neg (by simpa using h)]

@[simp] theorem limits_put (t : FileTree) (place : List String) (e : FileEntry) :
    (t.put place e).limits = t.limits := rfl

theorem find?_put_self (t : FileTree) {place : List String} (e : FileEntry) (h : place ≠ []) :
    (t.put place e).find? place = some e := by
  have hnone : (t.entries.filter (·.1 ≠ place)).lookup place = none := by
    rw [List.lookup_eq_none_iff]
    intro entry hentry
    have := (List.mem_filter.1 hentry).2
    simpa using fun heq : place = entry.1 => (of_decide_eq_true this) heq.symm
  rw [find?_of_ne_nil _ h, put, List.lookup_append, hnone, Option.none_or, List.lookup_cons,
    beq_self_eq_true]

theorem lookup_filter_of_ne {entries : List (List String × FileEntry)}
    {place other : List String} (h : other ≠ place) :
    (entries.filter (·.1 ≠ place)).lookup other = entries.lookup other := by
  induction entries with
  | nil => rfl
  | cons entry rest ih =>
    obtain ⟨key, e⟩ := entry
    by_cases hkey : key = place
    · rw [List.filter_cons_of_neg (by simpa using hkey), ih, List.lookup_cons,
        beq_false_of_ne fun heq => h (heq.trans hkey)]
    · rw [List.filter_cons_of_pos (by simpa using hkey), List.lookup_cons, List.lookup_cons, ih]

theorem find?_put_of_ne (t : FileTree) {place other : List String} (e : FileEntry)
    (h : other ≠ place) : (t.put place e).find? other = t.find? other := by
  by_cases hother : other = []
  · rw [hother, find?_nil, find?_nil]
  · rw [find?_of_ne_nil _ hother, find?_of_ne_nil _ hother, put, List.lookup_append,
      lookup_filter_of_ne h, List.lookup_cons, beq_false_of_ne h, List.lookup_nil, Option.or_none]

theorem ne_nil_of_find?_eq_none {place : List String} (h : t.find? place = none) :
    place ≠ [] := by
  rintro rfl
  cases h

theorem filter_entries_of_find?_eq_none {place : List String} (h : t.find? place = none) :
    t.entries.filter (·.1 ≠ place) = t.entries := by
  rw [find?_of_ne_nil t (ne_nil_of_find?_eq_none h), List.lookup_eq_none_iff] at h
  rw [List.filter_eq_self]
  intro entry hentry
  have := h entry hentry
  simpa using fun heq : entry.1 = place => by simp [heq] at this

/-- What is put where nothing was can be taken away again. -/
theorem erase_put {place : List String} (e : FileEntry) (h : t.find? place = none) :
    (t.put place e).erase place = t := by
  rw [erase, put, List.filter_append, List.filter_filter]
  simp only [Bool.and_self, filter_entries_of_find?_eq_none h]
  simp

theorem put_put (t : FileTree) (place : List String) (e e' : FileEntry) :
    (t.put place e).put place e' = t.put place e' := by
  simp only [put, List.filter_append, List.filter_filter, Bool.and_self]
  simp

/-! ### Directories that can be reached -/

/-- A place is a directory, and so is everything on the way to it. -/
def HasDirectory (t : FileTree) (place : List String) : Prop :=
  ∀ q, q <+: place → t.find? q = some .directory

namespace HasDirectory

theorem nil (t : FileTree) : t.HasDirectory [] := by
  intro q hq
  rw [List.prefix_nil.1 hq, find?_nil]

theorem find? {place : List String} (h : t.HasDirectory place) :
    t.find? place = some .directory :=
  h place (List.prefix_refl place)

theorem dropLast {place : List String} (h : t.HasDirectory place) :
    t.HasDirectory place.dropLast :=
  fun q hq => h q (hq.trans (List.dropLast_prefix place))

theorem append {here : List String} {part : String} (h : t.HasDirectory here)
    (hpart : t.find? (here ++ [part]) = some .directory) : t.HasDirectory (here ++ [part]) := by
  intro q hq
  rcases List.prefix_concat_iff.1 hq with rfl | hq
  · exact hpart
  · exact h q hq

theorem of_dropLast {place : List String} (h : t.HasDirectory place.dropLast)
    (hplace : t.find? place = some .directory) : t.HasDirectory place := by
  rcases List.eq_nil_or_concat' place with rfl | ⟨here, part, rfl⟩
  · exact .nil t
  · rw [List.dropLast_concat] at h
    exact h.append hplace

end HasDirectory

/-- A tree with further directories: what was there is as it was, and what is new is a
directory. -/
structure Grows (t t' : FileTree) : Prop where
  limits : t'.limits = t.limits
  kept : ∀ {place e}, t.find? place = some e → t'.find? place = some e
  made : ∀ {place e}, t.find? place = none → t'.find? place = some e → e = .directory

namespace Grows

theorem refl (t : FileTree) : Grows t t :=
  ⟨rfl, id, fun hnone hsome => by rw [hnone] at hsome; cases hsome⟩

theorem trans {t'' : FileTree} (h : Grows t t') (h' : Grows t' t'') : Grows t t'' := by
  refine ⟨h'.limits.trans h.limits, fun hplace => h'.kept (h.kept hplace), ?_⟩
  intro place e hnone hsome
  cases hmid : t'.find? place with
  | none => exact h'.made hmid hsome
  | some e' =>
    have heq := (h'.kept hmid).symm.trans hsome
    cases heq
    exact h.made hnone hmid

theorem put_directory {place : List String} (h : t.find? place = none) :
    Grows t (t.put place .directory) := by
  have hne : ∀ {q e}, t.find? q = some e → q ≠ place := by
    rintro q e hq rfl
    rw [h] at hq
    cases hq
  refine ⟨rfl, fun hq => (find?_put_of_ne t .directory (hne hq)).trans hq, ?_⟩
  intro q e hnone hsome
  by_cases hq : q = place
  · subst hq
    rw [find?_put_self t .directory (ne_nil_of_find?_eq_none h)] at hsome
    cases hsome
    rfl
  · rw [find?_put_of_ne t .directory hq, hnone] at hsome
    cases hsome

theorem hasDirectory (h : Grows t t') {place : List String} (hp : t.HasDirectory place) :
    t'.HasDirectory place :=
  fun q hq => h.kept (hp q hq)

end Grows

/-! ### Walking -/

theorem checkPath_eq_ok_iff {p : Path} :
    t.checkPath p = .ok () ↔ p.hasNull = false ∧ t.limits.refusesPath p.text = false := by
  rw [checkPath]
  cases p.hasNull <;> cases t.limits.refusesPath p.text <;> simp

theorem checkPath_congr (h : t'.limits = t.limits) (p : Path) : t'.checkPath p = t.checkPath p := by
  rw [checkPath, checkPath, h]

theorem step_eq_ok_iff {here place : List String} {part : String} :
    t.step here part = .ok place ↔ t.find? here = some .directory ∧
      (part = ".." ∧ place = here.dropLast ∨
        part ≠ ".." ∧ t.limits.refusesName part = false ∧ place = here ++ [part]) := by
  rw [step]
  split
  · rename_i hhere
    simp [hhere]
  · rename_i hhere
    simp [hhere]
  · rename_i hhere
    by_cases hpart : part = ".."
    · simp [hhere, hpart, eq_comm (a := place)]
    · cases hname : t.limits.refusesName part <;> simp [hhere, hpart, eq_comm (a := place)]

theorem walk_append_singleton (t : FileTree) (parts : List String) (part : String) :
    t.walk (parts ++ [part]) = t.walk parts >>= (t.step · part) := by
  rw [walk, List.foldlM_append]
  simp only [List.foldlM_cons, List.foldlM_nil, bind_pure]
  rfl

/-- **A walk ends where its path leads when the parts `..` are followed beforehand.** -/
theorem eq_collapse_of_walk {parts place : List String} (h : t.walk parts = .ok place) :
    place = Path.collapse parts := by
  induction parts using List.reverseRecOn generalizing place with
  | nil =>
    cases h
    rfl
  | append_singleton parts part ih =>
    rw [walk_append_singleton] at h
    obtain ⟨here, hhere, h⟩ := Outcome.bind_eq_ok.1 h
    rw [Path.collapse_append_singleton, ← ih hhere]
    obtain ⟨-, ⟨rfl, rfl⟩ | ⟨hpart, -, rfl⟩⟩ := step_eq_ok_iff.1 h
    · rw [if_pos rfl]
    · rw [if_neg hpart]

/-- Everything on the way to the end of a walk is a directory. -/
theorem hasDirectory_dropLast_of_walk {parts place : List String} (h : t.walk parts = .ok place) :
    t.HasDirectory place.dropLast := by
  induction parts using List.reverseRecOn generalizing place with
  | nil =>
    cases h
    exact .nil t
  | append_singleton parts part ih =>
    rw [walk_append_singleton] at h
    obtain ⟨here, hhere, h⟩ := Outcome.bind_eq_ok.1 h
    obtain ⟨hdir, ⟨-, rfl⟩ | ⟨-, -, rfl⟩⟩ := step_eq_ok_iff.1 h
    · exact (ih hhere).dropLast
    · rw [List.dropLast_concat]
      exact (ih hhere).of_dropLast hdir

/-- The place where a walk ends is reached by its own parts too. -/
theorem walk_self_of_walk {parts place : List String} (h : t.walk parts = .ok place) :
    t.walk place = .ok place := by
  induction parts using List.reverseRecOn generalizing place with
  | nil =>
    cases h
    rfl
  | append_singleton parts part ih =>
    rw [walk_append_singleton] at h
    obtain ⟨here, hhere, h⟩ := Outcome.bind_eq_ok.1 h
    have hself := ih hhere
    obtain ⟨-, ⟨rfl, rfl⟩ | ⟨-, -, rfl⟩⟩ := step_eq_ok_iff.1 h
    · -- the last part of a place is a name, so its own walk comes through the place above it
      rcases List.eq_nil_or_concat' here with rfl | ⟨above, last, rfl⟩
      · rfl
      · rw [List.dropLast_concat]
        rw [walk_append_singleton] at hself
        obtain ⟨above', habove, hlast⟩ := Outcome.bind_eq_ok.1 hself
        have hname : last ≠ ".." := by
          rintro rfl
          refine Path.not_mem_collapse parts ?_
          rw [← eq_collapse_of_walk hhere]
          exact List.mem_append_right above (List.mem_singleton_self "..")
        obtain ⟨-, ⟨hdots, -⟩ | ⟨-, -, heq⟩⟩ := step_eq_ok_iff.1 hlast
        · exact absurd hdots hname
        · rw [habove, List.append_cancel_right heq]
    · rw [walk_append_singleton, hself]
      exact h

/-- A walk goes the same way in a tree that has all the directories. -/
theorem walk_of_kept (hlimits : t'.limits = t.limits)
    (hkept : ∀ q, t.find? q = some .directory → t'.find? q = some .directory)
    {parts place : List String} (h : t.walk parts = .ok place) : t'.walk parts = .ok place := by
  induction parts using List.reverseRecOn generalizing place with
  | nil => exact h
  | append_singleton parts part ih =>
    rw [walk_append_singleton] at h ⊢
    obtain ⟨here, hhere, h⟩ := Outcome.bind_eq_ok.1 h
    obtain ⟨hdir, hcases⟩ := step_eq_ok_iff.1 h
    rw [ih hhere]
    rw [← hlimits] at hcases
    exact step_eq_ok_iff.2 ⟨hkept here hdir, hcases⟩

theorem locate_eq_ok_iff {dir p : Path} {place : List String} :
    t.locate dir p = .ok place ↔
      t.checkPath p = .ok () ∧ t.walk (dir.join p).parts = .ok place := by
  rw [locate]
  constructor
  · intro h
    obtain ⟨_, hcheck, hwalk⟩ := Outcome.bind_eq_ok.1 h
    exact ⟨hcheck, hwalk⟩
  · rintro ⟨hcheck, hwalk⟩
    exact Outcome.bind_eq_ok.2 ⟨(), hcheck, hwalk⟩

theorem locate_root_eq_ok_iff {p : Path} {place : List String} :
    t.locate .root p = .ok place ↔ t.checkPath p = .ok () ∧ t.walk p.parts = .ok place := by
  rw [locate_eq_ok_iff, Path.parts_root_join]

theorem entryAt_eq_ok_iff {dir p : Path} {e : FileEntry} :
    t.entryAt dir p = .ok e ↔
      ∃ place, t.locate dir p = .ok place ∧ t.find? place = some e := by
  rw [entryAt, Outcome.bind_eq_ok]
  refine exists_congr fun place => and_congr_right fun _ => ?_
  cases t.find? place <;> simp [pure, Except.pure, throw, throwThe, MonadExceptOf.throw]

/-! ### Making directories -/

variable {here before parts : List String} {made : Bool}

theorem grows_makeFrom (t : FileTree) (here before : List String) (made : Bool)
    (parts : List String) : Grows t (t.makeFrom here before made parts).1 := by
  fun_induction makeFrom t here before made parts with
  | case2 t here before made rest ih => exact ih
  | case4 t here before made part rest _ _ place _ ih => exact ih
  | case8 t here before made part rest _ _ place hplace _ ih =>
    exact (Grows.put_directory hplace).trans ih
  | _ => exact .refl _

theorem foldlM_step_of_ok {part : String} {next : List String} (rest : List String)
    (h : t.step here part = .ok next) :
    (part :: rest).foldlM t.step here = rest.foldlM t.step next := by
  rw [List.foldlM_cons, h]
  rfl

/-- When making directories succeeds, the parts lead to a directory. -/
theorem exists_walk_of_makeFrom (hhere : t.HasDirectory here)
    (h : (t.makeFrom here before made parts).2 = none) :
    ∃ place, parts.foldlM (t.makeFrom here before made parts).1.step here = .ok place ∧
      (t.makeFrom here before made parts).1.HasDirectory place := by
  fun_induction makeFrom t here before made parts with
  | case1 => exact ⟨_, rfl, hhere⟩
  | case2 t here before made rest ih =>
    have hgrows := grows_makeFrom t here.dropLast (".." :: before) made rest
    rw [foldlM_step_of_ok rest (step_eq_ok_iff.2 ⟨hgrows.kept hhere.find?, .inl ⟨rfl, rfl⟩⟩)]
    exact ih hhere.dropLast h
  | case4 t here before made part rest hpart hname place hplace ih =>
    have hgrows := grows_makeFrom t place (part :: before) made rest
    rw [foldlM_step_of_ok rest (step_eq_ok_iff.2 ⟨hgrows.kept hhere.find?,
      .inr ⟨hpart, by rw [hgrows.limits]; simpa using hname, rfl⟩⟩)]
    exact ih (hhere.append hplace) h
  | case8 t here before made part rest hpart hname place hplace _ ih =>
    have hput := Grows.put_directory hplace
    have hgrows := grows_makeFrom (t.put place .directory) place (part :: before) true rest
    rw [foldlM_step_of_ok rest (step_eq_ok_iff.2 ⟨hgrows.kept (hput.kept hhere.find?),
      .inr ⟨hpart, by rw [hgrows.limits, limits_put]; simpa using hname, rfl⟩⟩)]
    exact ih ((hput.hasDirectory hhere).append
      (find?_put_self t .directory (ne_nil_of_find?_eq_none hplace))) h
  | _ => cases h

/-- Where the parts lead to a directory already, there is nothing to make. -/
theorem makeFrom_of_foldlM {place : List String} (h : parts.foldlM t.step here = .ok place)
    (hplace : t.find? place = some .directory) :
    t.makeFrom here before made parts = (t, none) := by
  induction parts generalizing here before with
  | nil => rfl
  | cons part rest ih =>
    rw [List.foldlM_cons] at h
    obtain ⟨next, hnext, h⟩ := Outcome.bind_eq_ok.1 h
    -- what the first part leads to is a directory: the end, or something that is gone through
    have hdir : t.find? next = some .directory := by
      cases rest with
      | nil =>
        cases h
        exact hplace
      | cons part' rest' =>
        rw [List.foldlM_cons] at h
        obtain ⟨_, hstep, -⟩ := Outcome.bind_eq_ok.1 h
        exact (step_eq_ok_iff.1 hstep).1
    rw [makeFrom]
    obtain ⟨-, ⟨rfl, rfl⟩ | ⟨hpart, hname, rfl⟩⟩ := step_eq_ok_iff.1 hnext
    · rw [if_pos rfl, ih h]
    · rw [if_neg hpart, if_neg (by simpa using hname)]
      simp only [hdir]
      exact ih h

theorem grows_makeDirs (t : FileTree) (p : Path) : Grows t (t.makeDirs p).1 := by
  rw [makeDirs]
  split
  · exact .refl t
  · exact grows_makeFrom t [] [] false p.parts

theorem exists_walk_of_makeDirs {p : Path} (h : t.makeDirs p = (t', none)) :
    ∃ place, t'.walk p.parts = .ok place ∧ t'.HasDirectory place := by
  rw [makeDirs] at h
  split at h
  · cases h
  · have hwalk := exists_walk_of_makeFrom (.nil t) (congrArg Prod.snd h)
    rw [h] at hwalk
    exact hwalk

theorem makeDirs_of_walk {p : Path} {place : List String} (hcheck : t.checkPath p = .ok ())
    (h : t.walk p.parts = .ok place) (hplace : t.find? place = some .directory) :
    t.makeDirs p = (t, none) := by
  rw [makeDirs, hcheck]
  exact makeFrom_of_foldlM h hplace

theorem checkPath_of_makeDirs {p : Path} (h : t.makeDirs p = (t', none)) :
    t.checkPath p = .ok () := by
  rw [makeDirs] at h
  split at h
  · cases h
  · assumption

/-! ### Files -/

theorem writeFile_eq_ok_iff {p : Path} {content : String} :
    t.writeFile p content = .ok t' ↔ ∃ place, t.locate .root p = .ok place ∧
      t.find? place ≠ some .directory ∧ t' = t.put place (.file content) := by
  rw [writeFile, Outcome.bind_eq_ok]
  refine exists_congr fun place => and_congr_right fun _ => ?_
  split
  · rename_i hplace
    simp [hplace, throw, throwThe, MonadExceptOf.throw]
  · rename_i hplace
    exact ⟨fun h => ⟨hplace, (Except.ok.inj h).symm⟩, fun h => congrArg Except.ok h.2.symm⟩

theorem renameFile_eq_ok_iff {source : List String} {p : Path} {e : FileEntry}
    (hsource : t.find? source = some e) :
    t.renameFile source p = .ok t' ↔ ∃ place, t.locate .root p = .ok place ∧ p.name ≠ ".." ∧
      t.find? place ≠ some .directory ∧ t' = (t.erase source).put place e := by
  rw [renameFile, Outcome.bind_eq_ok]
  refine exists_congr fun place => and_congr_right fun _ => ?_
  split
  · rename_i hname
    simp [hname, throw, throwThe, MonadExceptOf.throw]
  · rename_i hname
    rw [hsource]
    split
    · rename_i hplace
      simp [hplace, throw, throwThe, MonadExceptOf.throw]
    · rename_i heq hplace
      cases heq
      exact ⟨fun h => ⟨hname, hplace, (Except.ok.inj h).symm⟩,
        fun h => congrArg Except.ok h.2.2.symm⟩
    · rename_i hnone _
      cases hnone

/-! ### Trees in which everything stands in a directory -/

/-- Everything in a tree stands in a directory. -/
def WellFormed (t : FileTree) : Prop :=
  ∀ place e, t.find? place = some e → t.find? place.dropLast = some .directory

theorem wellFormed_of_entries
    (h : ∀ entry ∈ t.entries, t.find? entry.1.dropLast = some .directory) : t.WellFormed := by
  intro place e hplace
  by_cases hne : place = []
  · rw [hne]
    rfl
  · rw [find?_of_ne_nil t hne, List.lookup_eq_some_iff] at hplace
    obtain ⟨before, after, hentries, -⟩ := hplace
    exact h (place, e) (by rw [hentries]; exact List.mem_append_right _ List.mem_cons_self)

namespace WellFormed

/-- Everything on the way to something is a directory. -/
theorem find?_of_prefix (ht : t.WellFormed) {q place : List String} {e : FileEntry}
    (hplace : t.find? place = some e) (hq : q <+: place) (hne : q ≠ place) :
    t.find? q = some .directory := by
  induction place using List.reverseRecOn generalizing e with
  | nil => exact absurd (List.prefix_nil.1 hq) hne
  | append_singleton above last ih =>
    have habove := ht _ _ hplace
    rw [List.dropLast_concat] at habove
    rcases List.prefix_concat_iff.1 hq with rfl | hq
    · exact absurd rfl hne
    · by_cases heq : q = above
      · rw [heq, habove]
      · exact ih habove hq heq

/-- A tree stays well formed when something is put into a directory. A directory is not
replaced by a file. -/
theorem put (ht : t.WellFormed) {place : List String} {e : FileEntry} (hne : place ≠ [])
    (habove : t.find? place.dropLast = some .directory)
    (he : t.find? place = some .directory → e = .directory) : (t.put place e).WellFormed := by
  -- no directory is lost, so whatever stood in one still does
  have hdir : ∀ q, t.find? q = some .directory → (t.put place e).find? q = some .directory := by
    intro q hq
    by_cases heq : q = place
    · subst heq
      rw [find?_put_self t e hne, he hq]
    · rw [find?_put_of_ne t e heq, hq]
  intro q e' hq
  by_cases heq : q = place
  · rw [heq]
    exact hdir _ habove
  · rw [find?_put_of_ne t e heq] at hq
    exact hdir _ (ht q e' hq)

theorem makeFrom (ht : t.WellFormed) (hhere : t.HasDirectory here) :
    (t.makeFrom here before made parts).1.WellFormed := by
  fun_induction FileTree.makeFrom t here before made parts with
  | case2 t here before made rest ih => exact ih ht hhere.dropLast
  | case4 t here before made part rest _ _ place hplace ih => exact ih ht (hhere.append hplace)
  | case8 t here before made part rest _ _ place hplace _ ih =>
    have hput := Grows.put_directory hplace
    have hne := ne_nil_of_find?_eq_none hplace
    refine ih (ht.put hne ?_ fun _ => rfl)
      ((hput.hasDirectory hhere).append (find?_put_self t .directory hne))
    rw [List.dropLast_concat]
    exact hhere.find?
  | _ => exact ht

theorem makeDirs (ht : t.WellFormed) (p : Path) : (t.makeDirs p).1.WellFormed := by
  rw [FileTree.makeDirs]
  split
  · exact ht
  · exact ht.makeFrom (.nil t)

end WellFormed

end FileTree

end ClientGen
