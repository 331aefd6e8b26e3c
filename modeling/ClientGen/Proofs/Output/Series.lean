import ClientGen.Generation
import ClientGen.Proofs.Output.Guarantees

/-!
# Writing units one after the other

When several units are written into one directory, each at the place that its name leads to,
what stands at a place afterwards is the text of the **last** unit for it
(`ClientGen.Written.fileAt?`); writing never loses a directory, and what was a file stays one
(`ClientGen.FileTree.Keeps`). So the units are all there exactly if units for the same place
have the same text (`ClientGen.Written.forall_text?_iff`), which holds by itself where existing
files are kept and no name has a part `..` (`ClientGen.Written.nodup_places`).

After a series of writes the way to each of its files is there (`ClientGen.FileTree.Settled`):
the same units can be written over once more, and nothing else can change then.
-/

namespace ClientGen

namespace FileTree

variable {t t' t'' : FileTree} {p : Path} {content : String}

/-! ### Trees in which nothing is lost -/

/-- **Nothing is lost**: directories stay, and files stay files, although their texts may
change. -/
structure Keeps (t t' : FileTree) : Prop where
  limits : t'.limits = t.limits
  directory : ∀ {place}, t.find? place = some .directory → t'.find? place = some .directory
  file : ∀ {place text}, t.find? place = some (.file text) →
    ∃ text', t'.find? place = some (.file text')

namespace Keeps

theorem refl (t : FileTree) : Keeps t t :=
  ⟨rfl, id, fun h => ⟨_, h⟩⟩

theorem trans (h : Keeps t t') (h' : Keeps t' t'') : Keeps t t'' := by
  refine ⟨h'.limits.trans h.limits, fun hplace => h'.directory (h.directory hplace), ?_⟩
  intro place text hplace
  obtain ⟨_, hplace'⟩ := h.file hplace
  exact h'.file hplace'

theorem of_grows (h : Grows t t') : Keeps t t' :=
  ⟨h.limits, h.kept, fun hplace => ⟨_, h.kept hplace⟩⟩

theorem put_file {place : List String} (h : t.find? place ≠ some .directory) (text : String) :
    Keeps t (t.put place (.file text)) := by
  have hne : place ≠ [] := by
    rintro rfl
    exact h rfl
  refine ⟨rfl, ?_, ?_⟩
  · intro q hq
    rw [find?_put_of_ne t _ (by rintro rfl; exact h hq), hq]
  · intro q text' hq
    by_cases heq : q = place
    · rw [heq]
      exact ⟨text, find?_put_self t _ hne⟩
    · exact ⟨text', (find?_put_of_ne t _ heq).trans hq⟩

theorem walk (h : Keeps t t') {parts place : List String} (hwalk : t.walk parts = .ok place) :
    t'.walk parts = .ok place :=
  walk_of_kept h.limits (fun _ => h.directory) hwalk

theorem locate (h : Keeps t t') {dir : Path} {place : List String}
    (hlocate : t.locate dir p = .ok place) : t'.locate dir p = .ok place := by
  obtain ⟨hcheck, hwalk⟩ := locate_eq_ok_iff.1 hlocate
  exact locate_eq_ok_iff.2 ⟨(checkPath_congr h.limits p).trans hcheck, h.walk hwalk⟩

theorem entryAt_file (h : Keeps t t') {dir : Path} {text : String}
    (hentry : t.entryAt dir p = .ok (.file text)) :
    ∃ text', t'.entryAt dir p = .ok (.file text') := by
  obtain ⟨place, hlocate, hplace⟩ := entryAt_eq_ok_iff.1 hentry
  obtain ⟨text', hplace'⟩ := h.file hplace
  exact ⟨text', entryAt_eq_ok_iff.2 ⟨place, h.locate hlocate, hplace'⟩⟩

end Keeps

theorem exists?_eq_true_iff {dir : Path} :
    t.exists? dir p = .ok true ↔ ∃ e, t.entryAt dir p = .ok e := by
  rw [exists?]
  split <;> simp_all

theorem Keeps.exists? (h : Keeps t t') {dir : Path} (hexists : t.exists? dir p = .ok true) :
    t'.exists? dir p = .ok true := by
  obtain ⟨e, hentry⟩ := exists?_eq_true_iff.1 hexists
  rw [exists?_eq_true_iff]
  cases e with
  | file text =>
    obtain ⟨text', hentry'⟩ := h.entryAt_file hentry
    exact ⟨_, hentry'⟩
  | directory =>
    obtain ⟨place, hlocate, hplace⟩ := entryAt_eq_ok_iff.1 hentry
    exact ⟨_, entryAt_eq_ok_iff.2 ⟨place, h.locate hlocate, h.directory hplace⟩⟩

/-! ### Files that can be written over -/

/-- **A file is settled** at a path: the directories on the way are there, and the path leads
to a file. -/
structure Settled (t : FileTree) (p : Path) : Prop where
  parent : t.makeDirs p.parent = (t, none)
  file : ∃ text, t.text? p = some text

namespace Settled

theorem locate (h : t.Settled p) :
    ∃ text, t.locate .root p = .ok (Path.collapse p.parts) ∧
      t.find? (Path.collapse p.parts) = some (.file text) := by
  obtain ⟨text, htext⟩ := h.file
  obtain ⟨place, hlocate, hplace⟩ := text?_eq_some_iff.1 htext
  obtain rfl := eq_collapse_of_walk (locate_root_eq_ok_iff.1 hlocate).2
  exact ⟨text, hlocate, hplace⟩

theorem text? (h : t.Settled p) : t.text? p = t.fileAt? (Path.collapse p.parts) := by
  obtain ⟨text, hlocate, hplace⟩ := h.locate
  rw [text?_eq_some_iff.2 ⟨_, hlocate, hplace⟩, fileAt?_eq_some_iff.2 hplace]

theorem exists? (h : t.Settled p) : t.exists? .root p = .ok true := by
  obtain ⟨text, hlocate, hplace⟩ := h.locate
  exact exists?_eq_true_iff.2 ⟨_, entryAt_eq_ok_iff.2 ⟨_, hlocate, hplace⟩⟩

theorem find?_ne_directory (h : t.Settled p) :
    t.find? (Path.collapse p.parts) ≠ some .directory := by
  obtain ⟨text, -, hplace⟩ := h.locate
  simp [hplace]

/-- Making directories does nothing where it once succeeded. -/
theorem makeDirs_of_keeps {made : FileTree} (h : t.makeDirs p = (made, none))
    (hkeeps : Keeps made t') : t'.makeDirs p = (t', none) := by
  obtain ⟨place, hwalk, hplace⟩ := exists_walk_of_makeDirs h
  have hlimits := (grows_makeDirs t p).limits
  rw [h] at hlimits
  refine makeDirs_of_walk ?_ (hkeeps.walk hwalk) (hkeeps.directory hplace.find?)
  rw [checkPath_congr (hkeeps.limits.trans hlimits), checkPath_of_makeDirs h]

theorem of_keeps (h : t.Settled p) (hkeeps : Keeps t t') : t'.Settled p := by
  refine ⟨makeDirs_of_keeps h.parent hkeeps, ?_⟩
  obtain ⟨text, hlocate, hplace⟩ := h.locate
  obtain ⟨text', hplace'⟩ := hkeeps.file hplace
  exact ⟨text', text?_eq_some_iff.2 ⟨_, hkeeps.locate hlocate, hplace'⟩⟩

theorem stores (h : t.Settled p) (content : String) :
    t.Stores p content (t.put (Path.collapse p.parts) (.file content)) := by
  obtain ⟨text, hlocate, -⟩ := h.locate
  exact ⟨t, _, h.parent, hlocate, h.find?_ne_directory, rfl⟩

end Settled

namespace Stores

theorem keeps (h : t.Stores p content t') : Keeps t t' := by
  obtain ⟨made, place, hmade, -, hdir, rfl⟩ := h
  have hgrows := grows_makeDirs t p.parent
  rw [hmade] at hgrows
  exact (Keeps.of_grows hgrows).trans (.put_file hdir content)

theorem settled (h : t.Stores p content t') : t'.Settled p := by
  refine ⟨?_, content, h.writesOnly.text⟩
  obtain ⟨made, place, hmade, -, hdir, rfl⟩ := h
  exact Settled.makeDirs_of_keeps hmade (.put_file hdir content)

theorem fileAt? (h : t.Stores p content t') (q : List String) :
    t'.fileAt? q = if q = Path.collapse p.parts then some content else t.fileAt? q := by
  have hwrites := h.writesOnly
  split
  · rename_i hq
    rw [hq, ← h.settled.text?, hwrites.text]
  · rename_i hq
    refine hwrites.others q fun hlocate => hq ?_
    exact eq_collapse_of_walk (locate_root_eq_ok_iff.1 hlocate).2

end Stores

end FileTree

/-! ### The place of a unit -/

namespace SourceUnit

/-- The path of a unit in a directory. -/
def path (u : SourceUnit) (dir : Path) : Path :=
  dir.join (Path.ofString u.fileName)

/-- The place that the path of a unit leads to. -/
def place (u : SourceUnit) (dir : Path) : List String :=
  Path.collapse (u.path dir).parts

/-- Plain names that lead to the same place have the same path. -/
theorem path_eq_of_place_eq {u v : SourceUnit} {dir : Path} (habsolute : dir.absolute = true)
    (hdir : ".." ∉ dir.parts) (hu : ".." ∉ (Path.ofString u.fileName).parts)
    (hv : ".." ∉ (Path.ofString v.fileName).parts) (h : u.place dir = v.place dir) :
    u.path dir = v.path dir := by
  have hjoin : ∀ p : Path, ".." ∉ p.parts →
      (dir.join p).absolute = true ∧ ".." ∉ (dir.join p).parts := by
    intro p hp
    rw [Path.join]
    split
    · exact ⟨by assumption, hp⟩
    · exact ⟨habsolute, by simp [hdir, hp]⟩
  obtain ⟨hu₁, hu₂⟩ := hjoin _ hu
  obtain ⟨hv₁, hv₂⟩ := hjoin _ hv
  rw [place, place, path, path, Path.collapse_of_not_mem hu₂, Path.collapse_of_not_mem hv₂] at h
  exact Path.ext (hu₁.trans hv₁.symm) h

end SourceUnit

/-- The text of the last unit for a place, if there is one. -/
def lastText (dir : Path) (units : List SourceUnit) (place : List String) : Option String :=
  (units.reverse.find? fun u => u.place dir = place).map SourceUnit.text

section

variable {dir : Path} {u : SourceUnit} {units : List SourceUnit} {place : List String}

theorem lastText_cons :
    lastText dir (u :: units) place =
      (lastText dir units place).or (if u.place dir = place then some u.text else none) := by
  rw [lastText, List.reverse_cons, List.find?_append, lastText]
  cases units.reverse.find? fun u => u.place dir = place with
  | some v => rfl
  | none => by_cases h : u.place dir = place <;> simp [h]

theorem exists_of_lastText {text : String} (h : lastText dir units place = some text) :
    ∃ v ∈ units, v.place dir = place ∧ v.text = text := by
  obtain ⟨v, hv, htext⟩ := Option.map_eq_some_iff.1 h
  exact ⟨v, List.mem_reverse.1 (List.mem_of_find?_eq_some hv),
    by simpa using List.find?_some hv, htext⟩

theorem exists_lastText (hu : u ∈ units) (hplace : u.place dir = place) :
    ∃ text, lastText dir units place = some text := by
  have hsome : (units.reverse.find? fun u => u.place dir = place).isSome := by
    rw [List.find?_isSome]
    exact ⟨u, List.mem_reverse.2 hu, decide_eq_true hplace⟩
  obtain ⟨v, hv⟩ := Option.isSome_iff_exists.1 hsome
  exact ⟨v.text, by rw [lastText, hv, Option.map_some]⟩

end

/-! ### Series of writes -/

open FileTree

variable {setting : OutputSetting} {dir : Path} {u : SourceUnit} {units : List SourceUnit}
  {t t' t'' : FileTree}

/-- **Units are written into a directory**, one after the other, as an output setting says. -/
inductive Written (setting : OutputSetting) (dir : Path) :
    List SourceUnit → FileTree → FileTree → Prop
  /-- Nothing is written. -/
  | nil {t : FileTree} : Written setting dir [] t t
  /-- One unit is written before the others. -/
  | cons {u : SourceUnit} {rest : List SourceUnit} {output : OutputConfig} {p : Path}
      {t t₁ t' : FileTree} (hsetting : setting.forWriting = .ok output)
      (hwrite : Writing.writeUnit output true dir u.fileName u.text t = .ok p t₁)
      (hrest : Written setting dir rest t₁ t') : Written setting dir (u :: rest) t t'

namespace Written

theorem append {more : List SourceUnit} (h : Written setting dir units t t')
    (h' : Written setting dir more t' t'') : Written setting dir (units ++ more) t t'' := by
  induction h with
  | nil => exact h'
  | cons hsetting hwrite _ ih => exact .cons hsetting hwrite (ih h')

theorem stores_of_writeUnit {output : OutputConfig} {p : Path}
    (h : Writing.writeUnit output true dir u.fileName u.text t = .ok p t') :
    t.Stores (u.path dir) u.text t' := by
  obtain ⟨rfl, -, -, -, hstores⟩ := Writing.writeUnit_eq_ok_iff.1 h
  exact hstores

theorem keeps (h : Written setting dir units t t') : Keeps t t' := by
  induction h with
  | nil => exact .refl _
  | cons _ hwrite _ ih => exact (stores_of_writeUnit hwrite).keeps.trans ih

theorem settled (h : Written setting dir units t t') (hu : u ∈ units) :
    t'.Settled (u.path dir) := by
  induction h with
  | nil => cases hu
  | cons _ hwrite hrest ih =>
    rcases List.mem_cons.1 hu with rfl | hu
    · exact (stores_of_writeUnit hwrite).settled.of_keeps hrest.keeps
    · exact ih hu

/-- **The last unit for a place decides**, and without one the place is as it was. -/
theorem fileAt? (h : Written setting dir units t t') (place : List String) :
    t'.fileAt? place = (lastText dir units place).or (t.fileAt? place) := by
  induction h with
  | nil => rfl
  | @cons u rest output p t t₁ t' _ hwrite _ ih =>
    -- the first unit shows only where none of the others has its place
    rw [ih, (stores_of_writeUnit hwrite).fileAt?, lastText_cons, Option.or_assoc,
      ← SourceUnit.place]
    congr 1
    by_cases hplace : u.place dir = place
    · rw [if_pos hplace.symm, if_pos hplace, Option.some_or]
    · rw [if_neg fun heq => hplace heq.symm, if_neg hplace, Option.none_or]

/-- **All units are there** exactly if those for the same place have the same text. -/
theorem forall_text?_iff (h : Written setting dir units t t') :
    (∀ u ∈ units, t'.text? (u.path dir) = some u.text) ↔
      ∀ u ∈ units, ∀ v ∈ units, u.place dir = v.place dir → u.text = v.text := by
  have hlast : ∀ u ∈ units, t'.text? (u.path dir) = lastText dir units (u.place dir) := by
    intro u hu
    obtain ⟨text, htext⟩ := exists_lastText hu rfl
    rw [(h.settled hu).text?, h.fileAt?, ← SourceUnit.place, htext, Option.some_or]
  constructor
  · intro hall u hu v hv hplace
    have htext := (hlast u hu).symm.trans (hall u hu)
    rw [hplace, ← hlast v hv, hall v hv] at htext
    exact (Option.some.inj htext).symm
  · intro hsame u hu
    obtain ⟨text, htext⟩ := exists_lastText hu rfl
    obtain ⟨v, hv, hplace, rfl⟩ := exists_of_lastText htext
    rw [hlast u hu, htext, hsame u hu v hv hplace.symm]

/-- Where existing files are kept, no unit is written over a file. -/
theorem not_settled_of_keep {output : OutputConfig} (hsetting : setting.forWriting = .ok output)
    (hkeep : output.mode = .keep) (h : Written setting dir units t t') (hu : u ∈ units) :
    ¬t.Settled (u.path dir) := by
  induction h with
  | nil => cases hu
  | cons hsetting' hwrite hrest ih =>
    intro hsettled
    rcases List.mem_cons.1 hu with rfl | hu
    · cases hsetting.symm.trans hsetting'
      obtain ⟨rfl, hfree, -⟩ := Writing.writeUnit_eq_ok_iff.1 hwrite
      cases hsettled.exists?.symm.trans (hfree hkeep)
    · exact ih hu (hsettled.of_keeps (stores_of_writeUnit hwrite).keeps)

/-- Where existing files are kept, plain names lead to places of their own. -/
theorem nodup_places {output : OutputConfig} (hsetting : setting.forWriting = .ok output)
    (hkeep : output.mode = .keep) (habsolute : dir.absolute = true) (hdir : ".." ∉ dir.parts)
    (h : Written setting dir units t t')
    (hplain : ∀ u ∈ units, ".." ∉ (Path.ofString u.fileName).parts) :
    (units.map (·.place dir)).Nodup := by
  induction h with
  | nil => exact .nil
  | @cons u rest _ _ _ t₁ _ _ hwrite hrest ih =>
    obtain ⟨hu, hrestPlain⟩ := List.forall_mem_cons.1 hplain
    refine List.nodup_cons.2 ⟨?_, ih hrestPlain⟩
    intro hmem
    obtain ⟨v, hv, hplace⟩ := List.mem_map.1 hmem
    have hpath := SourceUnit.path_eq_of_place_eq habsolute hdir (hrestPlain v hv) hu hplace
    -- the file of the first unit is there when the others are written, and would refuse this one
    refine not_settled_of_keep hsetting hkeep hrest hv ?_
    rw [hpath]
    exact (stores_of_writeUnit hwrite).settled

end Written

/-! ### Writing once more -/

/-- A tree with a unit put at its place. -/
def FileTree.withUnit (dir : Path) (t : FileTree) (u : SourceUnit) : FileTree :=
  t.put (u.place dir) (.file u.text)

/-- **A unit can be written over**: its file is settled, and nothing that the output setting
asks for stands against it. -/
def Rewritable (setting : OutputSetting) (dir : Path) (u : SourceUnit) (t : FileTree) : Prop :=
  t.Settled (u.path dir) ∧ ∃ output, setting.forWriting = .ok output ∧ output.mode ≠ .keep ∧
    (output.validate.truthy = true → Output.check u.text true = .ok ()) ∧
    (output.atomic.truthy = true → t.TakesTemporary (u.path dir))

namespace Rewritable

theorem of_keeps (h : Rewritable setting dir u t) (hkeeps : Keeps t t') :
    Rewritable setting dir u t' := by
  obtain ⟨hsettled, output, hsetting, hmode, hcheck, htake⟩ := h
  exact ⟨hsettled.of_keeps hkeeps, output, hsetting, hmode, hcheck,
    fun hatomic => (TakesTemporary.congr hkeeps.limits).2 (htake hatomic)⟩

theorem exists_writeUnit (h : Rewritable setting dir u t) :
    ∃ output p, setting.forWriting = .ok output ∧
      Writing.writeUnit output true dir u.fileName u.text t = .ok p (t.withUnit dir u) := by
  obtain ⟨hsettled, output, hsetting, hmode, hcheck, htake⟩ := h
  exact ⟨output, _, hsetting, Writing.writeUnit_eq_ok_iff.2
    ⟨rfl, fun hkeep => absurd hkeep hmode, hcheck, htake, hsettled.stores u.text⟩⟩

theorem keeps_withUnit (h : Rewritable setting dir u t) : Keeps t (t.withUnit dir u) :=
  .put_file h.1.find?_ne_directory u.text

end Rewritable

/-- Units that were written can be written over, unless existing files are kept. -/
theorem Written.rewritable (h : Written setting dir units t t')
    (hmode : ∀ output, setting.forWriting = .ok output → output.mode ≠ .keep) (hu : u ∈ units) :
    Rewritable setting dir u t' := by
  refine ⟨h.settled hu, ?_⟩
  induction h with
  | nil => cases hu
  | @cons _ _ output _ t _ t' hsetting hwrite hrest ih =>
    rcases List.mem_cons.1 hu with rfl | hu
    · obtain ⟨rfl, -, hcheck, htake, hstores⟩ := Writing.writeUnit_eq_ok_iff.1 hwrite
      -- there is still room for a temporary name, since the limits are those of the tree
      have hlimits := (hstores.keeps.trans hrest.keeps).limits
      exact ⟨output, hsetting, hmode output hsetting, hcheck,
        fun hatomic => (TakesTemporary.congr hlimits).2 (htake hatomic)⟩
    · exact ih hu

theorem find?_foldl_withUnit (hne : ∀ u ∈ units, u.place dir ≠ []) (q : List String) :
    (units.foldl (withUnit dir) t).find? q =
      ((lastText dir units q).map .file).or (t.find? q) := by
  induction units generalizing t with
  | nil => rfl
  | cons u rest ih =>
    obtain ⟨hu, hrest⟩ := List.forall_mem_cons.1 hne
    rw [List.foldl_cons, ih hrest, lastText_cons, Option.map_or, Option.or_assoc, withUnit]
    congr 1
    by_cases hplace : u.place dir = q
    · rw [if_pos hplace, ← hplace, find?_put_self t _ hu, Option.map_some, Option.some_or]
    · rw [if_neg hplace, find?_put_of_ne t _ fun heq => hplace heq.symm, Option.map_none,
        Option.none_or]

/-- **Writing the same units once more changes nothing.** -/
theorem Written.find?_foldl_withUnit (h : Written setting dir units t t') (q : List String) :
    (units.foldl (withUnit dir) t').find? q = t'.find? q := by
  have hne : ∀ u ∈ units, u.place dir ≠ [] := by
    intro u hu hnil
    have hplace := (h.settled hu).find?_ne_directory
    rw [← SourceUnit.place, hnil] at hplace
    exact hplace rfl
  rw [ClientGen.find?_foldl_withUnit hne]
  cases hlast : lastText dir units q with
  | none => rfl
  | some text =>
    have hfile : t'.fileAt? q = some text := by rw [h.fileAt?, hlast, Option.some_or]
    rw [fileAt?_eq_some_iff.1 hfile]
    rfl

end ClientGen
