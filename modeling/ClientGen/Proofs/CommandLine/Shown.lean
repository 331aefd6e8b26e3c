import ClientGen.Proofs.CommandLine.Jobs
import ClientGen.Proofs.Output.Series
import ClientGen.Proofs.Text.Lines

/-!
# The command line that is shown

A value is shown by its last part where it names something, so the command line that is shown
depends on the tree, but only on which of the values name something
(`ClientGen.CommandLine.display_eq`). The configuration and the documents always do; the
namespace and the output directory may come to name something when a run writes
(`ClientGen.CommandLine.Starts.commandLine_eq`).
-/

namespace ClientGen

/-! ### Reading the text of a path -/

namespace Path

/-- Parts that are read back from the text of a path. -/
def IsPart (part : String) : Prop :=
  part ≠ "" ∧ part ≠ "." ∧ '/' ∉ part.toList

theorem isPart_of_mem_ofString {s part : String} (h : part ∈ (ofString s).parts) :
    IsPart part := by
  obtain ⟨hmem, hfilter⟩ := List.mem_filter.1 h
  obtain ⟨piece, hpiece, rfl⟩ := List.mem_map.1 hmem
  rw [Bool.and_eq_true] at hfilter
  refine ⟨of_decide_eq_true hfilter.1, of_decide_eq_true hfilter.2, ?_⟩
  rw [String.toList_ofList]
  exact Text.notMem_of_mem_splitOnChar hpiece

/-- **The text of an absolute path is read back.** -/
theorem ofString_text {p : Path} (habsolute : p.absolute = true)
    (h : ∀ part ∈ p.parts, IsPart part) : ofString p.text = p := by
  have htext : p.text.toList = '/' :: ['/'].intercalate (p.parts.map String.toList) := by
    rw [text, if_pos habsolute, String.toList_append, String.toList_intercalate]
    rfl
  refine Path.ext ?_ ?_
  · rw [ofString, htext, habsolute]
    rfl
  · -- there is nothing before the first slash, and a part before each of the others
    rw [ofString, htext, Text.splitOnChar, if_pos rfl, List.map_cons]
    dsimp only
    rw [List.filter_cons_of_neg (by decide)]
    by_cases hne : p.parts = []
    · rw [hne]
      rfl
    · have hpieces : ∀ piece ∈ p.parts.map String.toList, '/' ∉ piece := by
        rintro _ hpiece
        obtain ⟨part, hpart, rfl⟩ := List.mem_map.1 hpiece
        exact (h part hpart).2.2
      have hid : String.ofList ∘ String.toList = id := funext fun _ => String.ofList_toList
      rw [Text.splitOnChar_intercalate (by simpa using hne) hpieces, List.map_map, hid,
        List.map_id, List.filter_eq_self]
      intro part hpart
      simp [(h part hpart).1, (h part hpart).2.1]

theorem isPart_of_mem_resolve {s cwd part : String}
    (h : part ∈ (resolve (ofString cwd) (ofString s)).parts) : IsPart part := by
  have hmem := collapse_subset _ h
  rw [join] at hmem
  split at hmem
  · exact isPart_of_mem_ofString hmem
  · rcases List.mem_append.1 hmem with hmem | hmem
    · exact isPart_of_mem_ofString hmem
    · exact isPart_of_mem_ofString hmem

end Path

theorem FileTree.entryAt_of_absolute {t : FileTree} {p : Path} (h : p.absolute = true)
    (dir : Path) : t.entryAt dir p = t.entryAt .root p := by
  rw [entryAt, entryAt, locate, locate, Path.join, Path.join, if_pos h, if_pos h]

namespace CommandLine

variable {tree tree' : FileTree} {dir : Path}

/-! ### Values that name something -/

/-- A text names something in a tree, seen from a directory. -/
def Names (tree : FileTree) (dir : Path) (text : String) : Prop :=
  tree.exists? dir (Path.ofString text) = .ok true

theorem eq_of_showValue {v : Json} {shown shown' : String}
    (hnames : ∀ s, v = .str s → (Names tree' dir s ↔ Names tree dir s))
    (h : showValue tree dir v = .ok shown) (h' : showValue tree' dir v = .ok shown') :
    shown = shown' := by
  cases v with
  | str s =>
    obtain ⟨b, hb, h⟩ := Outcome.bind_eq_ok.1 h
    obtain ⟨b', hb', h'⟩ := Outcome.bind_eq_ok.1 h'
    have hiff := hnames s rfl
    rw [Names, Names, hb, hb'] at hiff
    -- only whether there is something decides how the text is shown
    have heq : b' = b := by
      cases b <;> cases b' <;> simp at hiff ⊢
    rw [heq] at h'
    exact Except.ok.inj (h.symm.trans h')
  | _ => exact Except.ok.inj (h.symm.trans h')

theorem eq_of_wordsFor {d : Display} {value : Json} {words words' : List String × List String}
    (hnames : ∀ s, .str s ∈ valuesOf value → (Names tree' dir s ↔ Names tree dir s))
    (h : wordsFor tree dir d value = .ok words) (h' : wordsFor tree' dir d value = .ok words') :
    words = words' := by
  rw [wordsFor] at h h'
  split at h
  · rename_i hfalsy
    rw [if_pos hfalsy] at h'
    exact Except.ok.inj (h.symm.trans h')
  · rename_i hfalsy
    rw [if_neg hfalsy] at h'
    obtain ⟨shown, hshown, h⟩ := Outcome.bind_eq_ok.1 h
    obtain ⟨shown', hshown', h'⟩ := Outcome.bind_eq_ok.1 h'
    have heq : shown = shown' := by
      refine Outcome.eq_of_mapM ?_ hshown hshown'
      intro v hv a b ha hb
      exact eq_of_showValue (fun s hs => hnames s (hs ▸ hv)) ha hb
    rw [← heq] at h'
    exact Except.ok.inj (h.symm.trans h')

/-- **What is shown depends on which values name something.** -/
theorem display_eq {values : Fields} {line line' : String}
    (hnames : ∀ field ∈ values, ∀ s, .str s ∈ valuesOf field.2 →
      (Names tree' dir s ↔ Names tree dir s))
    (h : display tree dir values = .ok line) (h' : display tree' dir values = .ok line') :
    line = line' := by
  obtain ⟨words, hwords, h⟩ := Outcome.bind_eq_ok.1 h
  obtain ⟨words', hwords', h'⟩ := Outcome.bind_eq_ok.1 h'
  have heq : words = words' := by
    refine Outcome.eq_of_mapM ?_ hwords hwords'
    intro p _ a b ha hb
    cases hvalue : Fields.find? values p.1 with
    | none =>
      rw [hvalue] at ha hb
      exact Except.ok.inj (ha.symm.trans hb)
    | some value =>
      rw [hvalue] at ha hb
      exact eq_of_wordsFor (hnames (p.1, value) (Fields.mem_of_find? hvalue)) ha hb
  rw [← heq] at h'
  exact Except.ok.inj (h.symm.trans h')

/-! ### The values of a run -/

namespace Arguments

/-- The text of the path of a file names it. -/
theorem names_of_filePath {cwd arg : String} {p : Path}
    (h : filePath tree (Path.ofString cwd) arg = .ok p) :
    Names tree (Path.ofString cwd) p.text := by
  obtain ⟨rfl, text, hentry⟩ := of_filePath h
  rw [Names, Path.ofString_text rfl fun _ => Path.isPart_of_mem_resolve,
    FileTree.exists?_eq_true_iff]
  exact ⟨.file text, (FileTree.entryAt_of_absolute rfl _).trans hentry⟩

/-- The texts of arguments that name something only if it happens to be there. -/
def freeTexts (args : Arguments) : List String :=
  args.output.text :: args.namespaceName.toList

/-- The paths of the files that arguments name. -/
def files (args : Arguments) : List Path :=
  args.config.toList ++ args.paths

theorem exists_filePath_of_mem_files {raw : RawArguments} {args : Arguments}
    (h : ofRaw tree dir raw = .ok args) {p : Path} (hp : p ∈ args.files) :
    ∃ arg, filePath tree dir arg = .ok p := by
  obtain ⟨last, rest, -, hconfig, hpaths, -⟩ := of_ofRaw h
  rcases List.mem_append.1 hp with hp | hp
  · obtain ⟨arg, -, harg⟩ := Outcome.of_mem_mapM hconfig hp
    exact ⟨arg, harg⟩
  · obtain ⟨arg, -, harg⟩ := Outcome.of_mem_mapM hpaths hp
    exact ⟨arg, harg⟩

end Arguments

theorem mem_of_mem_parameterValues {args : Arguments} {field : String × Json} {s : String}
    (hfield : field ∈ Run.parameterValues args) (hs : .str s ∈ valuesOf field.2) :
    s ∈ args.freeTexts ∨ ∃ p ∈ args.files, p.text = s := by
  rw [Arguments.freeTexts, Arguments.files]
  simp only [Run.parameterValues, List.mem_cons, List.not_mem_nil, or_false] at hfield
  -- one case for each parameter, in the order in which they are listed
  rcases hfield with rfl | rfl | rfl | rfl | rfl | rfl | rfl | rfl
  · cases hconfig : args.config with
    | none =>
      rw [hconfig] at hs
      cases List.mem_singleton.1 hs
    | some p =>
      rw [hconfig] at hs
      cases List.mem_singleton.1 hs
      exact .inr ⟨p, List.mem_cons_self, rfl⟩
  · cases hname : args.namespaceName with
    | none =>
      rw [hname] at hs
      cases List.mem_singleton.1 hs
    | some name =>
      rw [hname] at hs
      cases List.mem_singleton.1 hs
      exact .inl (List.mem_cons_of_mem _ List.mem_cons_self)
  iterate 4
    · cases List.mem_singleton.1 hs
  · obtain ⟨p, hp, heq⟩ := List.mem_map.1 hs
    cases heq
    exact .inr ⟨p, List.mem_append_right _ hp, rfl⟩
  · cases List.mem_singleton.1 hs
    exact .inl List.mem_cons_self

/-- **The command line that is shown stays the same** unless the namespace or the output
directory comes to name something. -/
theorem Starts.commandLine_eq {cwd : String} {args : List String} {job : Job} {line : String}
    (hstarts : Starts (Path.ofString cwd) args tree job) (hkeeps : tree.Keeps tree')
    (hfree : ∀ text ∈ job.arguments.freeTexts,
      Names tree' (Path.ofString cwd) text → Names tree (Path.ofString cwd) text)
    (h : display tree' (Path.ofString cwd) (Run.parameterValues job.arguments) = .ok line) :
    line = job.commandLine := by
  refine (display_eq ?_ hstarts.commandLine h).symm
  intro field hfield s hs
  refine ⟨?_, hkeeps.exists?⟩
  obtain ⟨raw, -, -, hraw⟩ := hstarts.arguments
  rcases mem_of_mem_parameterValues hfield hs with hs | ⟨p, hp, rfl⟩
  · exact hfree s hs
  · obtain ⟨arg, harg⟩ := Arguments.exists_filePath_of_mem_files hraw hp
    exact fun _ => Arguments.names_of_filePath harg

end CommandLine

end ClientGen
