import ClientGen.Proofs.CommandLine.Shown
import ClientGen.Proofs.CommandLine.Stored
import ClientGen.Proofs.Generation.Frames

/-!
# Running again

The first of two runs with the same arguments changes the tree that the second one sees. What
it has written is no JSON, so the second run either reads the same configuration and the same
documents or stops (`ClientGen.CommandLine.holdAlike_of_written`), and if it starts it has the
same job (`ClientGen.CommandLine.Starts.alike`), up to the command line that its comments show.
Then it is refused everything where files are kept, and otherwise it writes over each file once
more. Either way the tree stays as it is (`ClientGen.CommandLine.leaves_run_again`).

This needs the comments to be the same. They are not when the first run makes the output
directory: it is shown by its whole path while it is missing, and by its last part from then on
(`ClientGen.CommandLine.changes_run_again_twins`).
-/

namespace ClientGen.CommandLine

open FileTree

variable {tree tree' : FileTree} {dir : Path} {args : List String} {job job' : Job}

/-! ### What is read again -/

/-- Two trees never hold two values in one file: what one of them holds, the other holds too,
or it has something there that is no value. -/
def HoldAlike (tree tree' : FileTree) : Prop :=
  ∀ p v v', Holds tree p v → Holds tree' p v' → v = v'

theorem HoldAlike.config (h : HoldAlike tree tree') {arguments : Arguments}
    {config config' : Config}
    (hconfig : (Run.configFor arguments).valueOn tree = .ok config)
    (hconfig' : (Run.configFor arguments).valueOn tree' = .ok config') : config = config' := by
  rw [Run.configFor, (Run.readsOnly_readConfig _).valueOn_bind] at hconfig hconfig'
  obtain ⟨base, hbase, hconfig⟩ := Outcome.bind_eq_ok.1 hconfig
  obtain ⟨base', hbase', hconfig'⟩ := Outcome.bind_eq_ok.1 hconfig'
  have heq : base = base' := by
    cases hpath : arguments.config with
    | none =>
      rw [hpath] at hbase hbase'
      exact Except.ok.inj (hbase.symm.trans hbase')
    | some p =>
      rw [hpath] at hbase hbase'
      obtain ⟨v, hv, hofJson⟩ := Run.holds_of_readConfig hbase
      obtain ⟨v', hv', hofJson'⟩ := Run.holds_of_readConfig hbase'
      cases h p v v' hv hv'
      exact Except.ok.inj (hofJson.symm.trans hofJson')
  subst heq
  -- the options override what was read without another look at the tree
  refine Except.ok.inj (hconfig.symm.trans (Eq.trans ?_ hconfig'))
  dsimp only
  split
  · rw [(Run.ReadsOnly.ofOutcome _).valueOn_bind, (Run.ReadsOnly.ofOutcome _).valueOn_bind,
      Run.valueOn_ofOutcome_congr _ tree tree']
    refine bind_congr fun output => ?_
    rw [(Run.ReadsOnly.ofOutcome _).valueOn_bind, (Run.ReadsOnly.ofOutcome _).valueOn_bind,
      Run.valueOn_ofOutcome_congr _ tree tree']
    rfl
  · rfl

theorem HoldAlike.documents (h : HoldAlike tree tree') {paths : List Path}
    {documents documents' : List Json}
    (hdocuments : (paths.mapM fun p => (Run.readDocument p).valueOn tree) = .ok documents)
    (hdocuments' : (paths.mapM fun p => (Run.readDocument p).valueOn tree') = .ok documents') :
    documents = documents' := by
  refine Outcome.eq_of_mapM ?_ hdocuments hdocuments'
  intro p _ v v' hv hv'
  exact h p v v' (Run.holds_of_readDocument hv) (Run.holds_of_readDocument hv')

attribute [ext] Arguments

/-- Arguments do not depend on the tree, except that they may be refused. -/
theorem Arguments.eq_of_ofRaw {raw : RawArguments} {a a' : Arguments}
    (h : ofRaw tree dir raw = .ok a) (h' : ofRaw tree' dir raw = .ok a') : a = a' := by
  obtain ⟨last, rest, hpositional, hconfig, hpaths, houtput, hjobs, hname, hone, hforce, hdebug⟩ :=
    of_ofRaw h
  obtain ⟨last', rest', hpositional', hconfig', hpaths', houtput', hjobs', hname', hone', hforce',
    hdebug'⟩ := of_ofRaw h'
  cases hpositional.symm.trans hpositional'
  have hfile : ∀ {l : List String} {ps ps' : List Path}, l.mapM (filePath tree dir) = .ok ps →
      l.mapM (filePath tree' dir) = .ok ps' → ps = ps' := by
    intro l ps ps' hps hps'
    refine Outcome.eq_of_mapM ?_ hps hps'
    intro arg _ p p' hp hp'
    exact (of_filePath hp).1.trans (of_filePath hp').1.symm
  ext1
  · -- the configuration is read like a list of at most one file
    have heq := congrArg List.head? (hfile hconfig hconfig')
    rwa [Option.head?_toList, Option.head?_toList] at heq
  · rw [hname, hname']
  · rw [hone, hone']
  · rw [hforce, hforce']
  · exact Except.ok.inj (hjobs.symm.trans hjobs')
  · rw [hdebug, hdebug']
  · exact hfile hpaths hpaths'
  · exact (of_directoryPath houtput).trans (of_directoryPath houtput').symm

/-- **What is no JSON only spoils the files it is written over.** -/
theorem holdAlike_of_written {setting : OutputSetting} {units : List SourceUnit}
    (h : Written setting dir units tree tree')
    (hunits : ∀ u ∈ units, Json.read u.text Json.maxNesting = .error .grammar) :
    HoldAlike tree tree' := by
  rintro p v v' ⟨text, htext, hread⟩ ⟨text', htext', hread'⟩
  obtain ⟨place, hlocate, hplace⟩ := text?_eq_some_iff.1 htext
  obtain ⟨place', hlocate', hplace'⟩ := text?_eq_some_iff.1 htext'
  cases (h.keeps.locate hlocate).symm.trans hlocate'
  have hfile := h.fileAt? place
  rw [fileAt?_eq_some_iff.2 hplace', fileAt?_eq_some_iff.2 hplace] at hfile
  cases hlast : lastText dir units place with
  | none =>
    rw [hlast, Option.none_or] at hfile
    cases hfile
    exact Except.ok.inj (hread.symm.trans hread')
  | some other =>
    -- a unit stands there now
    rw [hlast, Option.some_or] at hfile
    cases hfile
    obtain ⟨u, hu, -, rfl⟩ := exists_of_lastText hlast
    rw [hunits u hu] at hread'
    cases hread'

theorem Prepares.read_text (h : Prepares dir tree job) {u : SourceUnit} (hu : u ∈ job.units) :
    Json.read u.text Json.maxNesting = .error .grammar := by
  obtain ⟨g, hg, hu⟩ := List.mem_flatMap.1 hu
  obtain ⟨document, -, hgenerate⟩ := Outcome.of_mem_mapM (generateAll_eq_ok h.results) hg
  exact read_text_of_generate hgenerate hu Json.maxNesting

/-- **A run that starts again has the same job**, apart from the command line that it shows and
what depends on it. -/
theorem Starts.alike (hstarts : Starts dir args tree job) (hstarts' : Starts dir args tree' job')
    (halike : HoldAlike tree tree') :
    job.arguments = job'.arguments ∧ job.config = job'.config ∧
      job.documents = job'.documents ∧ job.setting = job'.setting := by
  obtain ⟨raw, hread, -, hraw⟩ := hstarts.arguments
  obtain ⟨raw', hread', -, hraw'⟩ := hstarts'.arguments
  cases hread.symm.trans hread'
  have harguments := Arguments.eq_of_ofRaw hraw hraw'
  have hconfig := hstarts.config
  have hdocuments := hstarts.documents
  have hsetting := hstarts.setting
  rw [harguments] at hconfig hdocuments
  have heq := halike.config hconfig hstarts'.config
  rw [heq] at hsetting
  exact ⟨harguments, heq, halike.documents hdocuments hstarts'.documents,
    Except.ok.inj (hsetting.symm.trans hstarts'.setting)⟩

theorem Prepares.names_units (h : Prepares dir tree job) (h' : Prepares dir tree' job')
    (hconfig : job.config = job'.config) (hdocuments : job.documents = job'.documents) :
    job.units.map SourceUnit.fileName = job'.units.map SourceUnit.fileName ∧
      (job.config.generationComment.truthy = false ∨ job.commandLine = job'.commandLine →
        job.units = job'.units) := by
  have hresults := generateAll_eq_ok h.results
  have hresults' := generateAll_eq_ok h'.results
  rw [← hconfig, ← hdocuments] at hresults'
  constructor
  · have hnames : job.results.map (·.units.map SourceUnit.fileName) =
        job'.results.map (·.units.map SourceUnit.fileName) :=
      Outcome.map_eq_of_mapM (fun _ _ _ _ hg hg' => (names_eq_of_generate hg hg').1)
        hresults hresults'
    rw [Job.units, Job.units, List.map_flatMap, List.map_flatMap, List.flatMap_def,
      List.flatMap_def, hnames]
  · rintro (hoff | hline)
    · have hunits : job.results.map Generated.units = job'.results.map Generated.units :=
        Outcome.map_eq_of_mapM (fun _ _ _ _ hg hg' => (names_eq_of_generate hg hg').2 hoff)
          hresults hresults'
      rw [Job.units, Job.units, List.flatMap_def, List.flatMap_def, hunits]
    · rw [← hline] at hresults'
      rw [Job.units, Job.units, Except.ok.inj (hresults.symm.trans hresults')]

/-! ### What is written again -/

section

variable {setting : OutputSetting} {u : SourceUnit} {units : List SourceUnit} {s : RunState}

/-- A unit is written, or refused since its file is there already. -/
def Handles (setting : OutputSetting) (dir : Path) (u : SourceUnit) (t t' : FileTree) : Prop :=
  ∃ output, setting.forWriting = .ok output ∧
    ((∃ p, Writing.writeUnit output true dir u.fileName u.text t = .ok p t') ∨
      ∃ path, Writing.writeUnit output true dir u.fileName u.text t =
        .error (.alreadyWritten path) t')

namespace Run

theorem exists_writeOne (service : String) {t : FileTree}
    (h : Handles setting dir u s.tree t) :
    ∃ b s', writeOne setting dir service u s = .ok b s' ∧ s'.tree = t := by
  obtain ⟨output, hsetting, hwrite⟩ := h
  rw [writeOne, hsetting]
  rcases hwrite with ⟨p, hwrite⟩ | ⟨path, hwrite⟩
  · refine ⟨true, { s with tree := t, log := s.log ++ [⟨.debug, "Wrote " ++ p.text⟩] }, ?_, rfl⟩
    refine Session.bind_eq_ok.2 ⟨output, s, rfl, Session.bind_eq_ok.2 ⟨s, s, rfl, ?_⟩⟩
    rw [hwrite]
    rfl
  · refine ⟨false, { s with
      tree := t
      log := s.log ++ [⟨.error, "[" ++ service ++ "] " ++ u.fileName ++ ": " ++
        alreadyWrittenText path⟩]
      rows := s.rows ++ [⟨service, "FileExistsError", u.fileName, alreadyWrittenText path⟩] },
      ?_, rfl⟩
    refine Session.bind_eq_ok.2 ⟨output, s, rfl, Session.bind_eq_ok.2 ⟨s, s, rfl, ?_⟩⟩
    rw [hwrite]
    rfl

variable {I : FileTree → Prop} {f : FileTree → SourceUnit → FileTree}

/-- Units that are all handled are gone through in order. -/
theorem exists_writeUnits (service : String)
    (hstep : ∀ u ∈ units, ∀ t, I t → Handles setting dir u t (f t u) ∧ I (f t u)) (hs : I s.tree) :
    ∃ n s', writeUnits setting dir service units s = .ok n s' ∧
      s'.tree = units.foldl f s.tree ∧ I s'.tree := by
  induction units generalizing s with
  | nil => exact ⟨0, s, rfl, rfl, hs⟩
  | cons u rest ih =>
    obtain ⟨hu, hrest⟩ := List.forall_mem_cons.1 hstep
    obtain ⟨hhandles, hI⟩ := hu s.tree hs
    obtain ⟨b, s₁, hone, htree⟩ := exists_writeOne service hhandles
    rw [← htree] at hI
    obtain ⟨n, s', hunits, hfold, hI'⟩ := ih hrest hI
    exact ⟨_, s', Session.bind_eq_ok.2 ⟨b, s₁, hone, Session.bind_eq_ok.2 ⟨n, s', hunits, rfl⟩⟩,
      by rw [hfold, htree, List.foldl_cons], hI'⟩

theorem exists_writeService (path : Path) {g : Generated}
    (hstep : ∀ u ∈ g.units, ∀ t, I t → Handles setting dir u t (f t u) ∧ I (f t u))
    (hs : I s.tree) :
    ∃ s', writeService setting dir path g s = .ok () s' ∧
      s'.tree = g.units.foldl f s.tree ∧ I s'.tree := by
  obtain ⟨n, s₁, hunits, htree, hI⟩ := exists_writeUnits
    (if g.ledger.serviceName.isEmpty then path.name else g.ledger.serviceName) hstep hs
  exact ⟨_, Session.bind_eq_ok.2 ⟨n, s₁, hunits,
    Session.bind_eq_ok.2 ⟨(), _, forM_addRow _ _ s₁, rfl⟩⟩, htree, hI⟩

theorem exists_forM_writeService {rs : List (Path × Generated)}
    (hstep : ∀ u ∈ rs.flatMap (·.2.units), ∀ t, I t → Handles setting dir u t (f t u) ∧ I (f t u))
    (hs : I s.tree) :
    ∃ s', (rs.forM fun r => writeService setting dir r.1 r.2) s = .ok () s' ∧
      s'.tree = (rs.flatMap (·.2.units)).foldl f s.tree := by
  induction rs generalizing s with
  | nil => exact ⟨s, rfl, rfl⟩
  | cons r rs ih =>
    rw [List.flatMap_cons] at hstep ⊢
    obtain ⟨s₁, hservice, htree, hI⟩ := exists_writeService r.1
      (fun u hu => hstep u (List.mem_append_left _ hu)) hs
    obtain ⟨s', hrest, hfold⟩ := ih (fun u hu => hstep u (List.mem_append_right _ hu)) hI
    refine ⟨s', Session.bind_eq_ok.2 ⟨(), s₁, hservice, hrest⟩, ?_⟩
    rw [hfold, htree, List.foldl_append]

end Run

theorem Prepares.tree_ended {I : FileTree → Prop} {f : FileTree → SourceUnit → FileTree}
    {log : List LogLine} (h : Prepares dir tree job)
    (hstep : ∀ u ∈ job.units, ∀ t, I t →
      Handles job.setting job.arguments.output u t (f t u) ∧ I (f t u)) (hI : I tree) :
    (ended (job.write { tree, log })).2 = job.units.foldl f tree := by
  rw [← h.flatMap_zip] at hstep ⊢
  obtain ⟨s, hwrite, htree⟩ := Run.exists_forM_writeService (s := { tree, log }) hstep hI
  rw [Job.write, hwrite]
  exact htree

theorem handles_of_rewritable {t : FileTree} (h : Rewritable setting dir u t) :
    Handles setting dir u t (t.withUnit dir u) := by
  obtain ⟨output, p, hsetting, hwrite⟩ := h.exists_writeUnit
  exact ⟨output, hsetting, .inl ⟨p, hwrite⟩⟩

theorem handles_of_settled {t : FileTree} {output : OutputConfig}
    (hsetting : setting.forWriting = .ok output) (hkeep : output.mode = .keep)
    (h : t.Settled (u.path dir)) : Handles setting dir u t t := by
  refine ⟨output, hsetting, .inr ⟨(u.path dir).text, ?_⟩⟩
  rw [Writing.writeUnit_eq, ← SourceUnit.path]
  refine Session.bind_run_of_error ?_ _
  rw [hkeep, Writing.refuseIf, Writing.refuseExisting, h.exists?]

end

/-! ### Running again -/

theorem run_of_asksForHelp (h : asksForHelp args = true) (dir : Path) (tree : FileTree) :
    run dir args tree = ({ exitCode := 0 }, tree) := by
  rw [asksForHelp] at h
  rw [run]
  split at h
  · rename_i raw hread
    rw [hread]
    exact if_pos h
  · cases h

/-- **Running again changes nothing**, unless files are written over and the comments come to
show the namespace or the output directory in another way. -/
theorem leaves_run_again {cwd : String}
    (h : (run (Path.ofString cwd) args tree).1.exitCode = 0)
    (hshown : ∀ job, Starts (Path.ofString cwd) args tree job → job.Overwrites →
      job.config.generationComment.truthy = true → ∀ text ∈ job.arguments.freeTexts,
        Names (run (Path.ofString cwd) args tree).2 (Path.ofString cwd) text →
          Names tree (Path.ofString cwd) text)
    (place : List String) :
    (run (Path.ofString cwd) args (run (Path.ofString cwd) args tree).2).2.find? place =
      (run (Path.ofString cwd) args tree).2.find? place := by
  cases hhelp : asksForHelp args with
  | true => rw [run_of_asksForHelp hhelp, run_of_asksForHelp hhelp]
  | false =>
    obtain ⟨job, hstarts, hwritten⟩ := written_of_exitCode hhelp h
    generalize (run (Path.ofString cwd) args tree).2 = tree' at hshown hwritten ⊢
    rcases run_cases (Path.ofString cwd) args tree' with
      ⟨r, hrun, -⟩ | ⟨job', log, hstarts', hrun⟩
    · rw [hrun]
    obtain ⟨harguments, hconfig, hdocuments, hsetting⟩ := hstarts.alike hstarts'
      (holdAlike_of_written hwritten fun u hu => hstarts.read_text hu)
    obtain ⟨hnames, hunits⟩ := hstarts.names_units hstarts'.toPrepares hconfig hdocuments
    rw [hrun]
    by_cases hover : job.Overwrites
    · -- the same units are written over themselves
      have hsame : job.units = job'.units := by
        cases hcomment : job.config.generationComment.truthy with
        | false => exact hunits (.inl hcomment)
        | true =>
          have hline := hstarts'.commandLine
          rw [← harguments] at hline
          exact hunits (.inr (hstarts.commandLine_eq hwritten.keeps
            (hshown job hstarts hover hcomment) hline).symm)
      rw [hstarts'.tree_ended (f := withUnit job.arguments.output) (I := Keeps tree') ?_
        (.refl tree'), ← hsame, hwritten.find?_foldl_withUnit]
      intro u hu t ht
      rw [← hsame] at hu
      rw [← hsetting, ← harguments]
      have hrewritable := (hwritten.rewritable hover hu).of_keeps ht
      exact ⟨handles_of_rewritable hrewritable, ht.trans hrewritable.keeps_withUnit⟩
    · -- everything is refused, since all files are there
      rw [hstarts'.tree_ended (f := fun t _ => t) (I := (· = tree')) ?_ rfl, List.foldl_fixed]
      rintro u hu _ rfl
      refine ⟨?_, rfl⟩
      obtain ⟨output, hforWriting, hkeep⟩ := Job.exists_of_not_overwrites hover
      have hname : u.fileName ∈ job.units.map SourceUnit.fileName := by
        rw [hnames]
        exact List.mem_map_of_mem hu
      obtain ⟨v, hv, hfileName⟩ := List.mem_map.1 hname
      have hsettled := hwritten.settled hv
      rw [SourceUnit.path, hfileName, ← SourceUnit.path] at hsettled
      rw [hsetting] at hforWriting
      rw [harguments] at hsettled
      exact handles_of_settled hforWriting hkeep hsettled

/-! ### A directory that is made by the first run -/

/-- What is written for a twin, with the command line that is shown. -/
theorem exists_text_of_twin (h : Prepares dir tree job) (hconfig : job.config = overwriting)
    (hdocuments : job.documents = [twin "1"])
    (houtput : job.arguments.output = ⟨true, ["w", "out"]⟩)
    (hwritten : Written job.setting job.arguments.output job.units tree tree') :
    ∃ (f : CSharp.UnitFrame) (declarations : List String),
      tree'.text? ⟨true, ["w", "out", "XService.cs"]⟩ = some (f.assemble declarations) ∧
      f.comment = .str ("// Generated by discovery_to_code v1.0.0 : " ++ job.commandLine) := by
  have hresults := generateAll_eq_ok h.results
  rw [hconfig, hdocuments] at hresults
  obtain ⟨g, _, hg, hnil, hlist⟩ := Outcome.mapM_cons_eq_ok.1 hresults
  cases hnil
  obtain ⟨u, f, declarations, hu, hname, htext, hcomment, -⟩ :=
    exists_unit_of_twin (.inl rfl) hg
  have hunits : job.units = [u] := by
    rw [Job.units, hlist, List.flatMap_cons, hu]
    rfl
  rw [hunits] at hwritten
  have hall := hwritten.forall_text?_iff.2 (by simp) u List.mem_cons_self
  rw [SourceUnit.path, hname, houtput, htext] at hall
  exact ⟨f, declarations, hall, hcomment⟩

theorem exitCode_twin :
    (run (Path.ofString "/w") (twinCommand ["a.json"]) twins).1.exitCode = 0 := by
  decide +kernel

theorem exitCode_twin_again :
    (run (Path.ofString "/w") (twinCommand ["a.json"])
      (run (Path.ofString "/w") (twinCommand ["a.json"]) twins).2).1.exitCode = 0 := by
  decide +kernel

/-- The output directory is shown by its path while it is missing, and by its last part when it
is there. -/
theorem display_twin :
    display twins (Path.ofString "/w")
        (Run.parameterValues (twinArguments [⟨true, ["w", "a.json"]⟩])) =
      .ok "discovery_to_code a.json /w/out --config c.json" ∧
    (display (run (Path.ofString "/w") (twinCommand ["a.json"]) twins).2 (Path.ofString "/w")
        (Run.parameterValues (twinArguments [⟨true, ["w", "a.json"]⟩]))).toOption =
      some "discovery_to_code a.json out --config c.json" :=
  ⟨rfl, by decide +kernel⟩

/-- **A second run changes what the first has written** when the first has made the output
directory: the comment then shows the last part of its path only. -/
theorem changes_run_again_twins :
    (run (Path.ofString "/w") (twinCommand ["a.json"]) twins).1.exitCode = 0 ∧
    (run (Path.ofString "/w") (twinCommand ["a.json"])
      (run (Path.ofString "/w") (twinCommand ["a.json"]) twins).2).2.text?
        ⟨true, ["w", "out", "XService.cs"]⟩ ≠
      (run (Path.ofString "/w") (twinCommand ["a.json"]) twins).2.text?
        ⟨true, ["w", "out", "XService.cs"]⟩ := by
  refine ⟨exitCode_twin, fun hsame => ?_⟩
  obtain ⟨job, hstarts, hwritten⟩ := written_of_exitCode rfl exitCode_twin
  obtain ⟨job', hstarts', hwritten'⟩ := written_of_exitCode rfl exitCode_twin_again
  have harguments : job.arguments = twinArguments [⟨true, ["w", "a.json"]⟩] :=
    hstarts.arguments_eq rfl rfl
  have hdocuments : job.documents = [twin "1"] := hstarts.documents_eq (by
    rw [harguments]
    exact .cons holds_twins.1 .nil)
  have hconfig := hstarts.config
  have hline := hstarts.commandLine
  have hline' := hstarts'.commandLine
  rw [harguments] at hconfig hline
  have hconfig := eq_overwriting rfl hconfig
  obtain ⟨harguments', hconfig', hdocuments', -⟩ := hstarts.alike hstarts'
    (holdAlike_of_written hwritten fun u hu => hstarts.read_text hu)
  rw [← harguments', harguments] at hline'
  obtain ⟨f, declarations, htext, hcomment⟩ := exists_text_of_twin hstarts.toPrepares hconfig
    hdocuments (by rw [harguments]; rfl) hwritten
  obtain ⟨f', declarations', htext', hcomment'⟩ := exists_text_of_twin hstarts'.toPrepares
    (hconfig'.symm.trans hconfig) (hdocuments'.symm.trans hdocuments)
    (by rw [← harguments', harguments]; rfl) hwritten'
  have hshown := Except.ok.inj (hline.symm.trans display_twin.1)
  have hshown' := display_twin.2
  rw [hline'] at hshown'
  rw [hshown] at hcomment
  rw [Option.some.inj hshown'] at hcomment'
  -- the same text has the same comment, and so shows the same command line
  rw [htext, htext'] at hsame
  have hequal := CSharp.UnitFrame.comment_eq (Option.some.inj hsame)
  rw [hcomment, hcomment'] at hequal
  exact absurd (hequal (by decide) (by decide) (by decide) (by decide)) (by decide)

/-- A directory in which the output directory is there beforehand. -/
def shelvedTwins : FileTree :=
  twins.put ["w", "out"] .directory

/-- A second run on an output directory that was there beforehand. -/
theorem leaves_run_again_shelvedTwins :
    (run (Path.ofString "/w") (twinCommand ["a.json"]) shelvedTwins).1.exitCode = 0 ∧
    Names shelvedTwins (Path.ofString "/w") "/w/out" ∧
    ∀ place, (run (Path.ofString "/w") (twinCommand ["a.json"])
        (run (Path.ofString "/w") (twinCommand ["a.json"]) shelvedTwins).2).2.find? place =
      (run (Path.ofString "/w") (twinCommand ["a.json"]) shelvedTwins).2.find? place := by
  have hexit : (run (Path.ofString "/w") (twinCommand ["a.json"]) shelvedTwins).1.exitCode = 0 := by
    decide +kernel
  have hnames : Names shelvedTwins (Path.ofString "/w") "/w/out" := rfl
  refine ⟨hexit, hnames, leaves_run_again hexit ?_⟩
  intro job hstarts _ _ text htext _
  have harguments : job.arguments = twinArguments [⟨true, ["w", "a.json"]⟩] :=
    hstarts.arguments_eq rfl rfl
  rw [harguments] at htext
  rw [List.mem_singleton.1 htext]
  exact hnames

end ClientGen.CommandLine
