import ClientGen.Proofs.CommandLine.Jobs
import ClientGen.Proofs.Generation.Frames
import ClientGen.Proofs.Output.Series

/-!
# What a run has written

A run that cannot write a unit has a row for it and ends with exit code 1, so one that ends
with exit code 0 has written all units of its job, one after the other
(`ClientGen.CommandLine.written_of_exitCode`). All of them are still there at the end exactly
if units for the same place have the same text (`ClientGen.CommandLine.units_stored_iff`).

Units of one name are refused where existing files are kept. Where files are written over,
two documents that describe services of one name end in one file, and what was written for the
first is lost without a word (`ClientGen.CommandLine.not_stored_twins`).
-/

namespace ClientGen.CommandLine

namespace Run

variable {setting : OutputSetting} {dir : Path} {units more : List SourceUnit}
  {s s' s'' : RunState}

/-- A part of a run only adds rows, and if it adds none it has written some units. -/
def Stored (setting : OutputSetting) (dir : Path) (units : List SourceUnit)
    (s s' : RunState) : Prop :=
  ∃ rows, s'.rows = s.rows ++ rows ∧ (rows = [] → Written setting dir units s.tree s'.tree)

namespace Stored

theorem of_refused {row : ErrorRow} (h : s'.rows = s.rows ++ [row]) :
    Stored setting dir units s s' :=
  ⟨[row], h, nofun⟩

theorem append (h : Stored setting dir units s s') (h' : Stored setting dir more s' s'') :
    Stored setting dir (units ++ more) s s'' := by
  obtain ⟨rows, hrows, hwritten⟩ := h
  obtain ⟨rows', hrows', hwritten'⟩ := h'
  refine ⟨rows ++ rows', by rw [hrows', hrows, List.append_assoc], ?_⟩
  intro hnil
  obtain ⟨rfl, rfl⟩ := List.append_eq_nil_iff.1 hnil
  exact (hwritten rfl).append (hwritten' rfl)

end Stored

theorem stored_of_writeOne {service : String} {u : SourceUnit} {b : Bool}
    (h : writeOne setting dir service u s = .ok b s') : Stored setting dir [u] s s' := by
  rw [writeOne] at h
  obtain ⟨output, s, houtput, hrest⟩ := Session.bind_eq_ok.1 h
  obtain ⟨hsetting, rfl⟩ := ofOutcome_eq_ok_iff.1 houtput
  obtain ⟨_, _, hget, htree⟩ := Session.bind_eq_ok.1 hrest
  cases hget
  generalize hwrite : Writing.writeUnit output true dir u.fileName u.text s.tree = r at htree
  match r, hwrite with
  | .ok p tree, hwrite =>
    cases htree
    exact ⟨[], (List.append_nil _).symm, fun _ => .cons hsetting hwrite .nil⟩
  | .error (.issue i) tree, _ =>
    cases htree
    exact .of_refused rfl
  | .error (.alreadyWritten path) tree, _ =>
    cases htree
    exact .of_refused rfl
  | .error (.file f) tree, _ =>
    -- of the refusals of the operating system only a file in the way becomes a row
    cases f <;> cases htree
    exact .of_refused rfl
  | .error (.fault f) tree, _ => cases htree

theorem stored_of_writeUnits {service : String} {n : Nat}
    (h : writeUnits setting dir service units s = .ok n s') : Stored setting dir units s s' := by
  induction units generalizing s n with
  | nil =>
    cases h
    exact ⟨[], (List.append_nil _).symm, fun _ => .nil⟩
  | cons u rest ih =>
    rw [writeUnits] at h
    obtain ⟨_, s₁, hone, h⟩ := Session.bind_eq_ok.1 h
    obtain ⟨_, s₂, hrest, h⟩ := Session.bind_eq_ok.1 h
    cases h
    exact (stored_of_writeOne hone).append (ih hrest)

theorem forM_addRow {α : Type} (row : α → ErrorRow) (xs : List α) (s : RunState) :
    (xs.forM fun x => addRow (row x)) s = .ok () { s with rows := s.rows ++ xs.map row } := by
  induction xs generalizing s with
  | nil => simp
  | cons x xs ih =>
    rw [List.forM, addRow, Session.bind_run_of_ok (Session.modify_run _ s), ih]
    simp

theorem stored_of_writeService {path : Path} {g : Generated} {v : Unit}
    (h : writeService setting dir path g s = .ok v s') : Stored setting dir g.units s s' := by
  rw [writeService] at h
  obtain ⟨_, s₁, hunits, h⟩ := Session.bind_eq_ok.1 h
  rw [Session.bind_run_of_ok (forM_addRow _ _ s₁)] at h
  cases h
  obtain ⟨rows, hrows, hwritten⟩ := stored_of_writeUnits hunits
  -- the rows of the issues come after those of the units
  refine ⟨rows ++ _, by rw [← List.append_assoc, ← hrows], ?_⟩
  intro hnil
  exact hwritten (List.append_eq_nil_iff.1 hnil).1

theorem stored_of_forM {rs : List (Path × Generated)} {v : Unit}
    (h : (rs.forM fun r => writeService setting dir r.1 r.2) s = .ok v s') :
    Stored setting dir (rs.flatMap (·.2.units)) s s' := by
  induction rs generalizing s with
  | nil =>
    cases h
    exact ⟨[], (List.append_nil _).symm, fun _ => .nil⟩
  | cons r rs ih =>
    rw [List.forM] at h
    obtain ⟨_, s₁, hservice, hrest⟩ := Session.bind_eq_ok.1 h
    exact (stored_of_writeService hservice).append (ih hrest)

end Run

variable {dir : Path} {args : List String} {tree : FileTree} {job : Job}

theorem generateAll_eq_ok {config : Config} {commandLine : String} {workers : Json}
    {documents : List Json} {results : List Generated}
    (h : generateAll config commandLine workers documents = .ok results) :
    documents.mapM (generate config commandLine) = .ok results := by
  unfold generateAll at h
  dsimp only at h
  split at h
  · split at h
    · exact h
    iterate 3
      · split at h
        · cases h
        · exact h
    · cases h
  · exact h

/-- There is a document for each path, and something generated for each document. -/
theorem Prepares.flatMap_zip (h : Prepares dir tree job) :
    (job.arguments.paths.zip job.results).flatMap (·.2.units) = job.units := by
  have hlength : job.results.length ≤ job.arguments.paths.length := by
    rw [Outcome.length_mapM (generateAll_eq_ok h.results), Outcome.length_mapM h.documents]
  calc (job.arguments.paths.zip job.results).flatMap (·.2.units)
      = ((job.arguments.paths.zip job.results).map Prod.snd).flatMap Generated.units := by
        rw [List.flatMap_map]
    _ = job.units := by rw [List.map_snd_zip hlength, Job.units]

theorem exists_of_ended {r : EStateM.Result RunFailure RunState Unit}
    (h : (ended r).1.exitCode = 0) : ∃ v s, r = .ok v s ∧ s.rows = [] := by
  cases r with
  | error e s => cases h
  | ok v s =>
    refine ⟨v, s, rfl, ?_⟩
    by_contra hrows
    rw [ended, run.shown, if_neg (by simpa using hrows)] at h
    split at h <;> cases h

/-- **A run that ends with exit code 0 has written all its units.** -/
theorem written_of_exitCode (hhelp : asksForHelp args = false)
    (h : (run dir args tree).1.exitCode = 0) :
    ∃ job, Starts dir args tree job ∧
      Written job.setting job.arguments.output job.units tree (run dir args tree).2 := by
  rcases run_cases dir args tree with ⟨r, hrun, hzero⟩ | ⟨job, log, hstarts, hrun⟩
  · rw [hrun] at h
    rw [hzero h] at hhelp
    cases hhelp
  · refine ⟨job, hstarts, ?_⟩
    rw [hrun] at h ⊢
    obtain ⟨v, s, hwrite, hrows⟩ := exists_of_ended h
    obtain ⟨rows, hadded, hwritten⟩ := Run.stored_of_forM hwrite
    rw [hrows] at hadded
    rw [hstarts.flatMap_zip] at hwritten
    rw [hwrite]
    exact hwritten (List.append_eq_nil_iff.1 hadded.symm).2

/-- The output directory of a run is an absolute path without parts `..`. -/
theorem Starts.output (h : Starts dir args tree job) :
    job.arguments.output.absolute = true ∧ ".." ∉ job.arguments.output.parts := by
  obtain ⟨raw, -, -, hraw⟩ := h.arguments
  obtain ⟨last, rest, -, -, -, houtput, -⟩ := Arguments.of_ofRaw hraw
  rw [Arguments.of_directoryPath houtput]
  exact ⟨rfl, Path.not_mem_collapse _⟩

theorem Starts.arguments_eq {raw : RawArguments} {arguments : Arguments}
    (h : Starts dir args tree job) (hread : RawArguments.read args = .ok raw)
    (hraw : Arguments.ofRaw tree dir raw = .ok arguments) : job.arguments = arguments := by
  obtain ⟨raw', hread', -, hraw'⟩ := h.arguments
  cases hread.symm.trans hread'
  exact Except.ok.inj (hraw'.symm.trans hraw)

/-- The documents of a job are what its files hold. -/
theorem Prepares.documents_eq (h : Prepares dir tree job) {values : List Json}
    (hvalues : List.Forall₂ (Holds tree) job.arguments.paths values) : job.documents = values := by
  have hread := h.documents
  generalize job.arguments.paths = paths, job.documents = documents at hread hvalues
  induction hvalues generalizing documents with
  | nil =>
    cases hread
    rfl
  | cons hv _ ih =>
    obtain ⟨v, rest, hone, hrest, rfl⟩ := Outcome.mapM_cons_eq_ok.1 hread
    rw [(Run.holds_of_readDocument hone).eq hv, ih _ hrest]

namespace Job

/-- The file of every unit is there, with the text of the unit. -/
def OnDisk (job : Job) (tree : FileTree) : Prop :=
  ∀ u ∈ job.units, tree.text? (u.path job.arguments.output) = some u.text

/-- Units for the same place have the same text. -/
def Agrees (job : Job) : Prop :=
  ∀ u ∈ job.units, ∀ v ∈ job.units,
    u.place job.arguments.output = v.place job.arguments.output → u.text = v.text

/-- Existing files are written over. -/
def Overwrites (job : Job) : Prop :=
  ∀ output, job.setting.forWriting = .ok output → output.mode ≠ .keep

theorem exists_of_not_overwrites (h : ¬job.Overwrites) :
    ∃ output, job.setting.forWriting = .ok output ∧ output.mode = .keep := by
  simpa only [Overwrites, not_forall, not_not, exists_prop] using h

end Job

/-- **After exit code 0 everything is on disk, exactly if units for the same place agree.**
Where existing files are kept they do, unless a name has a part `..`. -/
theorem units_stored_iff (hhelp : asksForHelp args = false)
    (h : (run dir args tree).1.exitCode = 0) :
    ∃ job, Starts dir args tree job ∧ (job.OnDisk (run dir args tree).2 ↔ job.Agrees) ∧
      (¬job.Overwrites → (∀ u ∈ job.units, ".." ∉ (Path.ofString u.fileName).parts) →
        job.OnDisk (run dir args tree).2) := by
  obtain ⟨job, hstarts, hwritten⟩ := written_of_exitCode hhelp h
  refine ⟨job, hstarts, hwritten.forall_text?_iff, ?_⟩
  intro hkeeps hplain
  obtain ⟨output, hsetting, hkeep⟩ := Job.exists_of_not_overwrites hkeeps
  obtain ⟨habsolute, hdir⟩ := hstarts.output
  have hnodup := hwritten.nodup_places hsetting hkeep habsolute hdir hplain
  refine hwritten.forall_text?_iff.2 ?_
  intro u hu v hv hplace
  rw [List.inj_on_of_nodup_map hnodup hu hv hplace]

/-! ### Two services of one name -/

section

open CSharp

/-- A document that describes a service by its version. -/
def twin (version : String) : Json :=
  .object [("name", "x"), ("version", .str version)]

/-- Settings that write over files, and do not check texts. -/
def overwriting : Config :=
  { output := some (.settings { mode := .force, validate := .bool false }) }

/-- A directory with two documents that describe services of one name, and settings. -/
def twins : FileTree :=
  .mk [(["w"], .directory),
    (["w", "a.json"], .file "\x7b\"name\": \"x\", \"version\": \"1\"\x7d"),
    (["w", "b.json"], .file "\x7b\"name\": \"x\", \"version\": \"2\"\x7d"),
    (["w", "c.json"], .file
      "\x7b\"output\": \x7b\"mode\": \"force\", \"validate_before_write\": false\x7d\x7d")]

/-- The command that writes documents into a directory that is missing. -/
def twinCommand (documents : List String) : List String :=
  ["-c", "c.json"] ++ documents ++ ["out"]

/-- The arguments of the command. -/
def twinArguments (paths : List Path) : Arguments where
  config := some ⟨true, ["w", "c.json"]⟩
  namespaceName := none
  oneFilePerType := false
  force := false
  jobs := 1
  debug := false
  paths
  output := ⟨true, ["w", "out"]⟩

theorem eq_overwriting {paths : List Path} {tree : FileTree} {config : Config}
    (htext : tree.text? ⟨true, ["w", "c.json"]⟩ = twins.text? ⟨true, ["w", "c.json"]⟩)
    (h : (Run.configFor (twinArguments paths)).valueOn tree = .ok config) :
    config = overwriting := by
  rw [Run.configFor, (Run.readsOnly_readConfig _).valueOn_bind] at h
  obtain ⟨base, hbase, h⟩ := Outcome.bind_eq_ok.1 h
  cases h
  obtain ⟨v, hholds, hofJson⟩ := Run.holds_of_readConfig hbase
  have hread : Json.read
      "\x7b\"output\": \x7b\"mode\": \"force\", \"validate_before_write\": false\x7d\x7d"
      Json.maxNesting = .ok (.object [("output",
        .object [("mode", "force"), ("validate_before_write", .bool false)])]) := by
    simp only [Json.read, String.reduceToList]
    rfl
  rw [hholds.eq ⟨_, htext.trans rfl, hread⟩] at hofJson
  exact (Except.ok.inj hofJson).symm

theorem holds_twins :
    Holds twins ⟨true, ["w", "a.json"]⟩ (twin "1") ∧
      Holds twins ⟨true, ["w", "b.json"]⟩ (twin "2") := by
  have hread : Json.read "\x7b\"name\": \"x\", \"version\": \"1\"\x7d" Json.maxNesting =
      .ok (twin "1") := by
    simp only [Json.read, String.reduceToList]
    rfl
  have hread' : Json.read "\x7b\"name\": \"x\", \"version\": \"2\"\x7d" Json.maxNesting =
      .ok (twin "2") := by
    simp only [Json.read, String.reduceToList]
    rfl
  exact ⟨⟨_, rfl, hread⟩, ⟨_, rfl, hread'⟩⟩

/-- The unit that is generated for a twin. -/
theorem exists_unit_of_twin {version line : String} {g : Generated}
    (hversion : version = "1" ∨ version = "2")
    (h : generate overwriting line (twin version) = .ok g) :
    ∃ (u : SourceUnit) (f : UnitFrame) (declarations : List String),
      g.units = [u] ∧ u.fileName = "XService.cs" ∧ u.text = f.assemble declarations ∧
      f.comment = .str ("// Generated by discovery_to_code v1.0.0 : " ++ line) ∧
      f.usings = defaultUsings.map .str ∧
      f.namespaceName = .str ("Google.Apis.X.v" ++ version) := by
  -- the name does not depend on the command line, so it is found for an empty one
  have hempty : (generate overwriting "" (twin version)).toOption.map
      (fun g => g.units.map SourceUnit.fileName) = some ["XService.cs"] := by
    rcases hversion with rfl | rfl <;> decide +kernel
  have hservice : Session.passes (fun s _ => s.name == "x" && s.version == version)
      (Document.read (twin version) (Workbench.start (twin version)).ledger) = true := by
    rcases hversion with rfl | rfl <;> decide +kernel
  cases hgenerate : generate overwriting "" (twin version) with
  | error e =>
    rw [hgenerate] at hempty
    cases hempty
  | ok g₀ =>
    rw [hgenerate] at hempty
    have hnames := (names_eq_of_generate h hgenerate).1.trans (Option.some.inj hempty)
    obtain ⟨u, hunits, hname⟩ := List.map_eq_singleton_iff.1 hnames
    have hu : u ∈ g.units := by
      rw [hunits]
      exact List.mem_cons_self
    obtain ⟨c, l, f, declarations, hread, hconfig, hframe, htext⟩ := exists_frame_of_generate h hu
    rw [hread] at hservice
    obtain ⟨hserviceName, hserviceVersion⟩ := Bool.and_eq_true_iff.1 hservice
    obtain ⟨hnamespace, husings, hcomment⟩ := Context.unitFrame_eq_ok hframe
    refine ⟨u, f, declarations, hunits, hname, htext, ?_, ?_, ?_⟩
    · rw [hcomment, Context.generationComment, hconfig]
      rfl
    · rw [Context.usings, hconfig] at husings
      exact (Except.ok.inj husings).symm
    · rw [Context.namespaceName, hconfig, eq_of_beq hserviceName, eq_of_beq hserviceVersion]
        at hnamespace
      refine (Except.ok.inj (hnamespace.symm.trans ?_))
      rcases hversion with rfl | rfl <;> rfl

theorem exitCode_twins :
    (run (Path.ofString "/w") (twinCommand ["a.json", "b.json"]) twins).1.exitCode = 0 := by
  decide +kernel

/-- The condition at two services of one name. -/
theorem units_stored_iff_twins :
    asksForHelp (twinCommand ["a.json", "b.json"]) = false ∧
    (run (Path.ofString "/w") (twinCommand ["a.json", "b.json"]) twins).1.exitCode = 0 ∧
    ∃ job, Starts (Path.ofString "/w") (twinCommand ["a.json", "b.json"]) twins job ∧
      (job.OnDisk (run (Path.ofString "/w") (twinCommand ["a.json", "b.json"]) twins).2 ↔
        job.Agrees) ∧
      (¬job.Overwrites → (∀ u ∈ job.units, ".." ∉ (Path.ofString u.fileName).parts) →
        job.OnDisk (run (Path.ofString "/w") (twinCommand ["a.json", "b.json"]) twins).2) :=
  ⟨rfl, exitCode_twins, units_stored_iff rfl exitCode_twins⟩

/-- **The second document writes over what was written for the first**, and the run ends with
exit code 0. -/
theorem not_stored_twins :
    (run (Path.ofString "/w") (twinCommand ["a.json", "b.json"]) twins).1.exitCode = 0 ∧
    ∃ job, Starts (Path.ofString "/w") (twinCommand ["a.json", "b.json"]) twins job ∧
      ¬job.OnDisk (run (Path.ofString "/w") (twinCommand ["a.json", "b.json"]) twins).2 := by
  obtain ⟨job, hstarts, hwritten⟩ := written_of_exitCode rfl exitCode_twins
  refine ⟨exitCode_twins, job, hstarts, fun hdisk => ?_⟩
  have hsame := hwritten.forall_text?_iff.1 hdisk
  have harguments : job.arguments =
      twinArguments [⟨true, ["w", "a.json"]⟩, ⟨true, ["w", "b.json"]⟩] :=
    hstarts.arguments_eq rfl rfl
  have hconfig := hstarts.config
  have hdocuments : job.documents = [twin "1", twin "2"] := hstarts.documents_eq (by
    rw [harguments]
    exact .cons holds_twins.1 (.cons holds_twins.2 .nil))
  have hresults := generateAll_eq_ok hstarts.results
  rw [harguments] at hconfig
  rw [eq_overwriting rfl hconfig, hdocuments] at hresults
  obtain ⟨g, _, hg, hresults, hlist⟩ := Outcome.mapM_cons_eq_ok.1 hresults
  obtain ⟨g', _, hg', hnil, rfl⟩ := Outcome.mapM_cons_eq_ok.1 hresults
  cases hnil
  obtain ⟨u, f, declarations, hu, hname, htext, hcomment, husings, hnamespace⟩ :=
    exists_unit_of_twin (.inl rfl) hg
  obtain ⟨u', f', declarations', hu', hname', htext', hcomment', husings', hnamespace'⟩ :=
    exists_unit_of_twin (.inr rfl) hg'
  have hunits : job.units = [u, u'] := by
    rw [Job.units, hlist, List.flatMap_cons, List.flatMap_cons, hu, hu']
    rfl
  have hplace : u.place job.arguments.output = u'.place job.arguments.output := by
    rw [SourceUnit.place, SourceUnit.place, SourceUnit.path, SourceUnit.path, hname, hname']
  -- with the same text the two units would be in the same namespace
  have heq := hsame u (by simp [hunits]) u' (by simp [hunits]) hplace
  rw [htext, htext'] at heq
  have hnames := UnitFrame.namespaceName_eq heq (hcomment.trans hcomment'.symm)
    (husings.trans husings'.symm)
  rw [hnamespace, hnamespace'] at hnames
  exact absurd (hnames (by decide) (by decide) (by decide) (by decide)) (by decide)

end

end ClientGen.CommandLine
