import ClientGen.CommandLine.Run
import ClientGen.Proofs.Session

/-!
# What a run is to write

A run first finds out what it is to write and then writes it. Until it writes it changes no
file, so a run either leaves the tree alone, or it has a **job**
(`ClientGen.CommandLine.run_cases`): its arguments, its configuration, its documents, the
command line that it shows, and what was generated. Which job a run has is
`ClientGen.CommandLine.Starts`.
-/

namespace ClientGen.CommandLine

namespace Run

variable {α β : Type} {x : Run α} {f : α → Run β} {s s' : RunState}

/-! ### Parts of a run that only read -/

theorem ofOutcome_eq_ok_iff {o : Outcome α} {a : α} :
    ofOutcome o s = .ok a s' ↔ o = .ok a ∧ s' = s := by
  cases o <;> simp [ofOutcome, eq_comm (a := s')]

theorem ofFiles_eq_ok_iff {o : Except FileFault α} {a : α} :
    ofFiles o s = .ok a s' ↔ o = .ok a ∧ s' = s := by
  cases o <;> simp [ofFiles, eq_comm (a := s')]

/-- A part of a run that changes nothing, whether it fails or not. -/
def ReadsOnly (x : Run α) : Prop :=
  ∀ s, (∃ a, x s = .ok a s) ∨ ∃ e, x s = .error e s

namespace ReadsOnly

theorem pure (a : α) : ReadsOnly (pure a) :=
  fun _ => .inl ⟨a, rfl⟩

theorem throw (e : RunFailure) : ReadsOnly (throw e : Run α) :=
  fun _ => .inr ⟨e, rfl⟩

/-- What is left after a part that only reads: its failure, or what follows its value. -/
theorem bind_cases {P : EStateM.Result RunFailure RunState β → Prop} (hx : ReadsOnly x)
    (herror : ∀ e, P (.error e s)) (hok : ∀ a, x s = .ok a s → P (f a s)) : P ((x >>= f) s) := by
  rcases hx s with ⟨a, ha⟩ | ⟨e, he⟩
  · rw [Session.bind_run_of_ok ha]
    exact hok a ha
  · rw [Session.bind_run_of_error he]
    exact herror e

theorem bind (hx : ReadsOnly x) (hf : ∀ a, ReadsOnly (f a)) : ReadsOnly (x >>= f) := by
  intro s
  refine bind_cases (P := fun r => (∃ b, r = .ok b s) ∨ ∃ e, r = .error e s) hx
    (fun e => .inr ⟨e, rfl⟩) fun a _ => hf a s

theorem mapM {f : α → Run β} (hf : ∀ a, ReadsOnly (f a)) (as : List α) :
    ReadsOnly (as.mapM f) := by
  induction as with
  | nil =>
    rw [List.mapM_nil]
    exact .pure []
  | cons a as ih =>
    rw [List.mapM_cons]
    exact (hf a).bind fun b => ih.bind fun bs => .pure (b :: bs)

theorem ofOutcome (o : Outcome α) : ReadsOnly (ofOutcome o) := by
  cases o with
  | ok a => exact .pure a
  | error e => exact .throw (.failure e)

theorem ofFiles (o : Except FileFault α) : ReadsOnly (ofFiles o) := by
  cases o with
  | ok a => exact .pure a
  | error e => exact .throw (.file e)

end ReadsOnly

/-- What a part of a run gives on a tree. -/
def valueOn (x : Run α) (tree : FileTree) : Except RunFailure α :=
  match x { tree } with
  | .ok a _ => .ok a
  | .error e _ => .error e

theorem valueOn_of_ok {tree : FileTree} {a : α} (h : x { tree } = .ok a s) :
    x.valueOn tree = .ok a := by
  rw [valueOn, h]

theorem ReadsOnly.valueOn_bind {tree : FileTree} (hx : ReadsOnly x) (f : α → Run β) :
    (x >>= f).valueOn tree = x.valueOn tree >>= fun a => (f a).valueOn tree := by
  rw [valueOn, valueOn]
  rcases hx { tree } with ⟨a, ha⟩ | ⟨e, he⟩
  · rw [Session.bind_run_of_ok ha, ha]
    rfl
  · rw [Session.bind_run_of_error he, he]
    rfl

theorem valueOn_mapM {tree : FileTree} {f : α → Run β} (hf : ∀ a, ReadsOnly (f a))
    (as : List α) : valueOn (as.mapM f) tree = as.mapM fun a => (f a).valueOn tree := by
  induction as with
  | nil => rfl
  | cons a as ih =>
    rw [List.mapM_cons, List.mapM_cons, (hf a).valueOn_bind]
    refine bind_congr fun b => ?_
    rw [(ReadsOnly.mapM hf as).valueOn_bind, ih]
    rfl

theorem readsOnly_readFile (p : Path) : ReadsOnly (readFile p) := by
  refine .bind (fun s => .inl ⟨s, rfl⟩) fun s => ?_
  cases s.tree.text? p with
  | some text => exact .pure text
  | none => exact .throw _

theorem readsOnly_readConfig (p : Option Path) : ReadsOnly (readConfig p) := by
  cases p with
  | none => exact .pure _
  | some p =>
    refine (readsOnly_readFile p).bind fun text => ?_
    split
    · exact .ofOutcome _
    all_goals exact .throw _

theorem readsOnly_configFor (args : Arguments) : ReadsOnly (configFor args) := by
  refine (readsOnly_readConfig args.config).bind fun config => ?_
  dsimp only
  split
  · exact .bind (.ofOutcome _) fun output => .bind (.ofOutcome _) fun _ => .pure _
  · exact .pure _

theorem readsOnly_checkDecorators (config : Config) : ReadsOnly (checkDecorators config) := by
  rw [checkDecorators]
  split
  · exact .pure ()
  all_goals exact .throw _

theorem readsOnly_readDocument (p : Path) : ReadsOnly (readDocument p) := by
  refine (readsOnly_readFile p).bind fun text => ?_
  split
  · exact .pure _
  all_goals exact .throw _

end Run

/-! ### Files that hold values -/

/-- A file holds a JSON value. -/
def Holds (tree : FileTree) (p : Path) (v : Json) : Prop :=
  ∃ text, tree.text? p = some text ∧ Json.read text Json.maxNesting = .ok v

theorem Holds.eq {tree : FileTree} {p : Path} {v v' : Json} (h : Holds tree p v)
    (h' : Holds tree p v') : v = v' := by
  obtain ⟨text, htext, hread⟩ := h
  obtain ⟨text', htext', hread'⟩ := h'
  cases htext.symm.trans htext'
  exact Except.ok.inj (hread.symm.trans hread')

namespace Run

variable {tree : FileTree}

theorem valueOn_ofOutcome {α : Type} {o : Outcome α} {a : α} :
    (ofOutcome o).valueOn tree = .ok a ↔ o = .ok a := by
  cases o with
  | ok b => simp [ofOutcome, valueOn]
  | error e => simp [ofOutcome, valueOn]

theorem valueOn_ofOutcome_congr {α : Type} (o : Outcome α) (tree tree' : FileTree) :
    (ofOutcome o).valueOn tree = (ofOutcome o).valueOn tree' := by
  cases o <;> rfl

theorem valueOn_readFile {p : Path} {text : String} :
    (readFile p).valueOn tree = .ok text ↔ tree.text? p = some text := by
  have hget : (get : Run RunState) { tree } = .ok { tree } { tree } := rfl
  rw [valueOn, readFile, Session.bind_run_of_ok hget]
  cases tree.text? p with
  | some found => simp
  | none => simp

theorem holds_of_readDocument {p : Path} {v : Json}
    (h : (readDocument p).valueOn tree = .ok v) : Holds tree p v := by
  rw [readDocument, (readsOnly_readFile p).valueOn_bind] at h
  obtain ⟨text, htext, h⟩ := Outcome.bind_eq_ok.1 h
  refine ⟨text, valueOn_readFile.1 htext, ?_⟩
  split at h
  · rename_i hread
    rw [hread]
    exact congrArg Except.ok (Except.ok.inj h)
  all_goals cases h

theorem holds_of_readConfig {p : Path} {config : Config}
    (h : (readConfig (some p)).valueOn tree = .ok config) :
    ∃ v, Holds tree p v ∧ Config.ofJson v = .ok config := by
  rw [readConfig, (readsOnly_readFile p).valueOn_bind] at h
  obtain ⟨text, htext, h⟩ := Outcome.bind_eq_ok.1 h
  split at h
  · rename_i v hread
    exact ⟨v, ⟨text, valueOn_readFile.1 htext, hread⟩, valueOn_ofOutcome.1 h⟩
  all_goals cases h

end Run

/-! ### Arguments -/

namespace Arguments

variable {tree : FileTree} {dir : Path}

theorem absolutePath_eq_ok {arg : String} {p : Path} (h : absolutePath dir arg = .ok p) :
    p = Path.resolve dir (Path.ofString arg) := by
  rw [absolutePath] at h
  split at h
  · cases h
  · cases h
    rfl

theorem of_filePath {arg : String} {p : Path} (h : filePath tree dir arg = .ok p) :
    p = Path.resolve dir (Path.ofString arg) ∧
      ∃ text, tree.entryAt .root p = .ok (.file text) := by
  obtain ⟨q, hq, h⟩ := Outcome.bind_eq_ok.1 h
  split at h
  · rename_i text htext
    cases h
    exact ⟨absolutePath_eq_ok hq, text, htext⟩
  · cases h

theorem of_directoryPath {arg : String} {p : Path} (h : directoryPath tree dir arg = .ok p) :
    p = Path.resolve dir (Path.ofString arg) := by
  obtain ⟨q, hq, h⟩ := Outcome.bind_eq_ok.1 h
  split at h
  · cases h
  · cases h
    exact absolutePath_eq_ok hq

theorem mapM_toList {α β ε : Type} {f : α → Except ε β} {o : Option α} {c : Option β}
    (h : o.mapM f = .ok c) : o.toList.mapM f = .ok c.toList := by
  cases o with
  | none =>
    cases h
    rfl
  | some a =>
    obtain ⟨b, hb, h⟩ := Outcome.bind_eq_ok.1 h
    cases h
    exact Outcome.mapM_cons_eq_ok.2 ⟨b, [], hb, rfl, rfl⟩

/-- **What arguments come from**: their paths are absolute, files have to be there, and the
output directory is no file. -/
theorem of_ofRaw {raw : RawArguments} {args : Arguments}
    (h : ofRaw tree dir raw = .ok args) :
    ∃ last rest, raw.positional.reverse = last :: rest ∧
      (raw.value? .config).toList.mapM (filePath tree dir) = .ok args.config.toList ∧
      rest.reverse.mapM (filePath tree dir) = .ok args.paths ∧
      directoryPath tree dir last = .ok args.output ∧
      readJobs (raw.value? .jobs) = .ok args.jobs ∧
      args.namespaceName = raw.value? .namespaceName ∧
      args.oneFilePerType = raw.has .oneFilePerType ∧ args.force = raw.has .force ∧
      args.debug = raw.has .debug := by
  rw [ofRaw] at h
  obtain ⟨_, -, h⟩ := Outcome.bind_eq_ok.1 h
  obtain ⟨config, hconfig, h⟩ := Outcome.bind_eq_ok.1 h
  obtain ⟨jobs, hjobs, h⟩ := Outcome.bind_eq_ok.1 h
  split at h
  · rename_i last rest hpositional
    dsimp only at h
    split at h
    · cases h
    obtain ⟨paths, hpaths, h⟩ := Outcome.bind_eq_ok.1 h
    obtain ⟨output, houtput, h⟩ := Outcome.bind_eq_ok.1 h
    cases h
    exact ⟨last, rest, hpositional, mapM_toList hconfig, hpaths, houtput, hjobs, rfl, rfl, rfl, rfl⟩
  · cases h

end Arguments

/-! ### Jobs -/

/-- **What a run has found out** before it writes. -/
structure Job where
  /-- The arguments. -/
  arguments : Arguments
  /-- The configuration, overridden by the options. -/
  config : Config
  /-- The documents. -/
  documents : List Json
  /-- The command line that is shown. -/
  commandLine : String
  /-- What was generated for each document. -/
  results : List Generated
  /-- The output setting. -/
  setting : OutputSetting

namespace Job

/-- The units to write, in order. -/
def units (job : Job) : List SourceUnit :=
  job.results.flatMap Generated.units

/-- Write the units and report the issues. -/
def write (job : Job) : Run Unit :=
  (job.arguments.paths.zip job.results).forM fun r =>
    Run.writeService job.setting job.arguments.output r.1 r.2

end Job

/-- A job is what the files of a tree give for its arguments, in a current directory. -/
structure Prepares (dir : Path) (tree : FileTree) (job : Job) : Prop where
  config : (Run.configFor job.arguments).valueOn tree = .ok job.config
  documents : (job.arguments.paths.mapM fun p => (Run.readDocument p).valueOn tree) =
    .ok job.documents
  commandLine : display tree dir (Run.parameterValues job.arguments) = .ok job.commandLine
  results : generateAll job.config job.commandLine (.int job.arguments.jobs) job.documents =
    .ok job.results
  setting : Outcome.required job.config.output = .ok job.setting

/-- **A job is that of a run** with some arguments. -/
structure Starts (dir : Path) (args : List String) (tree : FileTree) (job : Job) : Prop
    extends Prepares dir tree job where
  arguments : ∃ raw, RawArguments.read args = .ok raw ∧ raw.has .help = false ∧
    Arguments.ofRaw tree dir raw = .ok job.arguments

/-- Whether the arguments ask how the command is used. -/
def asksForHelp (args : List String) : Bool :=
  match RawArguments.read args with
  | .ok raw => raw.has .help
  | .error _ => false

/-! ### Runs -/

theorem forM_log (results : List Generated) (s : RunState) :
    (results.forM fun g => modify fun s => { s with log := s.log ++ g.ledger.log } : Run Unit) s =
      .ok () { s with log := s.log ++ results.flatMap (·.ledger.log) } := by
  induction results generalizing s with
  | nil => simp
  | cons g rest ih =>
    rw [List.forM, Session.bind_run_of_ok (Session.modify_run _ s), ih]
    simp

/-- What becomes of a run with its arguments: it fails before it writes, or it writes a job. -/
def FailsOrWrites (dir : Path) (args : Arguments) (tree : FileTree)
    (r : EStateM.Result RunFailure RunState Unit) : Prop :=
  (∃ e s, r = .error e s ∧ s.tree = tree) ∨
    ∃ job log, job.arguments = args ∧ Prepares dir tree job ∧ r = job.write { tree, log }

theorem failsOrWrites_perform (dir : Path) (args : Arguments) (tree : FileTree) :
    FailsOrWrites dir args tree (Run.perform dir args { tree }) := by
  -- up to the first unit, parts that fail leave the tree as it is
  have hfails : ∀ {s : RunState}, s.tree = tree → ∀ e, FailsOrWrites dir args tree (.error e s) :=
    fun hs e => .inl ⟨e, _, rfl, hs⟩
  rw [Run.perform]
  refine (Run.readsOnly_configFor args).bind_cases (hfails rfl) fun config hconfig => ?_
  refine (Run.readsOnly_checkDecorators config).bind_cases (hfails rfl) fun _ _ => ?_
  refine (Run.ReadsOnly.mapM Run.readsOnly_readDocument args.paths).bind_cases (hfails rfl)
    fun documents hdocuments => ?_
  rw [Session.bind_run_of_ok (Session.get_run _)]
  refine (Run.ReadsOnly.ofFiles _).bind_cases (hfails rfl) fun commandLine hcommandLine => ?_
  refine (Run.ReadsOnly.ofOutcome _).bind_cases (hfails rfl) fun results hresults => ?_
  rw [Session.bind_run_of_ok (forM_log results _)]
  refine (Run.ReadsOnly.ofOutcome _).bind_cases (hfails rfl) fun setting hsetting => ?_
  refine .inr ⟨⟨args, config, documents, commandLine, results, setting⟩, _, rfl, ?_, rfl⟩
  have hread := Run.valueOn_of_ok hdocuments
  rw [Run.valueOn_mapM Run.readsOnly_readDocument] at hread
  exact ⟨Run.valueOn_of_ok hconfig, hread, (Run.ofFiles_eq_ok_iff.1 hcommandLine).1,
    (Run.ofOutcome_eq_ok_iff.1 hresults).1, (Run.ofOutcome_eq_ok_iff.1 hsetting).1⟩

/-- How a run ends that has begun to write. -/
def ended : EStateM.Result RunFailure RunState Unit → RunResult × FileTree
  | .ok _ s => (run.shown s.rows s.log, s.tree)
  | .error e s => ({ exitCode := 1, failure := some e, log := s.log }, s.tree)

theorem run_of_arguments {dir : Path} {args : List String} {tree : FileTree}
    {raw : RawArguments} {arguments : Arguments} (hread : RawArguments.read args = .ok raw)
    (hhelp : raw.has .help = false) (hraw : Arguments.ofRaw tree dir raw = .ok arguments) :
    run dir args tree = ended (Run.perform dir arguments { tree }) := by
  rw [run, hread]
  simp only [hhelp, hraw, Bool.false_eq_true, if_false]
  cases Run.perform dir arguments { tree } <;> rfl

/-- **A run leaves the tree alone, or it has a job and writes it.** -/
theorem run_cases (dir : Path) (args : List String) (tree : FileTree) :
    (∃ r, run dir args tree = (r, tree) ∧ (r.exitCode = 0 → asksForHelp args = true)) ∨
      ∃ job log, Starts dir args tree job ∧
        run dir args tree = ended (job.write { tree, log }) := by
  have hrefused : ∀ e, (run.refused e).exitCode ≠ 0 := by
    intro e
    cases e <;> exact nofun
  cases hread : RawArguments.read args with
  | error e =>
    refine .inl ⟨run.refused e, ?_, fun h => absurd h (hrefused e)⟩
    rw [run, hread]
  | ok raw =>
    cases hhelp : raw.has .help with
    | true =>
      refine .inl ⟨{ exitCode := 0 }, ?_, fun _ => ?_⟩
      · rw [run, hread]
        simp only [hhelp, if_true]
      · rw [asksForHelp, hread]
        exact hhelp
    | false =>
      cases hraw : Arguments.ofRaw tree dir raw with
      | error e =>
        refine .inl ⟨run.refused e, ?_, fun h => absurd h (hrefused e)⟩
        rw [run, hread]
        simp only [hhelp, hraw, Bool.false_eq_true, if_false]
      | ok arguments =>
        rw [run_of_arguments hread hhelp hraw]
        rcases failsOrWrites_perform dir arguments tree with
          ⟨e, s, hperform, rfl⟩ | ⟨job, log, rfl, hprepares, hperform⟩
        · rw [hperform]
          exact .inl ⟨_, rfl, nofun⟩
        · rw [hperform]
          exact .inr ⟨job, log, ⟨hprepares, raw, hread, hhelp, hraw⟩, rfl⟩

end ClientGen.CommandLine
