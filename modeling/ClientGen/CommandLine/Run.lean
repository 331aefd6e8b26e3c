import ClientGen.CommandLine.Arguments
import ClientGen.CommandLine.Display
import ClientGen.Generation
import ClientGen.Json.Reader
import ClientGen.Output.Writer
import ClientGen.Terminal.Table

/-!
# Running the command

A run reads the configuration and the documents, generates the services, and writes their
units into the output directory. It works on a file tree, and it gives its exit code, the
rows of a table of errors, and what it logged.

Units that cannot be written, because a file is in the way or because a text fails the
check, become rows of the table, like the issues of the documents; a run with rows ends
with exit code 1. Everything else that goes wrong ends the run at once. The table is shown
last, and its cells may turn out to be no markup.
-/

namespace ClientGen.CommandLine

/-- Why a run ends at once. -/
inductive RunFailure
  /-- The arguments are wrong. -/
  | usage : RunFailure
  /-- A message for the user. -/
  | message (text : String) : RunFailure
  /-- The configuration is not JSON. -/
  | notJson : RunFailure
  /-- An integer in a file has too many digits. -/
  | tooManyDigits (count : Nat) : RunFailure
  /-- An issue or a fault that nothing recorded. -/
  | failure (f : Failure) : RunFailure
  /-- The operating system refuses. -/
  | file (f : FileFault) : RunFailure
  /-- The table of errors cannot be shown. -/
  | table (f : Terminal.MarkupFault) : RunFailure

/-- A row of the table of errors. -/
structure ErrorRow where
  /-- The service, or the name of its file. -/
  service : String
  /-- The kind of error. -/
  kind : String
  /-- Where: a location in the document, or a file name. -/
  place : Json
  /-- What is wrong. -/
  message : String

/-- The cells of a row. -/
def ErrorRow.cells (row : ErrorRow) : List Json :=
  [row.service, row.kind, row.place, row.message]

/-- The columns of the table of errors. -/
def errorColumns : List Terminal.Column :=
  [⟨"Service", false⟩, ⟨"Error", false⟩, ⟨"Location", true⟩, ⟨"Message", true⟩]

/-- What a run changes: the files, the log and the rows. -/
structure RunState where
  /-- The files. -/
  tree : FileTree
  /-- The log. -/
  log : List LogLine := []
  /-- The rows of the table of errors. -/
  rows : List ErrorRow := []

/-- A part of a run. -/
abbrev Run : Type → Type := EStateM RunFailure RunState

namespace Run

/-- Log a line. -/
def write (level : LogLevel) (text : String) : Run Unit :=
  modify fun s => { s with log := s.log ++ [⟨level, text⟩] }

/-- Add a row to the table of errors. -/
def addRow (row : ErrorRow) : Run Unit :=
  modify fun s => { s with rows := s.rows ++ [row] }

/-- A result or a failure as a part of a run. -/
def ofOutcome {α : Type} : Outcome α → Run α
  | .ok a => pure a
  | .error e => throw (.failure e)

/-- A result or the refusal of the operating system as a part of a run. -/
def ofFiles {α : Type} : Except FileFault α → Run α
  | .ok a => pure a
  | .error e => throw (.file e)

/-- The text of a file. -/
def readFile (p : Path) : Run String := do
  match (← get).tree.text? p with
  | some text => pure text
  | none => throw (.file .notFound)

/-! ### Configuration and documents -/

/-- The configuration of a file. -/
def readConfig : Option Path → Run Config
  | none => pure {}
  | some p => do
    match Json.read (← readFile p) Json.maxNesting with
    | .ok value => ofOutcome (Config.ofJson value)
    | .error .grammar => throw .notJson
    | .error (.tooManyDigits n) => throw (.tooManyDigits n)
    | .error .tooDeep => throw (.failure (.fault .endlessNesting))

/-- The configuration of a run: that of the file, overridden by the options. -/
def configFor (args : Arguments) : Run Config := do
  let config ← readConfig args.config
  let config := match args.namespaceName with
    | some name => if name.isEmpty then config else { config with configuredNamespace := .str name }
    | none => config
  let config :=
    if args.oneFilePerType then { config with oneFilePerType := .bool true } else config
  if args.force then
    let output ← ofOutcome (Outcome.required config.output)
    return { config with output := some (← ofOutcome output.forced) }
  else return config

/-- A decorator that there is not is a message for the user. -/
def checkDecorators (config : Config) : Run Unit :=
  match Pipeline.ofConfig config with
  | .ok _ => pure ()
  | .error (.fault (.unknownDecorator kind name available)) =>
    throw (.message (((Fault.unknownDecorator kind name available).message?).getD ""))
  | .error e => throw (.failure e)

/-- The document of a file. A file that is not JSON is a message for the user. -/
def readDocument (p : Path) : Run Json := do
  match Json.read (← readFile p) Json.maxNesting with
  | .ok value => pure value
  | .error .grammar => throw (.message (p.name ++ " is not valid JSON"))
  | .error (.tooManyDigits n) => throw (.tooManyDigits n)
  | .error .tooDeep => throw (.failure (.fault .endlessNesting))

/-- The values of the parameters of the command. -/
def parameterValues (args : Arguments) : Fields :=
  [("config", (args.config.map fun p => .str p.text).getD .null),
   ("namespace", (args.namespaceName.map .str).getD .null),
   ("one_file_per_type", .bool args.oneFilePerType), ("force", .bool args.force),
   ("jobs", .int args.jobs), ("debug", .bool args.debug),
   ("paths", .list (args.paths.map fun p => .str p.text)), ("output", .str args.output.text)]

/-! ### Writing -/

/-- Record that a unit is not written. -/
def refuse (service fileName kind message : String) : Run Unit := do
  write .error ("[" ++ service ++ "] " ++ fileName ++ ": " ++ message)
  addRow ⟨service, kind, fileName, message⟩

/-- The wording of a file that is in the way, as the operating system puts it. -/
def alreadyThereText (path : String) : String :=
  "[Errno 17] File exists: " ++ Text.quoted path

/-- Write one unit. Gives whether it was written; a file in the way and a text that fails the
check become rows. -/
def writeOne (setting : OutputSetting) (dir : Path) (service : String) (unit : SourceUnit) :
    Run Bool := do
  let output ← ofOutcome setting.forWriting
  let s ← get
  match Writing.writeUnit output true dir unit.fileName unit.text s.tree with
  | .ok p tree =>
    set { s with tree }
    write .debug ("Wrote " ++ p.text)
    return true
  | .error e tree =>
    set { s with tree }
    match e with
    | .issue i =>
      refuse service unit.fileName i.kind.label i.text
      return false
    | .alreadyWritten path =>
      refuse service unit.fileName "FileExistsError" (alreadyWrittenText path)
      return false
    | .file (.alreadyThere path) =>
      refuse service unit.fileName "FileExistsError" (alreadyThereText path)
      return false
    | .file f => throw (.file f)
    | .fault f => throw (.failure (.fault f))

/-- Write units in order, and give the number of those written. -/
def writeUnits (setting : OutputSetting) (dir : Path) (service : String) :
    List SourceUnit → Run Nat
  | [] => pure 0
  | unit :: rest => do
    let written ← writeOne setting dir service unit
    let later ← writeUnits setting dir service rest
    return (if written then 1 else 0) + later

/-- Write what was generated for one document, and report its issues. -/
def writeService (setting : OutputSetting) (dir path : Path) (g : Generated) : Run Unit := do
  let service := if g.ledger.serviceName.isEmpty then path.name else g.ledger.serviceName
  let written ← writeUnits setting dir service g.units
  g.ledger.issues.forM fun i => addRow ⟨service, i.kind.label, i.location, i.message⟩
  write .info (service ++ ": wrote " ++ toString written ++ " file(s) to " ++ dir.text)

/-- **A run with its arguments**, in a current directory. -/
def perform (dir : Path) (args : Arguments) : Run Unit := do
  let config ← configFor args
  checkDecorators config
  let documents ← args.paths.mapM readDocument
  let commandLine ← ofFiles (display (← get).tree dir (parameterValues args))
  let results ← ofOutcome (generateAll config commandLine (.int args.jobs) documents)
  results.forM fun g => modify fun s => { s with log := s.log ++ g.ledger.log }
  let setting ← ofOutcome (Outcome.required config.output)
  (args.paths.zip results).forM fun r => writeService setting args.output r.1 r.2

end Run

/-- How a run ends. -/
structure RunResult where
  /-- The exit code. -/
  exitCode : Nat
  /-- Why it ended at once, if it did. -/
  failure : Option RunFailure := none
  /-- The rows of the table of errors that is shown. -/
  rows : List ErrorRow := []
  /-- The log. -/
  log : List LogLine := []

/-- **Run the command** with arguments in a current directory of a file tree. Gives also the
file tree that the run leaves. -/
def run (dir : Path) (args : List String) (tree : FileTree) : RunResult × FileTree :=
  match RawArguments.read args with
  | .error e => (refused e, tree)
  | .ok raw =>
    if raw.has .help then ({ exitCode := 0 }, tree)
    else match Arguments.ofRaw tree dir raw with
      | .error e => (refused e, tree)
      | .ok arguments =>
        match Run.perform dir arguments { tree } with
        | .ok _ s => (shown s.rows s.log, s.tree)
        | .error e s => ({ exitCode := 1, failure := some e, log := s.log }, s.tree)
where
  /-- The end of a run with arguments that are refused. -/
  refused : ArgumentError → RunResult
    | .usage => { exitCode := 2, failure := some .usage }
    | .nullCharacter => { exitCode := 1, failure := some (.file .nullCharacter) }
  /-- The end of a run that shows its table of errors, if it has rows. -/
  shown (rows : List ErrorRow) (log : List LogLine) : RunResult :=
    if rows.isEmpty then { exitCode := 0, log }
    else match Terminal.checkTable errorColumns (rows.map ErrorRow.cells) with
      | .ok () => { exitCode := 1, rows, log }
      | .error f => { exitCode := 1, failure := some (.table f), rows, log }

end ClientGen.CommandLine
