import ClientGen.Config
import ClientGen.Output.Check
import ClientGen.Output.FileTree

/-!
# Writing source files

A source file is written directly, or **atomically**: under another name in the same
directory first, and under its own name by renaming when everything went well. A text may be
checked before its file appears. A file that is already there is refused or written over,
as the output mode says.
-/

namespace ClientGen

/-- Why a source file is not written. -/
inductive WriteFailure
  /-- The text fails the check. -/
  | issue (i : Issue) : WriteFailure
  /-- The file is already there and is not written over. -/
  | alreadyWritten (path : String) : WriteFailure
  /-- The operating system refuses. -/
  | file (f : FileFault) : WriteFailure
  /-- The output settings are none. -/
  | fault (f : Fault) : WriteFailure

/-- The wording of the refusal to write over a file. -/
def alreadyWrittenText (path : String) : String :=
  "Output file already exists: " ++ path ++ ". Use force mode to overwrite."

/-- A computation on the file tree. -/
abbrev Writing : Type → Type := EStateM WriteFailure FileTree

namespace Writing

/-- An operation on the file tree that changes nothing when it fails. -/
def change (f : FileTree → Except FileFault FileTree) : Writing Unit := fun t =>
  match f t with
  | .ok t' => .ok () t'
  | .error e => .error (.file e) t

/-- Make a directory and those on the way to it. -/
def makeDirs (p : Path) : Writing Unit := fun t =>
  match t.makeDirs p with
  | (t', none) => .ok () t'
  | (t', some e) => .error (.file e) t'

/-- Check a text. -/
def check (content : String) (requireNamespace : Bool) : Writing Unit := fun t =>
  match Output.check content requireNamespace with
  | .ok () => .ok () t
  | .error i => .error (.issue i) t

/-- The name of a temporary file for a file: the name, a number of eight digits, and an
ending that no source file has. -/
def temporaryName (name : String) (n : Nat) : String :=
  let digits := Nat.toDigits 10 n
  "." ++ name ++ "." ++ String.ofList (List.replicate (8 - digits.length) '0' ++ digits) ++ ".tmp"

/-- Make an empty temporary file beside a path, under a name that is free, and give its
place. The parts `..` of the path are followed before the operating system sees it. -/
def makeTemporary (p : Path) : Writing (List String) := fun t =>
  match t.locate .root ⟨true, Path.collapse p.parent.parts ++ [temporaryName p.name 0]⟩ with
  | .error e => .error (.file e) t
  | .ok first =>
    let place (n : Nat) := first.dropLast ++ [temporaryName p.name n]
    let free := (List.range (t.entries.length + 1)).find? fun n => (t.find? (place n)).isNone
    let chosen := place (free.getD 0)
    .ok chosen (t.put chosen (.file ""))

/-- Fill a temporary file, check its text, and rename it to a path. -/
def fillAndRename (temporary : List String) (p : Path) (content : String) (validate : Bool)
    (requireNamespace : Bool) : Writing Unit := do
  modify fun t => t.put temporary (.file content)
  if validate then check content requireNamespace
  change fun t => t.renameFile temporary p

/-- **Write a file atomically.** When a step fails the temporary file is removed. -/
def writeAtomically (p : Path) (content : String) (validate requireNamespace : Bool) :
    Writing Unit := do
  makeDirs p.parent
  let temporary ← makeTemporary p
  tryCatch (fillAndRename temporary p content validate requireNamespace) fun e => do
    modify fun t => t.erase temporary
    throw e

/-- Write a file directly. -/
def writeDirectly (p : Path) (content : String) (validate requireNamespace : Bool) :
    Writing Unit := do
  if validate then check content requireNamespace
  makeDirs p.parent
  change fun t => t.writeFile p content

/-- Refuse a path where there is something already. -/
def refuseExisting (p : Path) : Writing Unit := fun t =>
  match t.exists? .root p with
  | .ok true => .error (.alreadyWritten p.text) t
  | .ok false => .ok () t
  | .error e => .error (.file e) t

/-- **Write a source file** into a directory as the output settings say, and give its
path. -/
def writeUnit (output : OutputConfig) (requireNamespace : Bool) (dir : Path)
    (fileName content : String) : Writing Path := do
  let p := dir.join (Path.ofString fileName)
  match output.mode with
  | .keep => refuseExisting p
  | _ => pure ()
  if output.atomic.truthy then
    writeAtomically p content output.validate.truthy requireNamespace
  else
    writeDirectly p content output.validate.truthy requireNamespace
  return p

end Writing

end ClientGen
