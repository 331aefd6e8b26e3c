import ClientGen.CommandLine.Run

/-!
# The command

The outermost layer: it takes a picture of the files that the arguments name, runs the
command on it, writes the files that the run has changed, and prints what there is to tell.
All decisions are made by `ClientGen.CommandLine.run`.
-/

namespace ClientGen.Main

open CommandLine

/-- How the command is used. -/
def usageText : String :=
  "Usage: discovery_to_code [OPTIONS] PATHS... OUTPUT\n\n"
    ++ "  Generate C# client code from discovery documents PATHS into OUTPUT.\n\n"
    ++ "Options:\n"
    ++ "  -c, --config FILE      JSON configuration file\n"
    ++ "  -n, --namespace TEXT   Namespace of the generated code\n"
    ++ "  --one-file-per-type    Write one file per top-level type\n"
    ++ "  --force                Overwrite existing output files\n"
    ++ "  -j, --jobs INTEGER     Number of services generated in parallel\n"
    ++ "  --debug                Enable debug logging\n"
    ++ "  --help                 Show this message and exit.\n"

/-- The texts of an argument that may be paths: the argument, what follows an equals sign,
and what follows the letter of an option. -/
def candidates (arg : String) : List String :=
  let cs := arg.toList
  let parts := [(cs.dropWhile (· != '=')).drop 1, cs.drop 2]
  arg :: (parts.filter (!·.isEmpty)).map String.ofList

/-- A file tree with a file added. -/
def withFile (tree : FileTree) (p : Path) (text : String) : FileTree :=
  let tree := (tree.makeDirs p.parent).1
  match tree.writeFile p text with
  | .ok tree' => tree'
  | .error _ => tree

/-- Add to a file tree what a path names: a file with its text, or a directory with the
names in it. -/
def addNamed (dir : Path) (tree : FileTree) (arg : String) : IO FileTree := do
  let real := (← IO.currentDir) / arg
  let p := Path.resolve dir (Path.ofString arg)
  if !(← real.pathExists) then return tree
  else if ← real.isDir then
    let mut found := (tree.makeDirs p).1
    for entry in ← real.readDir do
      let child := p.join (Path.ofString entry.fileName)
      if ← entry.path.isDir then
        found := (found.makeDirs child).1
      else if (found.text? child).isNone then
        found := withFile found child ""
    return found
  else return withFile tree p (← IO.FS.readFile real)

/-- Write what a run has changed. A file is written under another name first and then
renamed. -/
def commit (before after : FileTree) : IO Unit := do
  for (place, entry) in after.entries do
    if before.find? place != some entry then
      let p : Path := ⟨true, place⟩
      match entry with
      | .directory => IO.FS.createDirAll p.text
      | .file text =>
        IO.FS.createDirAll p.parent.text
        let temporary := (p.parent.join (Path.ofString (Writing.temporaryName p.name 0))).text
        IO.FS.writeFile temporary text
        IO.FS.rename temporary p.text

/-- What is said about a run that ended at once. -/
def describe : RunFailure → String
  | .usage => usageText
  | .message text => "Error: " ++ text ++ "\n"
  | .notJson => "Error: the configuration is not valid JSON\n"
  | .tooManyDigits n => "Error: " ++ Number.tooManyDigitsText n ++ "\n"
  | .failure (.issue i) => "Error: " ++ i.text ++ "\n"
  | .failure (.fault f) =>
    "Error: " ++ f.message?.getD "a value does not have the expected shape" ++ "\n"
  | .file (.alreadyThere path) => "Error: " ++ path ++ " is already there\n"
  | .file _ => "Error: a file cannot be read or written\n"
  | .table _ => "Error: the table of errors cannot be shown\n"

/-- Print what a run has to tell. -/
def tell (debug : Bool) (result : RunResult) : IO Unit := do
  for line in result.log do
    if debug || line.level != .debug then IO.eprintln (line.level.word ++ " " ++ line.text)
  match result.failure with
  | some failure => IO.eprint (describe failure)
  | none => pure ()
  for row in result.rows do
    IO.eprintln (" | ".intercalate (row.cells.map Json.text))

end ClientGen.Main

/-- Run the command with the arguments of the process. -/
def main (args : List String) : IO UInt32 := do
  let dir := ClientGen.Path.ofString (← IO.currentDir).toString
  let start := ((ClientGen.FileTree.mk []).makeDirs dir).1
  let before ← (args.flatMap ClientGen.Main.candidates).foldlM (ClientGen.Main.addNamed dir) start
  let (result, after) := ClientGen.CommandLine.run dir args before
  if result.exitCode = 0 && args.contains "--help" then
    IO.print ClientGen.Main.usageText
  ClientGen.Main.commit before after
  ClientGen.Main.tell (args.contains "--debug") result
  return result.exitCode.toUInt32
