import ClientGen.Json.Access
import ClientGen.Output.FileTree

/-!
# The command line as a text

The command line that generated code is said to come from: the name of the program, the
positional arguments and then the options. What has its default, or counts as absent, is
left out, and a path is shown by its last part, so that the text does not depend on where
the files are.
-/

namespace ClientGen.CommandLine

/-- The name of the program. -/
def programName : String := "discovery_to_code"

/-- How a parameter of the command is shown. -/
inductive Display
  /-- By its value alone. -/
  | argument : Display
  /-- By the name of the option and its value; not at all when it has its default. -/
  | option (name : String) (default : Json) : Display
  /-- By the name of the option alone; not at all when it has its default. -/
  | flag (name : String) (default : Json) : Display

/-- The parameters of the command, in order. -/
def parameters : List (String × Display) :=
  [("config", .option "--config" .null), ("namespace", .option "--namespace" .null),
   ("one_file_per_type", .flag "--one-file-per-type" (.bool false)),
   ("force", .flag "--force" (.bool false)), ("jobs", .option "--jobs" (.int 1)),
   ("debug", .flag "--debug" (.bool false)), ("paths", .argument), ("output", .argument)]

/-- A value as it is shown: the last part of a path where there is something, the text of
anything else. -/
def showValue (tree : FileTree) (dir : Path) : Json → Except FileFault String
  | .str s => do
    let p := Path.ofString s
    return if ← tree.exists? dir p then p.name else s
  | v => .ok v.text

/-- The parts of a value: the elements of a list, or the value itself. -/
def valuesOf : Json → List Json
  | .list xs => xs
  | v => [v]

/-- The words for one parameter: those among the arguments, and those among the options. -/
def wordsFor (tree : FileTree) (dir : Path) (d : Display) (value : Json) :
    Except FileFault (List String × List String) := do
  if !value.truthy then return ([], [])
  else
    let shown ← (valuesOf value).mapM (showValue tree dir)
    match d with
    | .argument => return (shown, [])
    | .option name default =>
      if value.sameKey default then return ([], [])
      else return ([], shown.flatMap fun v => [name, v])
    | .flag name default => return ([], if value.sameKey default then [] else [name])

/-- **The text of a command line** with the given values of its parameters. -/
def display (tree : FileTree) (dir : Path) (values : Fields) : Except FileFault String := do
  let words ← parameters.mapM fun p =>
    match Fields.find? values p.1 with
    | none => .ok ([], [])
    | some value => wordsFor tree dir p.2 value
  return " ".intercalate
    (programName :: words.flatMap Prod.fst ++ words.flatMap Prod.snd)

end ClientGen.CommandLine
