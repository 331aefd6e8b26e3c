import ClientGen.Json.Basic
import ClientGen.Number.Reading
import ClientGen.Output.FileTree

/-!
# Arguments of the command

The command takes options and positional arguments: document files, and last the output
directory. An option that takes a value takes it from the same argument or from the next
one, whatever that looks like; an option that is given twice has its last value. After `--`
everything is positional.

Reading the arguments has two stages. `RawArguments.read` sorts them, and
`Arguments.ofRaw` looks at their values and at the files they name.
-/

namespace ClientGen.CommandLine

/-- The options of the command. -/
inductive Switch
  /-- The configuration file. -/
  | config : Switch
  /-- The namespace of the generated code. -/
  | namespaceName : Switch
  /-- One file for each top-level type. -/
  | oneFilePerType : Switch
  /-- Write over existing files. -/
  | force : Switch
  /-- The number of workers. -/
  | jobs : Switch
  /-- Log more. -/
  | debug : Switch
  /-- Show how the command is used. -/
  | help : Switch
  deriving DecidableEq, Repr

namespace Switch

/-- The options by their long names. -/
def longNames : List (String × Switch) :=
  [("--config", .config), ("--namespace", .namespaceName),
   ("--one-file-per-type", .oneFilePerType), ("--force", .force), ("--jobs", .jobs),
   ("--debug", .debug), ("--help", .help)]

/-- The options by their letters. -/
def letters : List (Char × Switch) :=
  [('c', .config), ('n', .namespaceName), ('j', .jobs)]

/-- Whether an option takes a value. -/
def takesValue : Switch → Bool
  | .config => true
  | .namespaceName => true
  | .jobs => true
  | _ => false

end Switch

/-- Why the arguments are refused. -/
inductive ArgumentError
  /-- They are not as the command wants them. -/
  | usage : ArgumentError
  /-- A path has a null character in it. -/
  | nullCharacter : ArgumentError
  deriving DecidableEq, Repr

/-- The arguments, sorted: options with their values in order (a flag has the empty value),
and positional arguments. -/
structure RawArguments where
  /-- The options given, with their values. -/
  options : List (Switch × String) := []
  /-- The positional arguments. -/
  positional : List String := []

namespace RawArguments

/-- What an argument is. -/
inductive Shape
  /-- The end of the options. -/
  | endOfOptions : Shape
  /-- An option, with the value that is attached to it if there is one. -/
  | option (switch : Switch) (attached : Option String) : Shape
  /-- Something that looks like an option and is none. -/
  | unknown : Shape
  /-- A positional argument. -/
  | positional : Shape

/-- The option that an argument names in full, with the value after an equals sign. -/
def longOption? (arg : List Char) : Option Shape :=
  let name := String.ofList (arg.takeWhile (· != '='))
  let attached := match arg.dropWhile (· != '=') with
    | [] => none
    | _ :: value => some (String.ofList value)
  (Switch.longNames.lookup name).map (Shape.option · attached)

/-- Tell what an argument is. -/
def shapeOf (arg : String) : Shape :=
  match arg.toList with
  | ['-', '-'] => .endOfOptions
  | '-' :: c :: rest =>
    match longOption? ('-' :: c :: rest) with
    | some shape => shape
    | none =>
      if c = '-' then .unknown
      else match Switch.letters.lookup c with
        | some switch => .option switch (if rest.isEmpty then none else some (String.ofList rest))
        | none => .unknown
  | _ => .positional

/-- Add an option with its value. -/
def addOption (r : RawArguments) (switch : Switch) (value : String) : RawArguments :=
  { r with options := r.options ++ [(switch, value)] }

/-- Add positional arguments. -/
def addPositional (r : RawArguments) (args : List String) : RawArguments :=
  { r with positional := r.positional ++ args }

/-- Sort the arguments, after those that are sorted already. -/
def readFrom (r : RawArguments) : List String → Except ArgumentError RawArguments
  | [] => .ok r
  | arg :: rest =>
    match shapeOf arg with
    | .endOfOptions => .ok (r.addPositional rest)
    | .unknown => .error .usage
    | .positional => readFrom (r.addPositional [arg]) rest
    | .option switch attached =>
      if switch.takesValue then
        match attached with
        | some value => readFrom (r.addOption switch value) rest
        | none => match rest with
          | value :: more => readFrom (r.addOption switch value) more
          | [] => .error .usage
      else match attached with
        | some _ => .error .usage
        | none => readFrom (r.addOption switch "") rest

/-- **Sort the arguments.** -/
def read (args : List String) : Except ArgumentError RawArguments :=
  readFrom {} args

/-- The last value of an option, if it is given. -/
def value? (r : RawArguments) (switch : Switch) : Option String :=
  r.options.reverse.lookup switch

/-- The options given, each once, in the order in which they first appear. -/
def switches (r : RawArguments) : List Switch :=
  (r.options.map Prod.fst).eraseDups

/-- Whether an option is given. -/
def has (r : RawArguments) (switch : Switch) : Bool :=
  (r.value? switch).isSome

end RawArguments

/-- **The arguments of the command.** Paths are absolute. -/
structure Arguments where
  /-- The configuration file. -/
  config : Option Path
  /-- The namespace. -/
  namespaceName : Option String
  /-- Whether each top-level type gets a file. -/
  oneFilePerType : Bool
  /-- Whether existing files are written over. -/
  force : Bool
  /-- The number of workers. -/
  jobs : Int
  /-- Whether more is logged. -/
  debug : Bool
  /-- The document files. -/
  paths : List Path
  /-- The output directory. -/
  output : Path

namespace Arguments

/-- The absolute path that an argument stands for. -/
def absolutePath (dir : Path) (arg : String) : Except ArgumentError Path :=
  let p := Path.ofString arg
  if p.hasNull then .error .nullCharacter else .ok (Path.resolve dir p)

/-- The path of a file that has to be there. -/
def filePath (tree : FileTree) (dir : Path) (arg : String) : Except ArgumentError Path := do
  let p ← absolutePath dir arg
  match tree.entryAt .root p with
  | .ok (.file _) => return p
  | _ => throw .usage

/-- The path of a directory, which may be missing. -/
def directoryPath (tree : FileTree) (dir : Path) (arg : String) : Except ArgumentError Path := do
  let p ← absolutePath dir arg
  match tree.entryAt .root p with
  | .ok (.file _) => throw .usage
  | _ => return p

/-- The number of workers. -/
def readJobs : Option String → Except ArgumentError Int
  | none => .ok 1
  | some s => match Number.readInt? s with
    | some n => if n < 1 then .error .usage else .ok n
    | none => .error .usage

/-- The value of an option is as the command wants it. -/
def checkSwitch (tree : FileTree) (dir : Path) (r : RawArguments) (switch : Switch) :
    Except ArgumentError Unit :=
  match switch with
  | .config => do
    let _ ← (r.value? .config).mapM (filePath tree dir)
  | .jobs => do
    let _ ← readJobs (r.value? .jobs)
  | _ => .ok ()

/-- **Look at the values of sorted arguments**, in a current directory. The options are
looked at in the order in which they first appear, then the positional arguments. -/
def ofRaw (tree : FileTree) (dir : Path) (r : RawArguments) :
    Except ArgumentError Arguments := do
  r.switches.forM (checkSwitch tree dir r)
  let config ← (r.value? .config).mapM (filePath tree dir)
  let jobs ← readJobs (r.value? .jobs)
  match r.positional.reverse with
  | last :: rest =>
    if rest.isEmpty then throw .usage
    let paths ← rest.reverse.mapM (filePath tree dir)
    let output ← directoryPath tree dir last
    return {
      config, jobs, paths, output
      namespaceName := r.value? .namespaceName
      oneFilePerType := r.has .oneFilePerType
      force := r.has .force
      debug := r.has .debug }
  | [] => throw .usage

end Arguments

end ClientGen.CommandLine
