import ClientGen.Output.Path
import ClientGen.Text.Quoted

/-!
# File trees

The files and directories that a run sees, as a value: a list of entries by their parts
from the root, which is a directory itself. The operations are those of an operating system
without links and permissions. Each either takes place or fails with a `FileFault` and
changes nothing, except for `makeDirs`, which makes one directory after the other.

A path is handed to the operating system as a text, which is refused as a whole when it is
too long or has a null character in it. A relative path is handed over as it is, so its own
length counts and not that of the directory it starts from. How long names and paths may be
is up to the tree; there are trees that take names of any length.
-/

namespace ClientGen

/-- Why an operation on files fails. -/
inductive FileFault
  /-- There is something of the name already. -/
  | alreadyThere (path : String) : FileFault
  /-- There is nothing of the name. -/
  | notFound : FileFault
  /-- A file stands where a directory is needed. -/
  | notADirectory : FileFault
  /-- A directory stands where a file is needed. -/
  | isADirectory : FileFault
  /-- A name or a path is longer than it can be. -/
  | nameTooLong : FileFault
  /-- A path has a null character in it. -/
  | nullCharacter : FileFault
  /-- A path leads through more missing directories than are made at once. -/
  | tooDeep : FileFault
  /-- A directory on the way to itself would be replaced. -/
  | busy : FileFault
  deriving DecidableEq, Repr

/-- The wording of a fault, for those that are shown with one. -/
def FileFault.message? : FileFault → Option String
  | .nullCharacter => some "embedded null byte"
  | _ => none

/-- What stands at a place of a file tree. -/
inductive FileEntry
  /-- A directory. -/
  | directory : FileEntry
  /-- A file with its text. -/
  | file (text : String) : FileEntry
  deriving DecidableEq, Repr

/-- How long names and paths may be, in bytes. A limit that is missing is none. -/
structure PathLimits where
  /-- The greatest length of a name. -/
  name : Option Nat := some 255
  /-- The greatest length of the text of a path. -/
  path : Option Nat := some 4095
  deriving DecidableEq, Repr

namespace PathLimits

/-- Names and paths of any length are taken. -/
def unlimited : PathLimits :=
  ⟨none, none⟩

/-- Whether a name is too long. -/
def refusesName (limits : PathLimits) (name : String) : Bool :=
  limits.name.any (name.utf8ByteSize > ·)

/-- Whether the text of a path is too long. -/
def refusesPath (limits : PathLimits) (text : String) : Bool :=
  limits.path.any (text.utf8ByteSize > ·)

end PathLimits

/-- A file tree. -/
structure FileTree where
  ofEntries ::
  /-- The entries below the root, by their parts. -/
  entries : List (List String × FileEntry) := []
  /-- How long names and paths may be. -/
  limits : PathLimits := {}

namespace FileTree

/-- The file tree of some entries, with the usual limits. -/
def mk (entries : List (List String × FileEntry)) : FileTree :=
  { entries }

/-- What stands at a place. -/
def find? (t : FileTree) (place : List String) : Option FileEntry :=
  if place.isEmpty then some .directory else t.entries.lookup place

/-- Put something at a place. -/
def put (t : FileTree) (place : List String) (e : FileEntry) : FileTree :=
  { t with entries := t.entries.filter (·.1 ≠ place) ++ [(place, e)] }

/-- Remove what stands at a place. -/
def erase (t : FileTree) (place : List String) : FileTree :=
  { t with entries := t.entries.filter (·.1 ≠ place) }

/-- The greatest number of missing directories that are made at once. -/
def maxMissing : Nat := 980

/-! ### Finding places -/

/-- The operating system takes the text of a path. -/
def checkPath (t : FileTree) (p : Path) : Except FileFault Unit :=
  if p.hasNull then .error .nullCharacter
  else if t.limits.refusesPath p.text then .error .nameTooLong
  else .ok ()

/-- The place reached from a place by one part. It is a place to be when the part is a new
name. -/
def step (t : FileTree) (here : List String) (part : String) :
    Except FileFault (List String) :=
  match t.find? here with
  | none => .error .notFound
  | some (.file _) => .error .notADirectory
  | some .directory =>
    if part = ".." then .ok here.dropLast
    else if t.limits.refusesName part then .error .nameTooLong
    else .ok (here ++ [part])

/-- The place that parts lead to. The place itself may be empty, everything on the way has
to be there. -/
def walk (t : FileTree) (parts : List String) : Except FileFault (List String) :=
  parts.foldlM t.step []

/-- The place that a path leads to from a directory. -/
def locate (t : FileTree) (dir p : Path) : Except FileFault (List String) := do
  t.checkPath p
  t.walk (dir.join p).parts

/-- What stands at the place that a path leads to from a directory. -/
def entryAt (t : FileTree) (dir p : Path) : Except FileFault FileEntry := do
  match t.find? (← t.locate dir p) with
  | some e => return e
  | none => throw .notFound

/-- Whether there is something where a path leads to from a directory. -/
def exists? (t : FileTree) (dir p : Path) : Except FileFault Bool :=
  match t.entryAt dir p with
  | .ok _ => .ok true
  | .error .nameTooLong => .error .nameTooLong
  | .error _ => .ok false

/-- The text of the file at an absolute path, if there is one. -/
def text? (t : FileTree) (p : Path) : Option String :=
  match t.entryAt .root p with
  | .ok (.file text) => some text
  | _ => none

/-! ### Changing the tree -/

/-- Make the directories that parts lead to from a place, unless they are there. `before`
are the parts that led to the place, in reverse, and `made` says whether a directory was
missing among them: from then on the path is followed directory by directory, so that a
file on the way is itself what cannot be made. -/
def makeFrom (t : FileTree) (here before : List String) (made : Bool) :
    List String → FileTree × Option FileFault
  | [] => (t, none)
  | part :: rest =>
    if part = ".." then t.makeFrom here.dropLast (part :: before) made rest
    else if t.limits.refusesName part then (t, some .nameTooLong)
    else
      let place := here ++ [part]
      match t.find? place with
      | some .directory => t.makeFrom place (part :: before) made rest
      | some (.file _) =>
        if made || rest.isEmpty then
          (t, some (.alreadyThere (Path.mk true (part :: before).reverse).text))
        else (t, some .notADirectory)
      | none =>
        if !made && rest.length ≥ maxMissing then (t, some .tooDeep)
        else (t.put place .directory).makeFrom place (part :: before) true rest

/-- **Make the directory at an absolute path and those on the way to it**, unless they are
there. Gives the tree also when it fails, since the directories made before stay. -/
def makeDirs (t : FileTree) (p : Path) : FileTree × Option FileFault :=
  match t.checkPath p with
  | .error e => (t, some e)
  | .ok () => t.makeFrom [] [] false p.parts

/-- Write a file, over the file that is there if there is one. -/
def writeFile (t : FileTree) (p : Path) (text : String) : Except FileFault FileTree := do
  let place ← t.locate .root p
  match t.find? place with
  | some .directory => throw .isADirectory
  | _ => return t.put place (.file text)

/-- Rename a file, over the file that is there if there is one. -/
def renameFile (t : FileTree) (source : List String) (p : Path) : Except FileFault FileTree := do
  let place ← t.locate .root p
  if p.name = ".." then throw .busy
  else match t.find? source, t.find? place with
    | _, some .directory => throw .isADirectory
    | some e, _ => return (t.erase source).put place e
    | none, _ => throw .notFound

end FileTree

end ClientGen
