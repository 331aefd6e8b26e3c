import ClientGen.Text.Blank

/-!
# Paths

A path is a list of parts, from the root if it is absolute. The parts that mean nothing
(empty ones and `.`) are left out when a path is read; `..` is kept, because what it leads
to depends on the files there are.
-/

namespace ClientGen

/-- A path. -/
structure Path where
  /-- Whether the path starts from the root. -/
  absolute : Bool
  /-- The parts. -/
  parts : List String
  deriving DecidableEq, Repr

namespace Path

/-- The path of the root. -/
def root : Path :=
  ⟨true, []⟩

/-- Read a path. -/
def ofString (s : String) : Path where
  absolute := s.toList.head? == some '/'
  parts := ((Text.splitOnChar '/' s.toList).map String.ofList).filter fun part =>
    part ≠ "" && part ≠ "."

/-- The text of a path. -/
def text (p : Path) : String :=
  let body := "/".intercalate p.parts
  if p.absolute then "/" ++ body else if p.parts.isEmpty then "." else body

/-- Whether a path has a null character in it. -/
def hasNull (p : Path) : Bool :=
  p.parts.any fun part => part.toList.contains '\x00'

/-- The last part of a path; empty if there is none. -/
def name (p : Path) : String :=
  p.parts.getLast?.getD ""

/-- A path without its last part. -/
def parent (p : Path) : Path :=
  { p with parts := p.parts.dropLast }

/-- A path followed from a directory. -/
def join (dir p : Path) : Path :=
  if p.absolute then p else { dir with parts := dir.parts ++ p.parts }

/-- Follow the parts `..` by dropping the part before them. -/
def collapse (parts : List String) : List String :=
  (parts.foldl (fun acc part => if part = ".." then acc.drop 1 else part :: acc) []).reverse

/-- The absolute path that a path stands for in a directory, with the parts `..`
followed. -/
def resolve (dir p : Path) : Path :=
  ⟨true, collapse (dir.join p).parts⟩

end Path

end ClientGen
