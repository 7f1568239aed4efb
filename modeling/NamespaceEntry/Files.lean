import NamespaceEntry.Program

/-!
# Files

A path leads from name to name through directories, from the root or from the working
directory. `Files.resolve` says what stands at its end, or why the path leads nowhere.
-/

namespace NamespaceEntry

namespace FileName

def separator : UInt8 := Bytes.ascii '/'

def here : Bytes := Bytes.ofString "."

/-- The name of the directory above, in each directory. -/
def above : Bytes := Bytes.ofString ".."

def limit : Nat := 255

end FileName

/-- A place, as the names that lead to it from the root. The last name comes first. -/
abbrev Place := List Bytes

/-- The place at the end of an absolute path without dots. -/
def Place.ofPath (path : Bytes) : Place :=
  ((path.splitOn FileName.separator).filter (!·.isEmpty)).reverse

/-- The signals that a helper ignores from its start. Threads keep them for themselves. -/
def ignoredByHelpers : List Nat := [32, 33]

/-- A file that can be executed. -/
structure ProgramFile where
  program : Program
  /-- How the program ends if it ignores the signal that would have killed it. -/
  spared : Ending := .exited 0
  deriving DecidableEq, Repr

/-- What the file does as a helper, which ignores some signals. -/
def ProgramFile.helper (x : ProgramFile) : Program :=
  match x.program.ending with
  | .killed signal =>
    if ignoredByHelpers.contains signal then { x.program with ending := x.spared } else x.program
  | .exited _ => x.program

/-- What stands at a place. -/
inductive FileKind where
  | directory
  | device
  | executable (file : ProgramFile)
  deriving DecidableEq, Repr

/-- The files to which paths lead. -/
structure Files where
  places : List (Place × FileKind) := []
  /-- The directory in which a path begins that does not begin at the root. -/
  working : Place := []
  deriving DecidableEq, Repr

namespace Files

def pathLimit : Nat := 4095

/-- What stands at a place. The root and the working directory are always there. -/
def kind? (f : Files) (place : Place) : Option FileKind :=
  if place.isEmpty || place == f.working then some .directory else f.places.lookup place

/-- Goes on from a place to a name. Only a directory has names, and the empty name, which
stands beside a needless slash, is the directory itself. -/
def enter (f : Files) (place : Place) (name : Bytes) : Except Errno Place :=
  if f.kind? place ≠ some .directory then .error .notDirectory
  else if name.isEmpty || name == FileName.here then .ok place
  else if name == FileName.above then .ok place.tail
  else if FileName.limit < name.length then .error .nameTooLong
  else if (f.kind? (name :: place)).isNone then .error .noEntry
  else .ok (name :: place)

def start (f : Files) (path : Bytes) : Place :=
  if path.head? = some FileName.separator then [] else f.working

def resolve (f : Files) (path : Bytes) : Except Errno FileKind :=
  if path.isEmpty then .error .noEntry
  else if path.nulPosition?.isSome then .error .invalidArgument
  else if pathLimit < path.length then .error .nameTooLong
  else do
    let place ← (path.splitOn FileName.separator).foldlM f.enter (f.start path)
    (f.kind? place).elim (.error .noEntry) .ok

end Files

end NamespaceEntry
