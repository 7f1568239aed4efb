import NamespaceEntry.Files
import NamespaceEntry.Host

/-!
# Worlds

A world is a small system that can be a host: it has files, a search path with one directory, and
the rules of a kernel that makes namespaces.
-/

namespace NamespaceEntry

/-- What a name on the search path stands for. -/
inductive Entry where
  | executable (file : ProgramFile)
  | refused (errno : Errno)
  deriving DecidableEq, Repr

structure World where
  /-- The names in the one directory of the search path. -/
  search : List (Bytes × Entry) := []
  /-- The files outside the search path. -/
  files : Files := {}
  /-- Whether new namespaces may be made without a new user namespace. -/
  privileged : Bool := false
  deriving DecidableEq, Repr

namespace World

/-- The longest argument that a program can be given. -/
def argumentLimit : Nat := 131071

/-- Whether a program is given by a path, so that the search path is not looked at. The two
names of directories lead to directories wherever they are looked for. -/
def isPath (program : Bytes) : Bool :=
  program.contains FileName.separator || program == FileName.here || program == FileName.above

def find (w : World) (program : Bytes) : Except Errno ProgramFile :=
  if program.isEmpty then .error .noEntry
  else if isPath program then
    match w.files.resolve program with
    | .ok (.executable x) => .ok x
    | .ok _ => .error .accessDenied
    | .error errno => .error errno
  else if FileName.limit < program.length then .error .nameTooLong
  else
    match w.search.lookup program with
    | some (.executable x) => .ok x
    | some (.refused errno) => .error errno
    | none => .error .noEntry

def start (w : World) (role : Role) (l : Launch) : Except Errno Program := do
  let x ← w.find l.program
  if l.arguments.any (argumentLimit < ·.length) then throw .argumentsTooLong
  return if role = .command then x.program else x.helper

/-- Only a new user namespace gives an unprivileged caller the right to the others. -/
def clone (w : World) (n : Namespaces) : Except Errno Unit :=
  if (n.mount || n.pid) && !n.user && !w.privileged then .error .notPermitted else .ok ()

def mountProc (w : World) (target : Bytes) : Except Errno Unit :=
  match w.files.resolve target with
  | .ok .directory => .ok ()
  | .ok _ => .error .notDirectory
  | .error errno => .error errno

/-- The world as the host of a run. -/
def host (w : World) : Host where
  start := w.start
  clone := w.clone
  mountProc := w.mountProc

end World

end NamespaceEntry
