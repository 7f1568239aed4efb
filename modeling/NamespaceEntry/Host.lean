import NamespaceEntry.Error
import NamespaceEntry.Namespaces
import NamespaceEntry.Program

/-!
# The host of a run

A host is known by how it answers the requests that a run makes of it: what a process becomes
when it executes a program, and which namespaces and mounts may be made. Nothing is known of the
answers beforehand.
-/

namespace NamespaceEntry

/-- What a program is started for. A run starts at most one program for each. -/
inductive Role where
  | mapper (kind : IdKind)
  | container
  | command
  deriving DecidableEq, Repr

/-- How the calls of an init are answered: a call fails if there is a reason why. The answers in
its loop may change with the signals that have been passed on before. -/
structure InitCalls where
  blockSignals : Option Errno := none
  fork : Option Errno := none
  /-- Unblocks the signals in the forked process. -/
  restoreSignals : Option Errno := none
  awaitSignal (before : List Signal) : Option Errno := none
  relay (before : List Signal) (signal : Signal) : Except Errno Unit := .ok ()

/-- The system on which a run takes place. -/
structure Host where
  /-- The program that a process becomes, or why it becomes none. A program is given by a name
  that is looked for, or by a path. -/
  start : Role → Launch → Except Errno Program
  /-- Creates a child in new namespaces. -/
  clone : Namespaces → Except Errno Unit
  /-- Mounts a proc file system. -/
  mountProc : Bytes → Except Errno Unit
  /-- Why no pair of sockets can be made, if none can. -/
  channel : Option Errno := none
  /-- Why mounts cannot be made private, if they cannot. -/
  privateMounts : Option Errno := none
  init : InitCalls := {}

namespace Host

/-- Starts a helper and waits for its end. A name or an argument that no program can be given
is refused before the program is looked for. -/
def launch (h : Host) (role : Role) (l : Launch) : Except LaunchFault ExitStatus :=
  if (l.program :: l.arguments).any fun a => a.nulPosition?.isSome then .error .nul
  else
    match h.start role l with
    | .ok program => .ok program.status
    | .error errno => .error (.refused errno)

theorem program_of_launch {h : Host} {role : Role} {l : Launch} {status : ExitStatus}
    (launched : h.launch role l = .ok status) :
    ∃ program, h.start role l = .ok program ∧ status = program.status := by
  unfold launch at launched
  split at launched
  · cases launched
  · split at launched <;> cases launched
    exact ⟨_, ‹_›, rfl⟩

/-- Prepares the mounts of a child: private ones in a new mount namespace, and a proc file
system of its own in a new process id namespace. -/
def mount (h : Host) (n : Namespaces) (procTarget : Bytes) : Except ResourceFault Unit :=
  if !n.mount then .ok ()
  else
    match h.privateMounts with
    | some errno => .error (.privateMounts errno)
    | none =>
      if !n.pid then .ok () else (h.mountProc procTarget).mapError (.procMount procTarget)

end Host

end NamespaceEntry
