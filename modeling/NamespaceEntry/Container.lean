import NamespaceEntry.Failure
import NamespaceEntry.Host

/-!
# Containers

A container is started by a runtime, which reports how it ended. `lxcStart` runs a program
that keeps the container in the foreground, so that the container ends as the program does.
-/

namespace NamespaceEntry

structure Container where
  name : String
  /-- The directory that holds the container. -/
  path : Bytes
  config : Bytes
  deriving DecidableEq, Repr

/-- Starts containers, by actions of some kind, and says how they ended. -/
abbrev ContainerRuntime (m : Type → Type) := Container → m (Except Error Outcome)

namespace Container

/-- The arguments that name a container and keep it in the foreground. -/
def arguments (c : Container) : List Bytes :=
  [Bytes.ofString "--name", Bytes.ofString c.name, Bytes.ofString "--lxcpath", c.path,
    Bytes.ofString "--rcfile", c.config, Bytes.ofString "--foreground"]

/-- The program that starts containers, unless another is chosen. -/
def defaultBinary : Bytes := Bytes.ofString "lxc-start"

/-- The runtime that runs a program on a host. It keeps a record of what it has started. -/
def lxcStart (h : Host) (binary : Bytes) : ContainerRuntime (StateM (List Launch)) := fun c => do
  let launch : Launch := ⟨binary, c.arguments⟩
  match h.launch .container launch with
  | .error fault => return .error (.runtime (.launch binary fault))
  | .ok status =>
    modify (· ++ [launch])
    return status.outcome.mapError (.wait <| .status ·)

def start {m : Type → Type} [Functor m] (runtime : ContainerRuntime m) (c : Container) :
    m (Except Failure Outcome) :=
  (fun result => result.mapError (⟨.start c.name, ·⟩)) <$> runtime c

end Container

end NamespaceEntry
