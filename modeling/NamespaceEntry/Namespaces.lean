import NamespaceEntry.Id.Mapping

/-!
# Namespaces and isolation

`Namespaces` says which new namespaces a child is created in. `Isolation` says whether its
ids are mapped, and so decides the namespaces unless the caller does.
-/

namespace NamespaceEntry

/-- The new namespaces that a child gets. -/
structure Namespaces where
  mount : Bool
  pid : Bool
  user : Bool
  deriving DecidableEq, Repr

namespace Namespaces

/-- New mounts and new process ids, with the ids of the caller. -/
def standard : Namespaces := { mount := true, pid := true, user := false }

/-- The bit that asks for each namespace when a child is created. -/
def mountFlag : Nat := 0x20000
def userFlag : Nat := 0x10000000
def pidFlag : Nat := 0x20000000

def flags (n : Namespaces) : Nat :=
  (if n.mount then mountFlag else 0) + (if n.pid then pidFlag else 0) +
    (if n.user then userFlag else 0)

def names (n : Namespaces) : List String :=
  (if n.mount then ["mnt"] else []) ++ (if n.pid then ["pid"] else []) ++
    (if n.user then ["user"] else [])

end Namespaces

/-- How a command is set apart from its caller. -/
inductive Isolation where
  | plain
  | mapped (mapping : IdMapping)
  deriving DecidableEq, Repr

namespace Isolation

def mapping? : Isolation → Option IdMapping
  | .plain => none
  | .mapped mapping => some mapping

def name : Isolation → String
  | .plain => "nsexec"
  | .mapped _ => "usernsexec"

/-- The namespaces that the isolation needs: a user namespace exactly if ids are mapped. -/
def namespaces (i : Isolation) : Namespaces :=
  { Namespaces.standard with user := i.mapping?.isSome }

end Isolation

end NamespaceEntry
