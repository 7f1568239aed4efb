import NamespaceEntry.Host

/-!
# Mappers

A mapper gives a child that waits in a new user namespace its ids. `MappingTools.map` does
so with an external tool for each kind, and succeeds exactly if the tool exits with zero.
-/

namespace NamespaceEntry

/-- What a mapper does when it is asked to map ranges. -/
structure MapperReply where
  started : Option Launch := none
  /-- The signal by which the mapper has killed the waiting child. -/
  kill : Option Nat := none
  result : Except Error Unit := .ok ()

abbrev Mapper := IdKind → ProcessId → List IdRange → MapperReply

structure MappingTools where
  uidTool : Bytes := Bytes.ofString "newuidmap"
  gidTool : Bytes := Bytes.ofString "newgidmap"
  deriving DecidableEq, Repr

namespace MappingTools

def tool (t : MappingTools) : IdKind → Bytes
  | .uid => t.uidTool
  | .gid => t.gidTool

def launch (t : MappingTools) (kind : IdKind) (target : ProcessId) (ranges : List IdRange) :
    Launch where
  program := t.tool kind
  arguments := (IdRange.toolArguments target ranges).map Bytes.ofString

def resultOf (tool : Bytes) : ExitStatus → Except MappingFault Unit
  | .exited code => if code = 0 then .ok () else .error (.failed tool code)
  | status => .error (.terminated tool status)

def map (h : Host) (t : MappingTools) : Mapper := fun kind target ranges =>
  let launch := t.launch kind target ranges
  match h.launch (.mapper kind) launch with
  | .error fault => { result := .error (.mapping kind (.launch launch.program fault)) }
  | .ok status =>
    { started := some launch
      result := (resultOf launch.program status).mapError (.mapping kind) }

end MappingTools

end NamespaceEntry
