import NamespaceEntry.Invocation

/-!
# Executors

An executor is a way to run commands: how they are set apart, in which namespaces, where proc is
mounted for them, and who maps their ids. An argument vector that it is handed is checked before
anything is started.
-/

namespace NamespaceEntry

/-- A way to run commands. The namespaces follow from the isolation unless they are given. -/
structure Executor where
  isolation : Isolation
  namespaces : Namespaces := isolation.namespaces
  procTarget : Bytes := NamespaceEntry.procTarget
  mapper : Host → Mapper := (MappingTools.map · {})

/-- What an executor came to. There is no result if its run never ends. -/
structure Execution where
  trace : List Event := []
  result : Option (Except Error Outcome)

namespace Executor

def setting (x : Executor) (h : Host) (childId : ProcessId) (command : Command) : Run.Setting :=
  { Run.Setting.ofIsolation h childId x.isolation (x.mapper h) command with
    namespaces := x.namespaces
    procTarget := x.procTarget }

def run (x : Executor) (h : Host) (childId : ProcessId) (command : Command) : Execution :=
  let w := x.setting h childId command
  match Run.unopened? w with
  | some cause => { result := some (.error cause) }
  | none =>
    let s := Run.run w
    { trace := s.trace, result := s.result? }

/-- Checks an argument vector, and runs it if it is a command. -/
def execute (x : Executor) (h : Host) (childId : ProcessId) (argv : List Bytes) : Execution :=
  match Command.make argv with
  | .error fault => { result := some (.error (.invalidConfig (.command fault))) }
  | .ok command => x.run h childId command

end Executor

end NamespaceEntry
