import NamespaceEntry.Container
import NamespaceEntry.Run.Basic

/-!
# Invocations

An invocation is a subcommand with its arguments. Carrying it out checks the arguments
first, and starts nothing if they are refused.
-/

namespace NamespaceEntry

inductive Invocation where
  | spawn (container : Container) (binary : Bytes)
  | nsexec (argv : List Bytes)
  | usernsexec (tools : MappingTools) (ranges : List String) (argv : List Bytes)
  deriving DecidableEq, Repr

/-- What carrying out an invocation came to. There is no result if it never ends. -/
structure Report where
  trace : List Event := []
  result : Option (Except Failure Outcome)

/-- Where a proc file system is mounted for the command. -/
def procTarget : Bytes := Bytes.ofString "/proc"

namespace Run.Setting

/-- The run of a command with an isolation, in the namespaces that the isolation needs. -/
def ofIsolation (h : Host) (childId : ProcessId) (isolation : Isolation) (mapper : Mapper)
    (command : Command) : Setting where
  namespaces := isolation.namespaces
  procTarget := procTarget
  command := command
  host := h
  isolation := isolation
  mapper := mapper
  childId := childId

end Run.Setting

namespace Invocation

/-- Nothing has been started, because of an error. -/
def refused (context : Context) (cause : Error) : Report :=
  { result := some (.error ⟨context, cause⟩) }

def runCommand (w : Run.Setting) : Report :=
  match Run.unopened? w with
  | some cause => refused (.run w.command) cause
  | none =>
    let s := Run.run w
    { trace := s.trace
      result := s.result?.map (·.mapError (⟨.run w.command, ·⟩)) }

def runArguments (h : Host) (childId : ProcessId) (isolation : Isolation) (mapper : Mapper)
    (argv : List Bytes) : Report :=
  match Command.make argv with
  | .error fault => refused .checkCommand (.invalidConfig (.command fault))
  | .ok command => runCommand (.ofIsolation h childId isolation mapper command)

def carryOut (h : Host) (childId : ProcessId) : Invocation → Report
  | .spawn container binary =>
    let (result, started) := (container.start (Container.lxcStart h binary)).run []
    { trace := started.map .toolStarted, result := some result }
  | .nsexec argv => runArguments h childId .plain (MappingTools.map h {}) argv
  | .usernsexec tools ranges argv =>
    match IdMapping.ofTokens ranges with
    | .error cause => refused .checkRanges cause
    | .ok mapping => runArguments h childId (.mapped mapping) (MappingTools.map h tools) argv

end Invocation

/-- How the program ends after an invocation: as its command did, or with a code of its own
after a failure. -/
def Report.ending? (r : Report) : Option Ending :=
  r.result.map fun
    | .ok o => (ExitAction.ofOutcome o).ending
    | .error _ => .exited ExitAction.failureCode

/-- The lines that the program and its child print on the error stream. -/
def Report.errorText (r : Report) : List String :=
  r.trace.filterMap (fun
    | .diagnostic d => some d.text
    | _ => none) ++
  match r.result with
  | some (.error f) => [programName ++ ": " ++ f.message]
  | _ => []

end NamespaceEntry
