import NamespaceEntry.CommandLine.Basic

/-!
# The whole program

`conclude` reads a command line, carries it out, and says what is printed and how the
program ends.
-/

namespace NamespaceEntry

/-- What can be seen of the program from outside. -/
structure Conclusion where
  trace : List Event := []
  /-- The lines that the program itself prints on the output stream. -/
  outputText : List String := []
  errorText : List String := []
  /-- How the program ends, unless it never does. -/
  ending : Option Ending

def version : String := "0.1.0"

/-- What is printed for a command line that is not carried out. Only the version has a text of
its own: help and usage errors are told by the exit code. -/
def answerText : CommandLine.UsageFault → List String
  | .versionAsked => [programName ++ " " ++ version]
  | _ => []

def conclude (h : Host) (childId : ProcessId) (environment : List (String × Bytes))
    (args : List Bytes) : Conclusion :=
  match CommandLine.read environment args with
  | .error fault => { outputText := answerText fault, ending := some (.exited fault.exitCode) }
  | .ok parsed =>
    let report := parsed.invocation.carryOut h childId
    { trace := report.trace, errorText := report.errorText, ending := report.ending? }

end NamespaceEntry
