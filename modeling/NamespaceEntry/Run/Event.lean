import NamespaceEntry.Host

/-!
# What can be seen of a run

A run leaves a trace of events, in the order in which they happen. Among them are the
diagnostics that the child prints.
-/

namespace NamespaceEntry

inductive Diagnostic where
  | setup (error : Error)
  | notReady (error : Error)
  | notReleased (command : Command) (error : Error)
  | notExecuted (command : Command) (errno : Errno)
  | maskKept (errno : Errno)
  | initFailed (error : Error)
  | notReported (outcome : Outcome) (error : Error)
  deriving DecidableEq, Repr

/-- The name that the program gives itself in what it prints. -/
def programName : String := "nsgate"

def Diagnostic.text (d : Diagnostic) : String :=
  programName ++ ": " ++ match d with
    | .setup error => error.message
    | .notReady error => "failed to signal readiness: " ++ error.message
    | .notReleased command error =>
      "not released to run " ++ command.describe ++ ": " ++ error.message
    | .notExecuted command errno =>
      "failed to execute " ++ Utf8.lossy command.program ++ ": " ++ errno.message
    | .maskKept errno => "failed to restore signal mask: " ++ errno.message
    | .initFailed error => "namespace init failed: " ++ error.message
    | .notReported outcome error =>
      "failed to report " ++ outcome.describe ++ ": " ++ error.message

inductive Event where
  | readySent
  | readyReceived
  | mapperCalled (kind : IdKind) (target : ProcessId) (ranges : List IdRange)
  | toolStarted (launch : Launch)
  | mapped (kind : IdKind)
  | goSent
  | goReceived
  | parentClosed
  | execAttempted (argv : List Bytes)
  /-- The command runs, as the second process of a namespace if it is under an init. -/
  | commandStarted (launch : Launch) (underInit : Bool)
  | forwarded (signal : Signal)
  | commandEnded (ending : Ending)
  | reported (outcome : Outcome)
  | diagnostic (diagnostic : Diagnostic)
  | reaped (ending : Ending)
  deriving DecidableEq, Repr

end NamespaceEntry
