import NamespaceEntry.Signal

/-!
# How a process ends

An `Ending` is what the kernel records of a process. An `Outcome` is an ending with a
name: every exit code, and death by a standard signal. Death by a real-time signal is an
ending without an outcome.
-/

namespace NamespaceEntry

/-- How a process ended, as the kernel records it. -/
inductive Ending where
  | exited (code : UInt8)
  | killed (signal : Nat)
  deriving DecidableEq, Repr

inductive Outcome where
  | exited (code : UInt8)
  | signaled (signal : Signal)
  deriving DecidableEq, Repr

/-- The outcome of an ending; there is none for a death by a signal without a name. -/
def Ending.outcome? : Ending → Option Outcome
  | .exited code => some (.exited code)
  | .killed signal => (Signal.ofNumber? signal).map .signaled

namespace Outcome

def describe : Outcome → String
  | .exited code => "exited with code " ++ toString code.toNat
  | .signaled signal => "killed by " ++ signal.name

/-- The exit code that stands for an outcome where only a code can be given: the code
itself, or 128 and the signal number. -/
def shellCode : Outcome → UInt8
  | .exited code => code
  | .signaled signal => (128 + signal.number).toUInt8

end Outcome

/-- What a process does to end as its command did. -/
inductive ExitAction where
  | exit (code : UInt8)
  | raise (signal : Signal)
  deriving DecidableEq, Repr

namespace ExitAction

def ofOutcome : Outcome → ExitAction
  | .exited code => .exit code
  | .signaled signal => .raise signal

/-- The exit code of a run that failed before its command could end. -/
def failureCode : UInt8 := 125

/-- How a process that takes the action ends. A signal that does not terminate leaves the
process alive, and it then reports a failure. -/
def ending : ExitAction → Ending
  | .exit code => .exited code
  | .raise signal => if signal.terminates then .killed signal.number else .exited failureCode

end ExitAction

end NamespaceEntry
