import NamespaceEntry.Text.Bytes
import NamespaceEntry.WaitStatus

/-!
# Programs

A program is known by what it does to the process that waits for it: the signals that it
sends, the processes that it leaves behind, and how it ends.
-/

namespace NamespaceEntry

/-- Something that a program does to the init of its namespace. -/
inductive Act where
  | signal (signal : Signal)
  /-- Leaves a process to the init, which ends in its own time. -/
  | orphan (ending : Ending)
  /-- Goes on only after the init has passed on a signal. -/
  | await (signal : Signal)
  deriving DecidableEq, Repr

structure Program where
  script : List Act := []
  ending : Ending := .exited 0
  /-- Whether memory is dumped if the program is killed. -/
  dumps : Bool := false
  deriving DecidableEq, Repr

/-- The status of the program for the process that has waited for it. -/
def Program.status (p : Program) : ExitStatus := .ofEnding p.ending p.dumps

theorem Program.status_cases (p : Program) :
    (∃ code, p.status = .exited code) ∨ ∃ number dumped, p.status = .killed number dumped := by
  unfold status
  cases p.ending with
  | exited code => exact Or.inl ⟨code, rfl⟩
  | killed number => exact Or.inr ⟨number, p.dumps, rfl⟩

/-- A program that has been started, with the arguments after its name. -/
structure Launch where
  program : Bytes
  arguments : List Bytes
  deriving DecidableEq, Repr

end NamespaceEntry
