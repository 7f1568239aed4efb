import NamespaceEntry.Proofs.Run.Stations

/-!
# What is executed

A run tries to execute its command and nothing else, in the place of the child or below an init,
and what is started or refused is what the host makes of the first argument and the others.
-/

namespace NamespaceEntry

namespace Run

variable {w : Setting} {s t : State}

/-- If the event is about an execution, it is about that of the command, and tells what the host
says of it. -/
def Concerns (w : Child.Setting) : Event → Prop
  | .execAttempted argv => argv = w.command.argv
  | .commandStarted l _ => l = w.command.launch ∧ ∃ program, w.host.start .command l = .ok program
  | .diagnostic (.notExecuted c errno) => c = w.command ∧ w.host.start .command c.launch = .error errno
  | _ => True

theorem concerns_append {w : Child.Setting} {xs ys : List Event} (first : ∀ e ∈ xs, Concerns w e)
    (second : ∀ e ∈ ys, Concerns w e) : ∀ e ∈ xs ++ ys, Concerns w e :=
  List.forall_mem_append.mpr ⟨first, second⟩

theorem concerns_of_childMove {s t : Child.State} (before : ∀ e ∈ s.trace, Concerns w.toSetting e)
    (move : Child.Move w.toSetting s t) : ∀ e ∈ t.trace, Concerns w.toSetting e := by
  have other : ∀ e, Concerns w.toSetting e → ∀ e' ∈ s.trace ++ [e], Concerns w.toSetting e' :=
    fun e here => concerns_append before (by simpa using here)
  cases move with
  | executed program here found | executedBelow init orphans program here found =>
    show ∀ e ∈ s.trace ++ [_] ++ [_], Concerns w.toSetting e
    exact concerns_append (other _ rfl) (by simpa using ⟨rfl, program, found⟩)
  | unexecuted errno here failed | unexecutedBelow init orphans errno next here failed ended =>
    show ∀ e ∈ s.trace ++ [_] ++ [_], Concerns w.toSetting e
    exact concerns_append (other _ rfl) (by simpa using ⟨rfl, failed⟩)
  | took init command orphans signal =>
    simp only [Child.State.goto]
    split
    · exact before
    · exact other _ trivial
  | initFailed init command =>
    simp only [Child.State.fail, Child.State.exit, Child.State.log]
    split <;> exact other _ trivial
  | inherited | mounted | forked | concluded | signalled | orphaned | awaited | orphanEnded =>
    exact before
  | _ => exact other _ trivial

theorem concerns_of_move (before : ∀ e ∈ s.trace, Concerns w.toSetting e) (move : Move w s t) :
    ∀ e ∈ t.trace, Concerns w.toSetting e := by
  have other : ∀ {s : State} e, (∀ e ∈ s.trace, Concerns w.toSetting e) → Concerns w.toSetting e →
      ∀ e' ∈ s.trace ++ [e], Concerns w.toSetting e' :=
    fun e before here => concerns_append before (by simpa using here)
  have called : ∀ kind, ∀ e ∈ (asked w s kind).trace, Concerns w.toSetting e := by
    intro kind
    rw [trace_asked]
    refine concerns_append before ?_
    cases (reply w kind).started <;> simp [Concerns]
  cases move with
  | inner child move => exact concerns_of_childMove before move
  | mapped kind => exact other _ (called kind) trivial
  | unmapped kind => exact called kind
  | cloned | dropped | unready | allMapped | unsentGo => exact before
  | _ => exact other _ before trivial

theorem concerns (reached : Reachable w s) : ∀ e ∈ s.trace, Concerns w.toSetting e := by
  induction reached with
  | start => exact nofun
  | step actor _ taken ih =>
    rcases move_of_step taken with move | ⟨signal, child, -, death, rfl⟩
    · exact concerns_of_move ih move
    · obtain ⟨-, -, rfl⟩ := Child.killStep_eq_some death
      exact ih

/-- What a trace tells of executions: each was tried with an argument vector and no other one, and
the program that was started or refused is the one that its first argument stands for. -/
structure Executes (h : Host) (argv : List Bytes) (trace : List Event) : Prop where
  attempted : ∀ tried, .execAttempted tried ∈ trace → tried = argv
  started : ∀ l below, .commandStarted l below ∈ trace →
    l.program :: l.arguments = argv ∧ ∃ program, h.start .command l = .ok program
  refused : ∀ c errno, .diagnostic (.notExecuted c errno) ∈ trace →
    c.argv = argv ∧ h.start .command c.launch = .error errno

/-- Whatever the order of the steps, a run executes the command that it is given. -/
theorem executes (reached : Reachable w s) : Executes w.host w.command.argv s.trace where
  attempted _ tried := concerns reached _ tried
  started l below started := by
    obtain ⟨rfl, program, found⟩ := concerns reached _ started
    exact ⟨rfl, program, found⟩
  refused c errno refused := by
    obtain ⟨rfl, failed⟩ := concerns reached _ refused
    exact ⟨rfl, failed⟩

end Run

end NamespaceEntry
