import NamespaceEntry.Proofs.Run.Settled

/-!
# Nobody is kept waiting

A parent can be blocked in four places, and each time it waits for its child. `never_deadlocked`
shows that the child's side is not blocked then as well: nothing that the child could wait for is
the parent's to do.
-/

namespace NamespaceEntry.Run

variable {w : Setting} {s t : State}

theorem place_of_blocked (blocked : parentStep w s = none) (open_ : s.result? = none) :
    s.parent = .awaitingReady ∨ s.parent = .awaitingReport ∨
      (∃ report, s.parent = .reaping report) ∨ ∃ cause, s.parent = .aborting cause := by
  unfold parentStep at blocked
  cases there : s.parent with
  | awaitingReady => exact Or.inl rfl
  | awaitingReport => exact Or.inr (Or.inl rfl)
  | reaping report => exact Or.inr (Or.inr (Or.inl ⟨report, rfl⟩))
  | aborting cause => exact Or.inr (Or.inr (Or.inr ⟨cause, rfl⟩))
  | finished r => cases open_.symm.trans (result?_eq_some.mpr there)
  | mapping kinds => cases kinds <;> simp [there] at blocked
  | cloning | dropping | releasing | abandoning => simp [there] at blocked

/-- While the parent is blocked only the child's side can go on. -/
theorem inner_of_next (blocked : parentStep w s = none) (taken : Next w s t) :
    ∃ actor child, Child.stepOf w.toSetting s.toState actor = some child := by
  obtain ⟨actor, own, taken⟩ := taken
  cases actor with
  | parent => cases blocked.symm.trans taken
  | killer signal => exact absurd rfl (own signal)
  | inner actor =>
    obtain ⟨child, goes, -⟩ := Option.map_eq_some_iff.mp taken
    exact ⟨actor, child, goes⟩

theorem alive_of_blocked (reached : Reachable w s) (blocked : parentStep w s = none)
    (open_ : s.result? = none) (ending : Ending) : s.phase ≠ .ended ending := by
  intro ended
  obtain ⟨left, c⟩ := coherent reached
  rcases c.next_of_dead ended with ⟨r, done⟩ | ⟨t, taken⟩
  · cases open_.symm.trans (result?_eq_some.mpr done)
  · obtain ⟨actor, child, goes⟩ := inner_of_next blocked taken
    exact not_move_of_childless (Or.inr ⟨ending, ended⟩) (Child.move_of_stepOf goes)

/-- An end of the pair is open exactly as long as somebody holds a copy of it. -/
theorem isOpen_iff_held (reached : Reachable w s) (side : Side) :
    (s.socket.get side).isOpen = true ↔
      0 < s.parent.copies side + s.phase.station.copies side := by
  obtain ⟨left, c⟩ := coherent reached
  rw [Socket.isOpen_iff, c.held side]
  omega

theorem childless_of_finished (reached : Reachable w s) {r : Except Error Outcome}
    (done : s.result? = some r) : s.phase = .unborn ∨ ∃ ending, s.phase = .ended ending := by
  obtain ⟨left, -, how⟩ := settled reached (result?_eq_some.mp done)
  exact how.childless

/-- In no order of the steps, and wherever the child is killed, does a blocked parent face a
blocked child: somebody on the child's side can go on, or the command runs and waits for a signal.
A child that is dead keeps no parent waiting, and a parent that is done leaves no child behind. -/
theorem never_deadlocked (reached : Reachable w s) :
    (∀ side, (s.socket.get side).isOpen = true ↔
      0 < s.parent.copies side + s.phase.station.copies side) ∧
    (∀ r, s.result? = some r → s.phase = .unborn ∨ ∃ ending, s.phase = .ended ending) ∧
    (parentStep w s = none → s.result? = none →
      (s.parent = .awaitingReady ∨ s.parent = .awaitingReport ∨
        (∃ report, s.parent = .reaping report) ∨ ∃ cause, s.parent = .aborting cause) ∧
      (∀ ending, s.phase ≠ .ended ending) ∧
      ((∃ actor child, Child.stepOf w.toSetting s.toState actor = some child) ∨ s.Awaits)) := by
  refine ⟨isOpen_iff_held reached, fun r => childless_of_finished reached, ?_⟩
  intro blocked open_
  refine ⟨place_of_blocked blocked open_, alive_of_blocked reached blocked open_, ?_⟩
  rcases next_of_reachable reached with ⟨r, done⟩ | waits | ⟨t, taken⟩
  · cases open_.symm.trans (result?_eq_some.mpr done)
  · exact Or.inr waits
  · exact Or.inl (inner_of_next blocked taken)

def denied : Setting :=
  { lone secluded (.mapped oneOfEach) {} with
    mapper kind _ _ := { result := .error (.mapping kind (.other "refused")) } }

/-- The parent has closed its end and waits for a child that still waits to be let go. -/
theorem never_deadlocked_denied :
    Reachable denied (complete denied 8 {}) ∧
      (∃ cause, (complete denied 8 {}).parent = .aborting cause) ∧
      (complete denied 8 {}).phase.station = .waiting ∧
      parentStep denied (complete denied 8 {}) = none ∧
      ((∃ actor child,
        Child.stepOf denied.toSetting (complete denied 8 {}).toState actor = some child) ∨
        (complete denied 8 {}).Awaits) := by
  have reached : Reachable denied (complete denied 8 {}) :=
    (undisturbed_complete 8 .start).reachable
  have blocked : parentStep denied (complete denied 8 {}) = none := rfl
  exact ⟨reached, ⟨_, rfl⟩, rfl, blocked, ((never_deadlocked reached).2.2 blocked rfl).2.2⟩

end NamespaceEntry.Run
