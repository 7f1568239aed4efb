import NamespaceEntry.Proofs.Handshake.Gate
import NamespaceEntry.Proofs.Run.Progress

/-!
# The run that is carried out comes to its end

`run` is given a number of steps. They are enough: it stops only where nobody can take a step.
-/

namespace NamespaceEntry.Run

variable {w : Setting} {s t : State}

/-- If any orphan can end then the first one can. -/
theorem orphanStep_first {s u : Child.State} {index : Nat}
    (taken : Child.orphanStep s index = some u) : Child.orphanStep s 0 ≠ none := by
  unfold Child.orphanStep at taken ⊢
  cases here : s.phase <;> simp only [here] at taken ⊢ <;> try cases taken
  rename_i init command orphans
  cases orphans with
  | nil => cases taken
  | cons first rest => nofun

/-- Where the first process that can take a step is not found, there is none. -/
theorem not_next_of_stuck (stuck : advance w s = none) : ¬Next w s t := by
  simp only [advance, Child.advance, Option.orElse_eq_orElse, Option.orElse_eq_or,
    Option.or_eq_none_iff, Option.map_eq_none_iff] at stuck
  obtain ⟨parent, own, orphan, command⟩ := stuck
  rintro ⟨actor, calm, taken⟩
  cases actor with
  | parent => cases parent.symm.trans taken
  | killer signal => exact calm signal rfl
  | inner actor =>
    obtain ⟨child, goes, -⟩ := Option.map_eq_some_iff.mp taken
    cases actor with
    | child => cases own.symm.trans goes
    | command => cases command.symm.trans goes
    | orphan index => exact orphanStep_first goes orphan

theorem stuck_of_complete {fuel : Nat} (reached : Undisturbed w s) (enough : s.rank w ≤ fuel) :
    advance w (complete w fuel s) = none := by
  induction fuel generalizing s with
  | zero =>
    cases taken : advance w s with
    | none => exact taken
    | some t =>
      have smaller := rank_lt_of_next reached.reachable (next_of_advance taken)
      omega
  | succ fuel ih =>
    unfold complete
    cases taken : advance w s with
    | none => exact taken
    | some t =>
      have next := next_of_advance taken
      have smaller := rank_lt_of_next reached.reachable next
      exact ih (reached.next next) (by omega)

theorem weights_le (script : List Act) : Child.weights script ≤ 3 * script.length := by
  induction script with
  | nil => exact Nat.le_refl 0
  | cons act rest ih =>
    have most : Child.weight act ≤ 3 := by cases act <;> simp [Child.weight]
    simp only [Child.weights, List.length_cons]
    omega

theorem rank_start_le (w : Setting) : ({} : State).rank w ≤ w.toSetting.bound + 16 := by
  have kinds : (kindsToMap w).length ≤ 2 := by
    rw [kindsToMap_eq]
    unfold Isolation.required
    split
    · decide
    · split <;> decide
  have command : w.toSetting.commandRank + 14 ≤ w.toSetting.bound := by
    unfold Child.Setting.commandRank Child.Setting.bound
    cases w.host.start .command w.command.launch with
    | error errno => exact Nat.le_of_ble_eq_true rfl
    | ok program =>
      have most := weights_le program.script
      show Child.weights program.script + 3 + 14 ≤ 32 + 4 * program.script.length
      omega
  show (kindsToMap w).length + 7 + (w.toSetting.commandRank + 7) ≤ w.toSetting.bound + 16
  omega

/-- A run that is carried out has a result, or its command waits for a signal that never comes. -/
theorem run_over (w : Setting) : (∃ r, (run w).parent = .finished r) ∨ (run w).Awaits := by
  have stuck : advance w (run w) = none := stuck_of_complete .start (rank_start_le w)
  rcases next_of_reachable (undisturbed_run w).reachable with done | waits | ⟨t, taken⟩
  · exact Or.inl done
  · exact Or.inr waits
  · exact absurd taken (not_next_of_stuck stuck)

end NamespaceEntry.Run
