import NamespaceEntry.Proofs.Run.Stations

/-!
# What an init knows of the dead

`Tended` ties an init to the deaths below it: a zombie leaves a `SIGCHLD` pending, and the
result of the wait is the outcome of the command or comes from a death without an outcome.
Every event keeps it.
-/

namespace NamespaceEntry

namespace Init

variable {i j : Init} {death : Option Ending} {lost : Ending → Prop}

/-! ### Draining -/

/-- Draining succeeds when all the dead have outcomes, and finds the command among them. -/
theorem drain_ok {known found : Option Outcome} {zombies rest : List (Member × Ending)}
    (h : drain known zombies = (.ok found, rest)) :
    rest = [] ∧ (found = known ∧ (∀ ending, (.command, ending) ∉ zombies) ∨
      ∃ ending o, (.command, ending) ∈ zombies ∧ ending.outcome? = some o ∧ found = some o) := by
  induction zombies generalizing known with
  | nil =>
    simp only [drain, Prod.mk.injEq, Except.ok.injEq] at h
    obtain ⟨rfl, rfl⟩ := h
    exact ⟨rfl, Or.inl ⟨rfl, by simp⟩⟩
  | cons zombie zombies ih =>
    obtain ⟨member, ending⟩ := zombie
    unfold drain at h
    cases named : ending.outcome? with
    | none => simp [named] at h
    | some o =>
      simp only [named] at h
      obtain ⟨empty, ⟨rfl, absent⟩ | ⟨other, o', found, has, eq⟩⟩ := ih h
      · refine ⟨empty, ?_⟩
        cases member with
        | command => exact Or.inr ⟨ending, o, List.mem_cons_self, named, rfl⟩
        | orphan => exact Or.inl ⟨rfl, by simpa using absent⟩
      · exact ⟨empty, Or.inr ⟨other, o', List.mem_cons_of_mem _ found, has, eq⟩⟩

theorem drain_error {known : Option Outcome} {zombies rest : List (Member × Ending)} {errno : Errno}
    (h : drain known zombies = (.error errno, rest)) :
    errno = .invalidArgument ∧
      ∃ member ending, (member, ending) ∈ zombies ∧ ending.outcome? = none := by
  induction zombies generalizing known with
  | nil => cases h
  | cons zombie zombies ih =>
    obtain ⟨member, ending⟩ := zombie
    unfold drain at h
    cases named : ending.outcome? with
    | none =>
      simp only [named, Prod.mk.injEq, Except.error.injEq] at h
      exact ⟨h.1.symm, member, ending, List.mem_cons_self, named⟩
    | some o =>
      simp only [named] at h
      obtain ⟨same, other, end_, found, none⟩ := ih h
      exact ⟨same, other, end_, List.mem_cons_of_mem _ found, none⟩

theorem subset_of_drain {known : Option Outcome} {zombies rest : List (Member × Ending)}
    {result : Except Errno (Option Outcome)} (h : drain known zombies = (result, rest)) :
    ∀ {zombie}, zombie ∈ rest → zombie ∈ zombies := by
  induction zombies generalizing known with
  | nil =>
    cases h
    exact id
  | cons zombie zombies ih =>
    obtain ⟨member, ending⟩ := zombie
    unfold drain at h
    cases named : ending.outcome? with
    | none =>
      simp only [named, Prod.mk.injEq] at h
      exact fun left => List.mem_cons_of_mem _ (h.2 ▸ left)
    | some o =>
      simp only [named] at h
      exact fun left => List.mem_cons_of_mem _ (ih h left)

/-! ### The invariant -/

/-- What an init knows when its command has died of `death`, if it has, and when the orphans that
have died may have ended in any of the ways `lost`. -/
structure Tended (i : Init) (death : Option Ending) (lost : Ending → Prop) : Prop where
  alive : i.commandAlive = death.isNone
  wakes : i.zombies ≠ [] → i.result = none → .chld ∈ i.pending
  kept : ∀ ending, death = some ending → i.result = none → (.command, ending) ∈ i.zombies
  command : ∀ ending, (.command, ending) ∈ i.zombies → death = some ending
  orphan : ∀ ending, (.orphan, ending) ∈ i.zombies → lost ending
  done : ∀ o, i.result = some (.ok o) → ∃ ending, death = some ending ∧ ending.outcome? = some o
  failed : ∀ errno, i.result = some (.error errno) → errno = .invalidArgument ∧
    ∃ ending, (death = some ending ∨ lost ending) ∧ ending.outcome? = none

theorem tended_start (lost : Ending → Prop) : Tended {} none lost where
  alive := rfl
  wakes := nofun
  kept := nofun
  command := nofun
  orphan := nofun
  done := nofun
  failed := nofun

@[simp] theorem zombies_raise (i : Init) (s : Signal) : (i.raise s).zombies = i.zombies := by
  unfold raise
  split <;> rfl

@[simp] theorem result_raise (i : Init) (s : Signal) : (i.raise s).result = i.result := by
  unfold raise
  split <;> rfl

@[simp] theorem commandAlive_raise (i : Init) (s : Signal) :
    (i.raise s).commandAlive = i.commandAlive := by
  unfold raise
  split <;> rfl

theorem pending_raise {i : Init} {s signal : Signal} (sent : s ∈ i.pending) :
    s ∈ (i.raise signal).pending := by
  unfold raise
  split
  · exact List.mem_append_left _ sent
  · exact sent

theorem chld_raise (i : Init) : .chld ∈ (i.raise .chld).pending := by
  unfold raise
  split
  · exact List.mem_append_right _ List.mem_cons_self
  · rename_i known
    simpa [watched] using known

theorem step_took (i : Init) (signal : Signal) :
    i.step (.took signal) =
      if i.result.isNone && i.pending.contains signal then
        some ({ i with pending := i.pending.erase signal }.handle signal)
      else none := rfl

theorem step_commandDied (i : Init) (ending : Ending) :
    i.step (.ended .command ending) =
      if i.commandAlive then some ({ i with commandAlive := false }.bury .command ending)
      else none := rfl

namespace Tended

theorem raise (tended : i.Tended death lost) (signal : Signal) :
    (i.raise signal).Tended death lost := by
  obtain ⟨alive, wakes, kept, command, orphan, done, failed⟩ := tended
  constructor <;> simp only [zombies_raise, result_raise, commandAlive_raise]
  · exact alive
  · exact fun some waiting => pending_raise (wakes some waiting)
  · exact kept
  · exact command
  · exact orphan
  · exact done
  · exact failed

theorem bury (tended : i.Tended death lost) {member : Member} {ending : Ending}
    {now : Option Ending} {commandAlive : Bool} (alive : commandAlive = now.isNone)
    (grown : ∀ other, death = some other → now = some other)
    (died : ∀ other, now = some other → death = some other ∨ member = .command ∧ ending = other)
    (command : member = .command → now = some ending) (orphan : member = .orphan → lost ending) :
    ({ i with commandAlive }.bury member ending).Tended now lost := by
  unfold Init.bury
  constructor <;> simp only [zombies_raise, result_raise, commandAlive_raise]
  · exact alive
  · exact fun _ _ => chld_raise _
  · intro other dead waiting
    rcases died other dead with before | ⟨rfl, rfl⟩
    · exact List.mem_append_left _ (tended.kept other before waiting)
    · exact List.mem_append_right _ List.mem_cons_self
  · intro other member'
    rcases List.mem_append.mp member' with before | new
    · exact grown other (tended.command other before)
    · obtain ⟨rfl, rfl⟩ := Prod.mk.inj (List.mem_singleton.mp new)
      exact command rfl
  · intro other member'
    rcases List.mem_append.mp member' with before | new
    · exact tended.orphan other before
    · obtain ⟨rfl, rfl⟩ := Prod.mk.inj (List.mem_singleton.mp new)
      exact orphan rfl
  · intro o result
    obtain ⟨other, dead, named⟩ := tended.done o result
    exact ⟨other, grown other dead, named⟩
  · intro errno result
    obtain ⟨same, other, dead | gone, none⟩ := tended.failed errno result
    · exact ⟨same, other, Or.inl (grown other dead), none⟩
    · exact ⟨same, other, Or.inr gone, none⟩

/-- Reaping leaves no dead behind, and finds out how the command ended if it has. -/
theorem reap (tended : i.Tended death lost) (waits : i.result = none) (pending : List Signal) :
    ({ i with pending }.reap).Tended death lost := by
  unfold Init.reap
  rcases drained : drain none i.zombies with ⟨result, rest⟩
  cases result with
  | error errno =>
    obtain ⟨same, member, ending, found, none⟩ := drain_error drained
    refine ⟨tended.alive, nofun, nofun, ?_, ?_, nofun, ?_⟩
    · exact fun other left => tended.command other (subset_of_drain drained left)
    · exact fun other left => tended.orphan other (subset_of_drain drained left)
    · rintro _ ⟨⟩
      refine ⟨same, ending, ?_, none⟩
      cases member with
      | command => exact Or.inl (tended.command ending found)
      | orphan => exact Or.inr (tended.orphan ending found)
  | ok found =>
    obtain ⟨rfl, ⟨rfl, absent⟩ | ⟨ending, o, dead, named, rfl⟩⟩ := drain_ok drained
    · refine ⟨tended.alive, nofun, ?_, nofun, nofun, nofun, nofun⟩
      exact fun ending dead _ => absurd (tended.kept ending dead waits) (absent ending)
    · refine ⟨tended.alive, nofun, nofun, nofun, nofun, ?_, nofun⟩
      rintro _ ⟨⟩
      exact ⟨ending, tended.command ending dead, named⟩

theorem sent (tended : i.Tended death lost) {signal : Signal}
    (step : i.step (.sent signal) = some j) : j.Tended death lost := by
  cases step
  exact tended.raise signal

theorem took (tended : i.Tended death lost) {signal : Signal}
    (step : i.step (.took signal) = some j) : j.Tended death lost := by
  rw [step_took] at step
  split at step
  · rename_i guard
    simp only [Bool.and_eq_true, Option.isNone_iff_eq_none] at guard
    cases step
    unfold handle
    by_cases wake : signal = .chld
    · rw [if_pos wake]
      exact tended.reap guard.1 _
    · rw [if_neg wake]
      obtain ⟨alive, wakes, kept, command, orphan, done, failed⟩ := tended
      refine ⟨alive, ?_, kept, command, orphan, done, failed⟩
      intro some waiting
      exact (List.mem_erase_of_ne (Ne.symm wake)).mpr (wakes some waiting)
  · cases step

theorem commandDied (tended : i.Tended none lost) {ending : Ending}
    (step : i.step (.ended .command ending) = some j) : j.Tended (some ending) lost := by
  rw [step_commandDied] at step
  split at step
  · cases step
    refine tended.bury rfl nofun ?_ (fun _ => rfl) nofun
    rintro _ ⟨⟩
    exact Or.inr ⟨rfl, rfl⟩
  · cases step

theorem orphanDied (tended : i.Tended death lost) {ending : Ending} (gone : lost ending)
    (step : i.step (.ended .orphan ending) = some j) : j.Tended death lost := by
  cases step
  exact tended.bury tended.alive (fun _ => id) (fun _ => Or.inl) nofun (fun _ => gone)

end Tended

/-! ### Waking -/

theorem mem_all (signal : Signal) : signal ∈ Signal.all := by
  cases signal <;> decide

theorem exists_took (waits : i.result = none) {sent : Signal} (pending : sent ∈ i.pending) :
    ∃ signal j, i.next? = some signal ∧ i.step (.took signal) = some j := by
  have found : i.next?.isSome := List.find?_isSome.mpr
    ⟨sent, mem_all sent, List.contains_iff_mem.mpr pending⟩
  obtain ⟨signal, first⟩ := Option.isSome_iff_exists.mp found
  have waiting : i.pending.contains signal := List.find?_some first
  have free : (i.result.isNone && i.pending.contains signal) = true := by
    rw [waits, waiting]
    rfl
  exact ⟨signal, _, first, (step_took i signal).trans (if_pos free)⟩

end Init

namespace Child

variable {w : Setting} {s t : State}

/-- How the command of a setting ends, if it is executed and ends by itself. -/
def Setting.commandEnding (w : Setting) : Ending :=
  match w.host.start .command w.command.launch with
  | .ok program => program.ending
  | .error errno => .exited errno.execCode

def orphan? : Act → Option Ending
  | .orphan ending => some ending
  | _ => none

def Setting.orphans (w : Setting) : List Ending :=
  match w.host.start .command w.command.launch with
  | .ok program => program.script.filterMap orphan?
  | .error _ => []

/-- How the process ends that an init forks for the command. It exits if it cannot get its signals
back. -/
def Setting.forkedEnding (w : Setting) : Ending :=
  match w.host.init.restoreSignals with
  | some _ => .exited ExitAction.failureCode
  | none => w.commandEnding

def CommandPhase.death (w : Setting) : CommandPhase → Option Ending
  | .ended => some w.forkedEnding
  | _ => none

/-- A command that runs is the one that was asked for, and has its signals back. -/
def CommandPhase.Runs (w : Setting) : CommandPhase → Prop
  | .running script ending => w.host.init.restoreSignals = none ∧
      ∃ program, w.host.start .command w.command.launch = .ok program ∧
        ending = program.ending ∧ script <:+ program.script
  | _ => True

def Phase.Tended (w : Setting) : Phase → Prop
  | .supervising init command orphans =>
    init.Tended (command.death w) (· ∈ w.orphans) ∧ command.Runs w ∧ ∀ o ∈ orphans, o ∈ w.orphans
  | .reporting o => w.forkedEnding.outcome? = some o
  | .running ending => ∃ program, w.host.start .command w.command.launch = .ok program ∧
      ending = program.ending
  | _ => True

theorem commandEnding_of_ok {program : Program}
    (found : w.host.start .command w.command.launch = .ok program) :
    w.commandEnding = program.ending := by
  unfold Setting.commandEnding
  rw [found]

theorem commandEnding_of_error {errno : Errno}
    (failed : w.host.start .command w.command.launch = .error errno) :
    w.commandEnding = .exited errno.execCode := by
  unfold Setting.commandEnding
  rw [failed]

theorem forkedEnding_of_restored (restored : w.host.init.restoreSignals = none) :
    w.forkedEnding = w.commandEnding := by
  unfold Setting.forkedEnding
  rw [restored]

theorem forkedEnding_of_unrestored {errno : Errno}
    (failed : w.host.init.restoreSignals = some errno) :
    w.forkedEnding = .exited ExitAction.failureCode := by
  unfold Setting.forkedEnding
  rw [failed]

theorem mem_orphans {program : Program} {orphan : Ending} {script : List Act}
    (found : w.host.start .command w.command.launch = .ok program)
    (left : .orphan orphan :: script <:+ program.script) : orphan ∈ w.orphans := by
  unfold Setting.orphans
  rw [found]
  exact List.mem_filterMap.mpr ⟨.orphan orphan, left.subset List.mem_cons_self, rfl⟩

theorem death_eq_some {command : CommandPhase} {ending : Ending}
    (dead : command.death w = some ending) : command = .ended ∧ ending = w.forkedEnding := by
  cases command with
  | ended => exact ⟨rfl, (Option.some.inj dead).symm⟩
  | _ => cases dead

theorem tended_of_move (tended : s.phase.Tended w) (move : Move w s t) : t.phase.Tended w := by
  cases move with
  | executed program here found => exact ⟨program, found, rfl⟩
  | forked here => exact ⟨Init.tended_start _, trivial, nofun⟩
  | concluded init command orphans o here done =>
    rw [here] at tended
    obtain ⟨ending, dead, named⟩ := tended.1.done o done
    obtain ⟨-, rfl⟩ := death_eq_some dead
    exact named
  | took init command orphans signal next here waits first taken =>
    rw [here] at tended
    exact ⟨tended.1.took taken, tended.2⟩
  | executedBelow init orphans program here found restored =>
    rw [here] at tended
    exact ⟨tended.1, ⟨restored, program, found, rfl, List.suffix_refl _⟩, tended.2.2⟩
  | unexecutedBelow init orphans errno next here failed ended restored =>
    rw [here] at tended
    have died := tended.1.commandDied ended
    rw [← commandEnding_of_error failed, ← forkedEnding_of_restored restored] at died
    exact ⟨died, trivial, tended.2.2⟩
  | unrestored init orphans errno next here failed ended =>
    rw [here] at tended
    have died := tended.1.commandDied ended
    rw [← forkedEnding_of_unrestored failed] at died
    exact ⟨died, trivial, tended.2.2⟩
  | signalled init signal script ending orphans next here sent =>
    rw [here] at tended
    obtain ⟨init, ⟨restored, program, found, same, left⟩, orphans⟩ := tended
    exact ⟨init.sent sent, ⟨restored, program, found, same, (List.suffix_cons ..).trans left⟩,
      orphans⟩
  | orphaned init orphan script ending orphans here =>
    rw [here] at tended
    obtain ⟨init, ⟨restored, program, found, same, left⟩, known⟩ := tended
    refine ⟨init, ⟨restored, program, found, same, (List.suffix_cons ..).trans left⟩, ?_⟩
    intro o member
    rcases List.mem_append.mp member with before | new
    · exact known o before
    · rw [List.mem_singleton.mp new]
      exact mem_orphans found left
  | awaited init signal script ending orphans here passed =>
    rw [here] at tended
    obtain ⟨init, ⟨restored, program, found, same, left⟩, orphans⟩ := tended
    exact ⟨init, ⟨restored, program, found, same, (List.suffix_cons ..).trans left⟩, orphans⟩
  | commandEndedBelow init ending orphans next here ended =>
    rw [here] at tended
    obtain ⟨init, ⟨restored, program, found, rfl, left⟩, orphans⟩ := tended
    have died := init.commandDied ended
    rw [← commandEnding_of_ok found, ← forkedEnding_of_restored restored] at died
    exact ⟨died, trivial, orphans⟩
  | orphanEnded init command orphans index ending next here found ended =>
    rw [here] at tended
    have known := tended.2.2 ending (List.mem_of_getElem? found)
    refine ⟨tended.1.orphanDied known ended, tended.2.1, ?_⟩
    exact fun o member => tended.2.2 o (List.mem_of_mem_eraseIdx member)
  | released =>
    simp only [State.goto]
    split <;> trivial
  | _ => trivial

end Child

/-- What holds of a child as long as it supervises a command, whatever else happens. -/
theorem Run.tended {w : Run.Setting} {s : Run.State} (reached : Run.Reachable w s) :
    s.phase.Tended w.toSetting :=
  Run.phase_induction trivial (fun _ => trivial) (fun _ _ _ _ => trivial)
    (fun _ _ => Child.tended_of_move) reached

end NamespaceEntry
