import NamespaceEntry.Proofs.Init.Chronicles

/-!
# Orphans

An init reaps whoever dies below it. An orphan whose ending has an outcome is reaped and forgotten.
One that has none fails the reaping, and the init is then done, whether its command has died or
not. So the outcome of the command comes out if everybody has one, and it does not come out
otherwise.
-/

namespace NamespaceEntry.Init

open Loop

variable {h : List Happening} {l k : Loop}

/-! ### Left to itself -/

/-- Whoever has died without an outcome is still to be reaped, if there is no result. -/
theorem exists_zombie (past : Past h l) (waits : l.init.result = none) {member : Member}
    {ending : Ending} (died : .died member ending ∈ h) (nameless : ending.outcome? = none) :
    (member, ending) ∈ l.init.zombies := by
  rcases ((buried past).accounted member ending).mp died with dead | reaped
  · exact dead
  · have failed := (error_iff past (harmless_of_waits past waits)).mpr
      ⟨rfl, member, ending, reaped, nameless⟩
    cases waits.symm.trans failed

theorem settles_of_named (past : Past h l) (harmless : Harmless h) (named : Named h)
    {ending : Ending} {o : Outcome} (died : .died .command ending ∈ h)
    (said : ending.outcome? = some o) : l.Settles (·.init.result = some (.ok o)) := by
  refine settles_of_past (fun _ => True) past trivial (fun _ _ _ _ _ _ => trivial) ?_
  intro more l alone _ still
  have past := alone.past
  have harmless := alone.harmless harmless
  have died := (alone.mem_iff id).mpr died
  cases result : l.init.result with
  | none =>
    have alive := (idle_of_still (past.reachable harmless) still result).2
    cases alive.symm.trans ((buried past).alive.mpr ⟨ending, died⟩)
  | some r =>
    cases r with
    | error errno =>
      exact absurd result (ne_error_of_named past harmless (alone.named named) errno)
    | ok o' => rw [ended_unique past died said ((judged past).done o' result)]

/-- As long as someone without an outcome is to be reaped, the init can only fail. -/
theorem settles_of_nameless (past : Past h l) (waits : l.init.result = none) {member : Member}
    {ending : Ending} (died : .died member ending ∈ h) (nameless : ending.outcome? = none) :
    l.Settles (·.init.result = some (.error .invalidArgument)) := by
  have harmless := harmless_of_waits past waits
  refine settles_of_past (fun l => ∀ o, l.init.result ≠ some (.ok o)) past (by simp [waits]) ?_ ?_
  · intro more l k alone unsaid step
    cases step with
    | done i found empty =>
      have waits := (judged alone.past).busy found rfl
      have dead := exists_zombie alone.past waits ((alone.mem_iff id).mpr died) nameless
      rw [empty] at dead
      cases dead
    | failed => exact nofun
    | _ => exact unsaid
  · intro more l alone unsaid still
    have past := alone.past
    have harmless := alone.harmless harmless
    cases result : l.init.result with
    | none =>
      have nobody := (idle_of_still (past.reachable harmless) still result).1
      have dead := exists_zombie past result ((alone.mem_iff id).mpr died) nameless
      rw [nobody] at dead
      cases dead
    | some r =>
      cases r with
      | ok o => exact absurd result (unsaid o)
      | error errno => rw [((error_iff past harmless).mp result).1]

/-! ### When the outcome comes out -/

/-- In a run in which the process forked for the command and its orphans end with outcomes, the init
can only give the outcome of this process, and only after its end. -/
theorem result_of_chronicle {w : Child.Setting} {i : Init} {command : Child.CommandPhase}
    (c : Child.Chronicle w h i command) {o : Outcome} (said : w.forkedEnding.outcome? = some o)
    (named : ∀ ending ∈ w.orphans, ending.outcome? ≠ none) {r : Except Errno Outcome}
    (result : i.result = some r) : r = .ok o ∧ command = .ended := by
  cases r with
  | ok o' =>
    obtain ⟨ending, died, said'⟩ := (judged c.past).done o' result
    obtain ⟨ended, rfl⟩ := Child.death_eq_some ((c.died ending).mp died)
    rw [said] at said'
    exact ⟨congrArg Except.ok (Option.some.inj said').symm, ended⟩
  | error errno =>
    have all : Named h := by
      intro member ending died nameless
      cases member with
      | orphan => exact named ending (c.left ending died) nameless
      | command =>
        obtain ⟨-, rfl⟩ := Child.death_eq_some ((c.died ending).mp died)
        cases nameless.symm.trans said
    exact absurd result (ne_error_of_named c.past c.harmless all errno)

/-- Whatever dies in whatever order, an outcome is that of the command and comes after its death,
and the init fails just when it has reaped someone without an outcome. It settles for the outcome
of its command if everybody who has died has one, and for the failure as soon as someone has none,
even if the command lives on. The init of every run has such a history, and gives the outcome of
the command or nothing yet if the orphans that its command can leave end with outcomes. -/
theorem outcome_unless_nameless (h : List Happening) (l : Loop) (past : Past h l)
    (harmless : Harmless h) :
    (∀ o, l.init.result = some (.ok o) →
      ∃ ending, (∀ other, .died .command other ∈ h ↔ other = ending) ∧
        ending.outcome? = some o) ∧
    (∀ errno, l.init.result = some (.error errno) ↔ errno = .invalidArgument ∧
      ∃ member ending, .reaped member ending ∈ h ∧ ending.outcome? = none) ∧
    (∀ ending o, Named h → .died .command ending ∈ h → ending.outcome? = some o →
      l.Settles (·.init.result = some (.ok o))) ∧
    (∀ member ending, l.init.result = none → .died member ending ∈ h → ending.outcome? = none →
      l.Settles (·.init.result = some (.error .invalidArgument))) ∧
    (∀ (w : Run.Setting) (s : Run.State) (i : Init) (command : Child.CommandPhase)
      (orphans : List Ending), Run.Reachable w s → s.phase = .supervising i command orphans →
      (∃ h, Child.Chronicle w.toSetting h i command) ∧
      (∀ o r, w.forkedEnding.outcome? = some o → (∀ ending ∈ w.orphans, ending.outcome? ≠ none) →
        i.result = some r → r = .ok o ∧ command = .ended)) := by
  refine ⟨?_, fun _ => error_iff past harmless, ?_, ?_, ?_⟩
  · intro o result
    obtain ⟨ending, died, said⟩ := (judged past).done o result
    refine ⟨ending, fun other => ⟨?_, ?_⟩, said⟩
    · exact fun again => (buried past).alone other ending again died
    · rintro rfl
      exact died
  · exact fun ending o named died said => settles_of_named past harmless named died said
  · exact fun member ending waits died nameless => settles_of_nameless past waits died nameless
  · intro w s i command orphans reached here
    obtain ⟨h, c⟩ := Run.exists_chronicle reached here
    exact ⟨⟨h, c⟩, fun o r said named => result_of_chronicle c said named⟩

def bereaved : Loop :=
  ⟨{ pending := [.chld]
     zombies := [(.orphan, .killed 9), (.command, .exited 3), (.orphan, .exited 0)]
     commandAlive := false }, .waiting⟩

def haunted : Loop := ⟨{ pending := [.chld], zombies := [(.orphan, .killed 34)] }, .waiting⟩

theorem outcome_unless_nameless_bereaved :
    bereaved.Settles (·.init.result = some (.ok (.exited 3))) ∧
      haunted.Settles (·.init.result = some (.error .invalidArgument)) := by
  have first : Past [.died .orphan (.killed 9), .died .command (.exited 3),
      .died .orphan (.exited 0)] bereaved :=
    ((Past.start.step (.died .orphan (.killed 9) _ rfl)).step
      (.died .command (.exited 3) _ rfl)).step (.died .orphan (.exited 0) _ rfl)
  have second : Past [.died .orphan (.killed 34)] haunted :=
    Past.start.step (.died .orphan (.killed 34) _ rfl)
  constructor
  · refine (outcome_unless_nameless _ _ first (by simp [Harmless])).2.2.1 (.exited 3) _ ?_
      (by simp) rfl
    intro member ending died
    simp only [List.mem_cons, Happening.died.injEq, List.not_mem_nil, or_false] at died
    rcases died with ⟨-, rfl⟩ | ⟨-, rfl⟩ | ⟨-, rfl⟩ <;> decide
  · exact (outcome_unless_nameless _ _ second (by simp [Harmless])).2.2.2.1 .orphan (.killed 34)
      rfl (by simp) rfl

/-- An orphan that dies of a real-time signal takes the outcome of a command that has exited with
it, and ends the wait for a command that lives. -/
theorem orphan_hides_outcome :
    (∃ i, [.ended .command (.exited 3), .ended .orphan (.killed 34), .took .chld].foldlM step {} =
      some i ∧ i.result = some (.error .invalidArgument)) ∧
    (∃ i, [.ended .orphan (.killed 34), .took .chld].foldlM step {} = some i ∧
      i.commandAlive = true ∧ i.result = some (.error .invalidArgument)) :=
  ⟨⟨_, rfl, rfl⟩, ⟨_, rfl, rfl, rfl⟩⟩

end NamespaceEntry.Init
