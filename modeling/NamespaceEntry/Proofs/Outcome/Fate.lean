import NamespaceEntry.Proofs.Handshake.Words
import NamespaceEntry.Proofs.Run.Execution
import NamespaceEntry.Proofs.Run.Settled

/-!
# The fate of a command

Once its child has been let go, an undisturbed run has one of three results: the outcome of the
command, the error of a wait for a command without an outcome, or the exit code of an init that
met a death without an outcome or a call that failed.
-/

namespace NamespaceEntry

namespace Child

variable {w : Setting} {s t : State}

/-- A child that was let go is about to try its command, or has tried it, or has lost its init. -/
def State.Heeds (s : State) : Prop :=
  s.phase.station = .released ∨ s.phase.station = .forked ∨ s.Attempted ∨ GaveUp s.trace

theorem State.Heeds.grown (heeds : s.Heeds) (earlier : s.trace <+: t.trace)
    (place : s.phase.station = .released ∨ s.phase.station = .forked →
      t.phase.station = s.phase.station) : t.Heeds := by
  rcases heeds with here | here | ⟨argv, tried⟩ | ⟨d, said, ofInit⟩
  · exact Or.inl ((place (Or.inl here)).trans here)
  · exact Or.inr (Or.inl ((place (Or.inr here)).trans here))
  · exact Or.inr (Or.inr (Or.inl ⟨argv, earlier.subset tried⟩))
  · exact Or.inr (Or.inr (Or.inr ⟨d, earlier.subset said, ofInit⟩))

theorem heeds_of_move (fresh : Fresh s)
    (letGo : s.phase.station = .below ∨ s.phase.station = .running → .goReceived ∈ s.trace)
    (heeds : .goReceived ∈ s.trace → s.Heeds) (move : Move w s t)
    (released : .goReceived ∈ t.trace) : t.Heeds := by
  have kept (before : .goReceived ∈ s.trace) (past : s.phase.station ≠ .released ∧
      s.phase.station ≠ .forked) : t.Heeds :=
    (heeds before).grown (trace_of_move move) (by simp [past])
  by_cases born : s.phase = .inheriting
  · cases move with
    | inherited => exact kept released (by simp [born, Phase.station])
    | _ => simp_all
  cases turn_of_move fresh born move with
  | mounted here _ _ _ said =>
    exact kept (by simpa [said] using released) (by simp [here, Phase.station])
  | unmounted here _ _ _ d said | unheard here _ _ _ d said | refused here _ _ _ d said
  | announced here _ _ _ said =>
    exact kept (by simpa [said] using released) (by simp [here, Phase.station])
  | released _ after => exact Or.inl after
  | forked _ after => exact Or.inr (Or.inl after)
  | attempted _ _ _ done => exact Or.inr (Or.inr (Or.inl done))
  | untried _ _ errno _ _ d said told =>
    refine Or.inr (Or.inr (Or.inr ⟨d, by simp [said], ?_⟩))
    rcases told with rfl | rfl <;> rfl
  | toiled here =>
    refine kept (letGo here) ?_
    rcases here with here | here <;> simp [here]
  | reported o here | unreported o e here =>
    have below : s.phase.station = .below := by rw [here]; rfl
    exact kept (letGo (Or.inl below)) (by simp [below])

end Child

namespace Run

open Child (started unstarted Told)

variable {w : Setting} {s t : State} {left : List Event} {r : Except Error Outcome}

/-- Why an init gives up, or the process that it has forked before it becomes the command, by what
is printed. -/
inductive Loss (w : Setting) (trace : List Event) : Diagnostic → Prop where
  | nameless (tried : .execAttempted w.command.argv ∈ trace) (ending : Ending)
      (dead : ending = w.toSetting.commandEnding ∨ ending ∈ w.toSetting.orphans)
      (nameless : ending.outcome? = none) : Loss w trace (.initFailed (.system .invalidArgument))
  | interrupted (errno : Errno) (interrupts : w.host.init.Interrupts errno) :
      Loss w trace (.initFailed (.system errno))
  | unforked (errno : Errno) (failed : w.host.init.unforked? = some errno)
      (untried : .execAttempted w.command.argv ∉ trace) :
      Loss w trace (.initFailed (.system errno))
  | unrestored (errno : Errno) (failed : w.host.init.restoreSignals = some errno)
      (untried : .execAttempted w.command.argv ∉ trace) : Loss w trace (.maskKept errno)

theorem Loss.gaveUp {trace : List Event} {d : Diagnostic} (why : Loss w trace d)
    (said : .diagnostic d ∈ trace) : GaveUp trace :=
  ⟨d, said, by cases why <;> rfl⟩

/-- The results of a run whose child was let go, by what the run has left in its trace. -/
inductive Fate (w : Setting) (trace : List Event) : Except Error Outcome → Prop where
  | outcome (tried : .execAttempted w.command.argv ∈ trace) (o : Outcome)
      (named : w.toSetting.commandEnding.outcome? = some o) (well : ¬GaveUp trace) :
      Fate w trace (.ok o)
  | nameless (tried : .execAttempted w.command.argv ∈ trace) (direct : w.namespaces.pid = false)
      (nameless : w.toSetting.commandEnding.outcome? = none) (well : ¬GaveUp trace) :
      Fate w trace (.error (.wait (.failed w.childId .invalidArgument)))
  | lost (below : w.namespaces.pid = true) (d : Diagnostic) (said : .diagnostic d ∈ trace)
      (why : Loss w trace d) : Fate w trace (.ok (.exited ExitAction.failureCode))

/-! ### What is told -/

theorem reports_deeds (trace : List Event) : reports (deeds trace) = reports trace := by
  unfold reports deeds
  rw [List.filterMap_filter]
  congr 1
  funext event
  cases event <;> rfl

theorem reports_told {w : Child.Setting} {command : Child.CommandPhase} {told : List Event}
    (tale : Told w command told) : reports told = [] := by
  cases tale <;> rfl

/-! ### After the child was let go -/

theorem letGo_of_attempted (reached : Reachable w s)
    (attempted : .execAttempted w.command.argv ∈ s.trace) : .goReceived ∈ s.trace := by
  obtain ⟨left, c⟩ := coherent reached
  exact c.letGo_iff.mpr (by simp [c.attempted_iff.mp attempted])

/-- A mapper is asked only for a child that has not been let go. -/
theorem not_letGo_of_asked (c : Coherent w s left) {kind : IdKind} {rest : List IdKind}
    (here : s.parent = .mapping (kind :: rest)) : .goReceived ∉ (asked w s kind).trace := by
  intro released
  have few := c.letGo_iff.mp (mem_of_asked released (by simp) (by simp))
  rw [(c.left_of_mapping here).2.1, List.length_append, length_closing] at few
  omega

theorem heeds (reached : Undisturbed w s) : .goReceived ∈ s.trace → s.toState.Heeds := by
  refine reached.invariant (P := fun s => .goReceived ∈ s.trace → s.toState.Heeds) nofun ?_
  intro s t reached heeds move released
  obtain ⟨left, c⟩ := coherent reached.reachable
  have earlier := trace_of_move move
  cases move with
  | inner child move =>
    exact Child.heeds_of_move c.fresh (fun place => c.letGo_of_station (Or.inr (Or.inr place)))
      heeds move released
  | mapped kind rest here =>
    exact absurd (by simpa [State.next, State.note, Child.State.log] using released)
      (not_letGo_of_asked c here)
  | unmapped kind rest e here => exact absurd released (not_letGo_of_asked c here)
  | cloned here =>
    have few := c.letGo_iff.mp released
    have whole : left = protocol w := by
      have stage := c.child
      rw [c.cloned here] at stage
      exact stage
    rw [whole, length_protocol] at few
    omega
  | _ =>
    have before : .goReceived ∈ s.trace := by
      simpa [State.next, State.note, State.drop, Child.State.log] using released
    exact (heeds before).grown earlier fun _ => rfl

/-! ### The three fates -/

/-- A run whose child was let go has waited for its end. -/
theorem reaped_of_letGo (reached : Undisturbed w s) (done : s.parent = .finished r)
    (released : .goReceived ∈ s.trace) :
    ∃ ending, s.phase = .ended ending ∧
      r = resultOf (reports (deeds s.trace)).head? (waited w ending) := by
  obtain ⟨left, c, how⟩ := settled reached.reachable done
  have few := c.letGo_iff.mp released
  cases how with
  | uncloned errno failed unborn whole =>
    rw [whole, length_protocol] at few
    omega
  | aborted cause ending ended because =>
    have many := because.many
    omega
  | reaped ending ended => exact ⟨ending, ended, by rw [reports_deeds]⟩

theorem story_of_letGo (reached : Undisturbed w s) (done : s.parent = .finished r)
    (released : .goReceived ∈ s.trace) :
    ∃ ending told, Child.Story w.toSetting (Kills w) (.ended ending) told ∧
      (.execAttempted w.command.argv ∈ told ∨ GaveUp told) ∧
      (∀ event, event.isDeed = true → (event ∈ told ↔ event ∈ s.trace)) ∧
      r = resultOf (reports told).head? (waited w ending) := by
  obtain ⟨ending, ended, rfl⟩ := reaped_of_letGo reached done released
  have story := story reached
  rw [ended] at story
  refine ⟨ending, _, story, ?_, fun event deed => mem_deeds deed, rfl⟩
  rcases heeds reached released with here | here | ⟨argv, tried⟩ | ⟨d, said, ofInit⟩
  · simp [ended, Child.Phase.station] at here
  · simp [ended, Child.Phase.station] at here
  · rw [(executes reached.reachable).attempted _ tried] at tried
    exact Or.inl ((mem_deeds rfl).mpr tried)
  · exact Or.inr ⟨d, (mem_deeds rfl).mpr said, ofInit⟩

/-- A fate is decided by the deeds of the child's side. -/
theorem Loss.of_deeds {told trace : List Event} {d : Diagnostic}
    (seen : ∀ event, event.isDeed = true → (event ∈ told ↔ event ∈ trace)) (why : Loss w told d) :
    Loss w trace d := by
  cases why with
  | nameless tried ending dead nameless =>
    exact .nameless ((seen _ rfl).mp tried) ending dead nameless
  | interrupted errno interrupts => exact .interrupted errno interrupts
  | unforked errno failed untried => exact .unforked errno failed (mt (seen _ rfl).mpr untried)
  | unrestored errno failed untried => exact .unrestored errno failed (mt (seen _ rfl).mpr untried)

theorem Fate.of_deeds {told trace : List Event}
    (seen : ∀ event, event.isDeed = true → (event ∈ told ↔ event ∈ trace)) (fate : Fate w told r) :
    Fate w trace r := by
  have well (quiet : ¬GaveUp told) : ¬GaveUp trace :=
    fun ⟨d, member, ofInit⟩ => quiet ⟨d, (seen _ rfl).mpr member, ofInit⟩
  cases fate with
  | outcome tried o named quiet => exact .outcome ((seen _ rfl).mp tried) o named (well quiet)
  | nameless tried direct nameless quiet =>
    exact .nameless ((seen _ rfl).mp tried) direct nameless (well quiet)
  | lost below d said why => exact .lost below d ((seen _ rfl).mp said) (why.of_deeds seen)

/-- What is printed by an init that fails, or was printed by the forked process before. -/
theorem loss_of_initFails {command : Child.CommandPhase} {told : List Event} {errno : Errno}
    (tale : Told w.toSetting command told) (why : Child.InitFails w.toSetting command errno) :
    ∃ d, .diagnostic d ∈ told ++ [.diagnostic (.initFailed (.system errno))] ∧
      Loss w (told ++ [.diagnostic (.initFailed (.system errno))]) d := by
  cases why with
  | interrupted _ interrupts => exact ⟨_, by simp, .interrupted errno interrupts⟩
  | nameless alive ending dead nameless =>
    cases tale with
    | forked => exact absurd rfl alive
    | unrestored other failed => exact ⟨_, by simp, .unrestored other failed (by simp)⟩
    | running program script found restored | ended program found restored
    | unstarted other failed restored =>
      have same := Child.forkedEnding_of_restored restored
      have dead := dead.imp_left fun both => both.2.trans same
      exact ⟨_, by simp, .nameless (by simp [started, unstarted]) ending dead nameless⟩

theorem fate_of_reported {told : List Event} {o : Outcome} (forks : w.toSetting.Forks)
    (tale : Told w.toSetting .ended told) (named : w.toSetting.forkedEnding.outcome? = some o) :
    Fate w (told ++ [.reported o]) (.ok o) := by
  cases tale with
  | unrestored errno failed =>
    rw [Child.forkedEnding_of_unrestored failed] at named
    cases named
    exact .lost forks.1 _ (by simp) (.unrestored errno failed (by simp))
  | ended program found restored =>
    rw [Child.forkedEnding_of_restored restored] at named
    exact .outcome (by simp [started]) o named (by simp [GaveUp, started])
  | unstarted errno failed restored =>
    rw [Child.forkedEnding_of_restored restored] at named
    exact .outcome (by simp [unstarted]) o named (by simp [GaveUp, unstarted, Diagnostic.ofInit])

theorem fate_of_story {ending : Ending} {told : List Event}
    (story : Child.Story w.toSetting (Kills w) (.ended ending) told)
    (heeds : .execAttempted w.command.argv ∈ told ∨ GaveUp told) :
    Fate w told (resultOf (reports told).head? (waited w ending)) := by
  cases story with
  | early place => simp at place
  | stopped d cause => simp [GaveUp, cause] at heeds
  | killed signal cause => simp [GaveUp] at heeds
  | ran program direct found =>
    have same := Child.commandEnding_of_ok found
    have tried : .execAttempted w.command.argv ∈
        started w.toSetting false ++ [.commandEnded program.ending] := by simp [started]
    have well : ¬GaveUp (started w.toSetting false ++ [.commandEnded program.ending]) := by
      simp [GaveUp, started]
    cases named : program.ending.outcome? with
    | some o =>
      rw [resultOf_named named]
      exact .outcome tried o (same ▸ named) well
    | none =>
      rw [resultOf_nameless named]
      exact .nameless tried direct (same ▸ named) well
  | unstarted errno direct failed =>
    have same := Child.commandEnding_of_error failed
    rw [resultOf_named rfl]
    exact .outcome (by simp [unstarted]) _ (by rw [same]; rfl)
      (by simp [GaveUp, unstarted, Diagnostic.ofInit])
  | unforked errno below failed =>
    exact .lost below _ List.mem_cons_self (.unforked errno failed (by simp))
  | reported o told forks tale named =>
    rw [resultOf_named rfl, reports_append, reports_told tale]
    exact fate_of_reported forks tale named
  | initFailed command told errno forks tale why =>
    rw [resultOf_named rfl, reports_append, reports_told tale]
    obtain ⟨d, said, why⟩ := loss_of_initFails tale why
    exact .lost forks.1 d said why

theorem fate (reached : Undisturbed w s) (done : s.parent = .finished r)
    (released : .goReceived ∈ s.trace) : Fate w s.trace r := by
  obtain ⟨ending, told, story, heeds, seen, rfl⟩ := story_of_letGo reached done released
  exact (fate_of_story story heeds).of_deeds seen

/-! ### Commands that have ended or are running -/

theorem told_of_ended {w : Child.Setting} {command : Child.CommandPhase} {told : List Event}
    {ending : Ending} (tale : Told w command told) (ended : .commandEnded ending ∈ told) :
    command = .ended ∧ ending = w.commandEnding ∧ .execAttempted w.command.argv ∈ told := by
  cases tale with
  | ended program found =>
    rw [Child.commandEnding_of_ok found]
    simpa [started] using ended
  | _ => simp [started, unstarted] at ended

/-- A command that has ended is the one that was asked for, and it runs no more. -/
theorem story_of_ended {w : Child.Setting} {kills : Nat → Prop} {phase : Child.Phase}
    {told : List Event} {ending : Ending} (story : Child.Story w kills phase told)
    (ended : .commandEnded ending ∈ told) :
    ending = w.commandEnding ∧ .execAttempted w.command.argv ∈ told ∧
      ∀ init script e orphans, phase ≠ .supervising init (.running script e) orphans := by
  cases story with
  | ran program direct found =>
    rw [Child.commandEnding_of_ok found]
    have same : ending = program.ending := by simpa [started] using ended
    exact ⟨same, by simp [started], by rintro _ _ _ _ ⟨⟩⟩
  | supervising init command orphans told forks tale =>
    obtain ⟨rfl, same, tried⟩ := told_of_ended tale ended
    exact ⟨same, tried, by rintro _ _ _ _ ⟨⟩⟩
  | reporting o told forks tale named =>
    obtain ⟨-, same, tried⟩ := told_of_ended tale ended
    exact ⟨same, tried, by rintro _ _ _ _ ⟨⟩⟩
  | reported o told forks tale named =>
    obtain ⟨-, same, tried⟩ := told_of_ended tale (by simpa using ended)
    exact ⟨same, List.mem_append_left _ tried, by rintro _ _ _ _ ⟨⟩⟩
  | initFailed command told errno forks tale =>
    obtain ⟨-, same, tried⟩ := told_of_ended tale (by simpa using ended)
    exact ⟨same, List.mem_append_left _ tried, by rintro _ _ _ _ ⟨⟩⟩
  | _ => simp [started, unstarted] at ended

theorem commandEnded (reached : Undisturbed w s) {ending : Ending}
    (ended : .commandEnded ending ∈ s.trace) :
    ending = w.toSetting.commandEnding ∧ .execAttempted w.command.argv ∈ s.trace ∧ ¬s.Awaits := by
  obtain ⟨same, tried, stopped⟩ := story_of_ended (story reached) ((mem_deeds rfl).mpr ended)
  refine ⟨same, (mem_deeds rfl).mp tried, ?_⟩
  rintro ⟨init, signal, script, e, orphans, here, -⟩
  exact stopped init _ e orphans here

theorem started_of_awaits (reached : Undisturbed w s) (waits : s.Awaits) :
    (∃ program, w.host.start .command w.command.launch = .ok program ∧
      ∃ signal, .await signal ∈ program.script) ∧ w.namespaces.pid = true ∧
      .execAttempted w.command.argv ∈ s.trace ∧
      .commandStarted w.command.launch true ∈ s.trace := by
  obtain ⟨init, signal, script, ending, orphans, here, -⟩ := waits
  have story := story reached
  have tended := tended reached.reachable
  rw [here] at story tended
  obtain ⟨forks, tale⟩ := Child.forks_of_supervising story
  obtain ⟨-, ⟨-, program, found, -, left⟩, -⟩ := tended
  refine ⟨⟨program, found, signal, left.subset List.mem_cons_self⟩, forks.1, ?_⟩
  have told {event : Event} (deed : event.isDeed = true) (member : event ∈ deeds s.trace) :
      event ∈ s.trace := (mem_deeds deed).mp member
  generalize deeds s.trace = said at tale told
  cases tale with
  | running program script found =>
    exact ⟨told rfl (by simp [started]), told rfl (by simp [started])⟩

theorem started_of_reaped (reached : Undisturbed w s) (done : s.parent = .finished r)
    (attempted : .execAttempted w.command.argv ∈ s.trace) {program : Program}
    (found : w.host.start .command w.command.launch = .ok program) :
    .commandStarted w.command.launch w.namespaces.pid ∈ s.trace := by
  have released := letGo_of_attempted reached.reachable attempted
  obtain ⟨ending, told, story, -, seen, -⟩ := story_of_letGo reached done released
  have tried := (seen _ rfl).mpr attempted
  apply (seen _ rfl).mp
  have began : ∀ {command told}, Told w.toSetting command told →
      .execAttempted w.command.argv ∈ told → .commandStarted w.command.launch true ∈ told := by
    intro command told tale tried
    cases tale with
    | unstarted errno failed => cases found.symm.trans failed
    | forked => cases tried
    | unrestored => simp at tried
    | _ => simp [started]
  cases story with
  | early place => simp at place
  | stopped d cause => simp at tried
  | killed signal cause => simp at tried
  | unforked errno => simp at tried
  | ran program direct found => rw [direct]; simp [started]
  | unstarted errno direct failed => cases found.symm.trans failed
  | reported o told forks tale named =>
    rw [forks.1]
    exact List.mem_append_left _ (began tale (by simpa using tried))
  | initFailed command told errno forks tale =>
    rw [forks.1]
    exact List.mem_append_left _ (began tale (by simpa using tried))

/-! ### Runs that come to an end -/

/-- Nothing keeps a run from its end: its command has ended, or is not one that waits for its
init. -/
def Unhindered (w : Setting) (s : State) : Prop :=
  (∃ ending, .commandEnded ending ∈ s.trace) ∨
    ∀ program, w.host.start .command w.command.launch = .ok program → w.namespaces.pid = true →
      ∀ signal, .await signal ∉ program.script

theorem Unhindered.of_move (free : Unhindered w s) (move : Move w s t) : Unhindered w t := by
  rcases free with ⟨ending, ended⟩ | patient
  · exact Or.inl ⟨ending, (trace_of_move move).subset ended⟩
  · exact Or.inr patient

theorem Unhindered.not_awaits (free : Unhindered w s) (reached : Undisturbed w s) : ¬s.Awaits := by
  rcases free with ⟨ending, ended⟩ | patient
  · exact (commandEnded reached ended).2.2
  · intro waits
    obtain ⟨⟨program, found, signal, awaits⟩, below, -⟩ := started_of_awaits reached waits
    exact patient program found below signal awaits

/-- An undisturbed run that nothing keeps from its end has a result in the end. -/
theorem inevitably_done (reached : Undisturbed w s) (free : Unhindered w s) :
    Inevitably w (fun t => Undisturbed w t ∧ ∃ r, t.parent = .finished r) s := by
  have finished := inevitably_finished (fun _ _ free move => Unhindered.of_move free move)
    (fun _ reached free => free.not_awaits reached) reached free
  exact finished.mono fun t done => ⟨done.1, done.2.2⟩

end Run

end NamespaceEntry
