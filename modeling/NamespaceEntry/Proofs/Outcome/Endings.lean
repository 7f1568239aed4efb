import NamespaceEntry.Conclusion
import NamespaceEntry.Proofs.Channel.Recognition
import NamespaceEntry.Proofs.Outcome.Programs
import NamespaceEntry.Proofs.Run.Completion

/-!
# The program ends as its command did

An exit code goes through a report, an outcome and an exit action before the program ends with
it, and so does a signal. `EndsAsCommand` says what comes out at the end of the chain, for every
subcommand and every order of the steps. What an init cannot pass on is a death that has no
outcome, and that one of its calls has failed.
-/

namespace NamespaceEntry

/-! ### Mirroring an ending -/

/-- A program ends with the exit code of its command, or dies of the same signal if that is one
that terminates; of any other death it makes a failure. -/
def Mirrors : Ending → Ending → Prop
  | .exited code, program => program = .exited code
  | .killed number, program =>
    (∀ signal : Signal, signal.number = number → signal.terminates = true →
      program = .killed number) ∧
    ((∀ signal : Signal, signal.number = number → signal.terminates = false) →
      program = .exited 125)

theorem mirrors_of_named {command : Ending} {o : Outcome} (named : command.outcome? = some o) :
    Mirrors command (ExitAction.ofOutcome o).ending := by
  cases command with
  | exited code =>
    cases named
    rfl
  | killed number =>
    obtain ⟨signal, known, rfl⟩ := Option.map_eq_some_iff.mp named
    have same := Signal.ofNumber?_eq_some_iff.mp known
    constructor
    · intro other number' terminates
      have one : other = signal := by
        rw [Signal.ofNumber?_eq_some_iff.mpr number'] at known
        exact Option.some.inj known
      rw [one] at terminates
      rw [ExitAction.ofOutcome, ExitAction.ending, if_pos terminates, same]
    · intro harmless
      rw [ExitAction.ofOutcome, ExitAction.ending, harmless signal same]
      rfl

theorem mirrors_of_nameless {command : Ending} (nameless : command.outcome? = none) :
    Mirrors command (.exited 125) := by
  cases command with
  | exited code => cases nameless
  | killed number =>
    refine ⟨?_, fun _ => rfl⟩
    intro signal same
    have known := Signal.ofNumber?_eq_some_iff.mpr same
    rw [Option.map_eq_none_iff.mp nameless] at known
    cases known

/-! ### Runs that come to a result -/

namespace Run

variable {w : Setting} {s : State} {r : Except Error Outcome}

def report (w : Setting) (s : State) : Report where
  trace := s.trace
  result := s.result?.map (·.mapError (⟨.run w.command, ·⟩))

/-- A run that nobody disturbs fails if its child was not let go. -/
theorem error_of_unreleased (spares : ∀ signal, ¬Kills w signal) (reached : Undisturbed w s)
    (done : s.parent = .finished r) (unreleased : .goReceived ∉ s.trace) :
    ∃ e, r = .error e := by
  obtain ⟨left, c, how⟩ := settled reached.reachable done
  cases how with
  | uncloned errno => exact ⟨_, rfl⟩
  | aborted cause ending => exact ⟨_, rfl⟩
  | reaped ending ended few =>
    by_cases mounts : w.host.mount w.namespaces w.procTarget = .ok ()
    · rcases (orderly ⟨mounts, spares⟩ reached).settled _ done with
        released | ⟨errno, failed⟩ | ⟨-, cause, end_, -, -, same⟩
      · exact absurd released unreleased
      · rw [unborn_of_uncloned failed reached.reachable] at ended
        cases ended
      · exact ⟨_, same⟩
    · have length := length_protocol w
      rw [c.left_of_unmounted reached.reachable mounts] at few
      omega

theorem cause_of_letGo (reached : Undisturbed w s) (done : s.parent = .finished r)
    (released : .goReceived ∈ s.trace) :
    (∃ e, .commandEnded e ∈ s.trace) ∨
      (∃ errno, w.host.start .command w.command.launch = .error errno ∧
        .execAttempted w.command.argv ∈ s.trace) ∨ GaveUp s.trace := by
  obtain ⟨ending, told, story, heeds, seen, -⟩ := story_of_letGo reached done released
  have gaveUp : GaveUp told → GaveUp s.trace :=
    fun ⟨d, said, ofInit⟩ => ⟨d, (seen _ rfl).mp said, ofInit⟩
  cases story with
  | early place => simp at place
  | stopped d cause => exact Or.inr (Or.inr (gaveUp (by simpa using heeds)))
  | killed signal cause => exact Or.inr (Or.inr (gaveUp (by simpa using heeds)))
  | unforked errno => exact Or.inr (Or.inr (gaveUp (by simpa using heeds)))
  | ran program direct found => exact Or.inl ⟨program.ending, (seen _ rfl).mp (by simp)⟩
  | unstarted errno direct failed =>
    exact Or.inr (Or.inl ⟨errno, failed, (seen _ rfl).mp (by simp [Child.unstarted])⟩)
  | initFailed command told errno =>
    exact Or.inr (Or.inr (gaveUp ⟨.initFailed (.system errno), by simp, rfl⟩))
  | reported o told forks tale named =>
    cases tale with
    | ended program found => exact Or.inl ⟨program.ending, (seen _ rfl).mp (by simp)⟩
    | unstarted errno failed =>
      exact Or.inr (Or.inl ⟨errno, failed, (seen _ rfl).mp (by simp [Child.unstarted])⟩)
    | unrestored errno => exact Or.inr (Or.inr (gaveUp ⟨.maskKept errno, by simp, rfl⟩))

theorem ending?_report {x : Ending} (ends : (report w s).ending? = some x) :
    ∃ r, s.parent = .finished r ∧ x = match r with
      | .ok o => (ExitAction.ofOutcome o).ending
      | .error _ => .exited 125 := by
  unfold report Report.ending? at ends
  cases done : s.result? with
  | none => simp [done] at ends
  | some r =>
    refine ⟨r, result?_eq_some.mp done, ?_⟩
    rw [done] at ends
    cases r <;> exact (Option.some.inj ends).symm

theorem exists_ending_iff :
    (∃ x, (report w s).ending? = some x) ↔ ∃ r, s.parent = .finished r := by
  constructor
  · rintro ⟨x, ends⟩
    obtain ⟨r, done, -⟩ := ending?_report ends
    exact ⟨r, done⟩
  · rintro ⟨r, done⟩
    unfold report Report.ending?
    rw [result?_eq_some.mpr done]
    exact ⟨_, rfl⟩

/-- The init of a run gave up, and the run returned its code as that of the command. -/
def InitLost (w : Setting) (r : Report) : Prop :=
  (∃ d, .diagnostic d ∈ r.trace ∧ Loss w r.trace d) ∧ r.result = some (.ok (.exited 125))

theorem initLost_of_loss (done : s.parent = .finished (.ok (.exited 125))) {d : Diagnostic}
    (said : .diagnostic d ∈ s.trace) (why : Loss w s.trace d) : InitLost w (report w s) := by
  refine ⟨⟨d, said, why⟩, ?_⟩
  rw [report, result?_eq_some.mpr done]
  rfl

theorem initLost_of_gaveUp (reached : Undisturbed w s) (done : s.parent = .finished r)
    (released : .goReceived ∈ s.trace) (gaveUp : GaveUp s.trace) :
    InitLost w (report w s) ∧ r = .ok (.exited 125) := by
  cases fate reached done released with
  | outcome _ o named well => exact absurd gaveUp well
  | nameless _ direct nameless well => exact absurd gaveUp well
  | lost below d said why => exact ⟨initLost_of_loss done said why, rfl⟩

theorem ending_of_commandEnded (reached : Undisturbed w s) (below : w.namespaces.pid = true)
    {x e : Ending} (ends : (report w s).ending? = some x) (ended : .commandEnded e ∈ s.trace) :
    (∃ o, e.outcome? = some o ∧ x = (ExitAction.ofOutcome o).ending) ∨
      InitLost w (report w s) ∧ x = .exited 125 := by
  obtain ⟨r, done, rfl⟩ := ending?_report ends
  obtain ⟨rfl, attempted, -⟩ := commandEnded reached ended
  cases fate reached done (letGo_of_attempted reached.reachable attempted) with
  | outcome _ o named => exact Or.inl ⟨o, named, rfl⟩
  | nameless _ direct => cases direct.symm.trans below
  | lost below d said why => exact Or.inr ⟨initLost_of_loss done said why, rfl⟩

theorem mirrors_of_commandEnded (reached : Undisturbed w s) (below : w.namespaces.pid = true)
    {x e : Ending} (ends : (report w s).ending? = some x) (ended : .commandEnded e ∈ s.trace) :
    Mirrors e x ∨ InitLost w (report w s) ∧ x = .exited 125 := by
  refine (ending_of_commandEnded reached below ends ended).imp_left ?_
  rintro ⟨o, named, rfl⟩
  exact mirrors_of_named named

theorem initLost_of_nameless (reached : Undisturbed w s) (below : w.namespaces.pid = true)
    {x e : Ending} (ends : (report w s).ending? = some x) (ended : .commandEnded e ∈ s.trace)
    (nameless : e.outcome? = none) : InitLost w (report w s) := by
  rcases ending_of_commandEnded reached below ends ended with ⟨o, named, -⟩ | ⟨lost, -⟩
  · cases nameless.symm.trans named
  · exact lost

theorem ending_of_unexecuted (reached : Undisturbed w s) (below : w.namespaces.pid = true)
    {x : Ending} (ends : (report w s).ending? = some x) {errno : Errno}
    (failed : w.host.start .command w.command.launch = .error errno)
    (attempted : .execAttempted w.command.argv ∈ s.trace) :
    x = .exited (if errno = .noEntry ∨ errno = .notDirectory then 127 else 126) ∨
      InitLost w (report w s) ∧ x = .exited 125 := by
  obtain ⟨r, done, rfl⟩ := ending?_report ends
  have code := Child.commandEnding_of_error failed
  cases fate reached done (letGo_of_attempted reached.reachable attempted) with
  | outcome _ o named =>
    rw [code] at named
    cases named
    rw [← execCode_eq]
    exact Or.inl rfl
  | nameless _ direct => cases direct.symm.trans below
  | lost below d said why => exact Or.inr ⟨initLost_of_loss done said why, rfl⟩

end Run

/-! ### What an invocation asks for -/

namespace Invocation

variable {h : Host} {id : ProcessId} {i : Invocation} {w : Run.Setting} {r : Report}

/-- The run that an invocation asks for, unless its arguments are refused. -/
def asked? (h : Host) (id : ProcessId) : Invocation → Option Run.Setting
  | .spawn .. => none
  | .nsexec argv =>
    (Command.make argv).toOption.map (.ofIsolation h id .plain (MappingTools.map h {}) ·)
  | .usernsexec tools ranges argv =>
    (IdMapping.ofTokens ranges).toOption.bind fun mapping =>
      (Command.make argv).toOption.map
        (.ofIsolation h id (.mapped mapping) (MappingTools.map h tools) ·)

/-- What carrying out an invocation can come to, or has come to so far: what is planned, or what a
run has come to in any other order of its steps. -/
inductive Comes (h : Host) (id : ProcessId) (i : Invocation) : Report → Prop where
  | planned : Comes h id i (i.carryOut h id)
  | scheduled {w : Run.Setting} {s : Run.State} (asks : i.asked? h id = some w)
      (opened : Run.unopened? w = none) (reached : Run.Undisturbed w s) :
      Comes h id i (Run.report w s)

theorem exists_of_asked (asks : i.asked? h id = some w) :
    ∃ isolation tools command,
      w = .ofIsolation h id isolation (MappingTools.map h tools) command ∧
      i.carryOut h id = runCommand w := by
  cases i with
  | spawn container binary => cases asks
  | nsexec argv =>
    cases made : Command.make argv with
    | error fault => simp [asked?, made, Except.toOption] at asks
    | ok command =>
      have same : Run.Setting.ofIsolation h id .plain (MappingTools.map h {}) command = w := by
        simpa [asked?, made, Except.toOption] using asks
      exact ⟨.plain, {}, command, same.symm, by rw [carryOut, runArguments, made, ← same]⟩
  | usernsexec tools ranges argv =>
    cases mapped : IdMapping.ofTokens ranges with
    | error cause => simp [asked?, mapped, Except.toOption] at asks
    | ok mapping =>
      cases made : Command.make argv with
      | error fault => simp [asked?, mapped, made, Except.toOption] at asks
      | ok command =>
        have same : Run.Setting.ofIsolation h id (.mapped mapping) (MappingTools.map h tools)
            command = w := by
          simpa [asked?, mapped, made, Except.toOption] using asks
        refine ⟨.mapped mapping, tools, command, same.symm, ?_⟩
        simp only [carryOut, mapped, runArguments, made, ← same]

theorem error_of_unasked (unasked : i.asked? h id = none)
    (runs : ∀ container binary, i ≠ .spawn container binary) :
    ∃ f, i.carryOut h id = { result := some (.error f) } := by
  cases i with
  | spawn container binary => exact absurd rfl (runs container binary)
  | nsexec argv =>
    cases made : Command.make argv with
    | error fault => exact ⟨_, by rw [carryOut, runArguments, made]; rfl⟩
    | ok command => simp [asked?, made, Except.toOption] at unasked
  | usernsexec tools ranges argv =>
    cases mapped : IdMapping.ofTokens ranges with
    | error cause => exact ⟨_, by simp only [carryOut, mapped]; rfl⟩
    | ok mapping =>
      cases made : Command.make argv with
      | error fault => exact ⟨_, by simp only [carryOut, mapped, runArguments, made]; rfl⟩
      | ok command => simp [asked?, mapped, made, Except.toOption] at unasked

theorem pid_of_asked (asks : i.asked? h id = some w) : w.namespaces.pid = true := by
  obtain ⟨isolation, tools, command, rfl, -⟩ := exists_of_asked asks
  cases isolation <;> rfl

theorem spares_of_asked (asks : i.asked? h id = some w) (signal : Nat) : ¬Run.Kills w signal := by
  obtain ⟨isolation, tools, command, rfl, -⟩ := exists_of_asked asks
  exact Run.spares_withTools (.ofIsolation h id isolation (MappingTools.map h tools) command) tools
    signal

theorem host_of_asked (asks : i.asked? h id = some w) : w.host = h := by
  obtain ⟨isolation, tools, command, rfl, -⟩ := exists_of_asked asks
  rfl

/-- An invocation that asks for a run is carried out by the run, unless it could not begin. -/
theorem carryOut_of_asked (asks : i.asked? h id = some w) :
    i.carryOut h id = Run.report w (Run.run w) ∨
      ∃ f, i.carryOut h id = { result := some (.error f) } := by
  obtain ⟨-, -, -, -, carried⟩ := exists_of_asked asks
  rw [carried, runCommand]
  cases Run.unopened? w with
  | none => exact Or.inl rfl
  | some cause => exact Or.inr ⟨_, rfl⟩

theorem run_of_comes (comes : i.Comes h id r) (asks : i.asked? h id = some w) :
    (∃ s, Run.Undisturbed w s ∧ r = Run.report w s) ∨
      ∃ f, r = { result := some (.error f) } := by
  cases comes with
  | planned => exact (carryOut_of_asked asks).imp_left (⟨_, Run.undisturbed_run w, ·⟩)
  | scheduled asks' opened reached =>
    obtain rfl := Option.some.inj (asks.symm.trans asks')
    exact Or.inl ⟨_, reached, rfl⟩

/-! ### Containers -/

theorem outcome_ofEnding (e : Ending) (dumped : Bool) :
    (∃ o, (ExitStatus.ofEnding e dumped).outcome = .ok o ∧ e.outcome? = some o) ∨
      ∃ fault, (ExitStatus.ofEnding e dumped).outcome = .error fault ∧ e.outcome? = none := by
  cases e with
  | exited code => exact Or.inl ⟨_, rfl, rfl⟩
  | killed number =>
    cases known : Signal.ofNumber? number with
    | none =>
      refine Or.inr ⟨.unknownSignal number, ?_, ?_⟩
      · simp only [ExitStatus.ofEnding, ExitStatus.outcome, known]
      · simp only [Ending.outcome?, known, Option.map_none]
    | some signal =>
      refine Or.inl ⟨.signaled signal, ?_, ?_⟩
      · simp only [ExitStatus.ofEnding, ExitStatus.outcome, known]
      · simp only [Ending.outcome?, known, Option.map_some]

theorem result_of_launched (id : ProcessId) {container : Container} {binary : Bytes}
    {status : ExitStatus}
    (launched : h.launch .container ⟨binary, container.arguments⟩ = .ok status) :
    ((spawn container binary).carryOut h id).result =
      some ((status.outcome.mapError (.wait <| .status ·)).mapError
        (⟨.start container.name, ·⟩)) := by
  simp only [carryOut, Container.start, Container.lxcStart, launched]
  rfl

theorem result_of_unlaunched (id : ProcessId) {container : Container} {binary : Bytes}
    {fault : LaunchFault}
    (unlaunched : h.launch .container ⟨binary, container.arguments⟩ = .error fault) :
    ((spawn container binary).carryOut h id).result =
      some (.error ⟨.start container.name, .runtime (.launch binary fault)⟩) := by
  simp only [carryOut, Container.start, Container.lxcStart, unlaunched]
  rfl

theorem ending_of_launched (id : ProcessId) {container : Container} {binary : Bytes} {e : Ending}
    {dumped : Bool}
    (launched : h.launch .container ⟨binary, container.arguments⟩ = .ok (.ofEnding e dumped)) :
    ∃ x, ((spawn container binary).carryOut h id).ending? = some x ∧ Mirrors e x := by
  have result := result_of_launched id launched
  rcases outcome_ofEnding e dumped with ⟨o, read, named⟩ | ⟨fault, read, nameless⟩
  · rw [read] at result
    exact ⟨_, by rw [Report.ending?, result]; rfl, mirrors_of_named named⟩
  · rw [read] at result
    exact ⟨_, by rw [Report.ending?, result]; rfl, mirrors_of_nameless nameless⟩

/-! ### Every ending -/

/-- The ending that a report gives the program is that of the command, or tells of a failure. -/
structure EndsAsCommand (h : Host) (id : ProcessId) (i : Invocation) (r : Report) : Prop where
  failed : ∀ f, r.result = some (.error f) → r.ending? = some (.exited 125)
  refused : i.asked? h id = none → (∀ container binary, i ≠ .spawn container binary) →
    ∃ f, r.result = some (.error f)
  launched : ∀ container binary, i = .spawn container binary →
    (∀ fault, h.launch .container ⟨binary, container.arguments⟩ = .error fault →
      ∃ f, r.result = some (.error f)) ∧
    ∀ e dumped, h.launch .container ⟨binary, container.arguments⟩ = .ok (.ofEnding e dumped) →
      ∃ x, r.ending? = some x ∧ Mirrors e x
  commanded : ∀ w, i.asked? h id = some w → ∀ e x, .commandEnded e ∈ r.trace →
    r.ending? = some x → (Mirrors e x ∨ Run.InitLost w r ∧ x = .exited 125) ∧
      (e.outcome? = none → Run.InitLost w r)
  unexecuted : ∀ w, i.asked? h id = some w → ∀ errno x,
    h.start .command w.command.launch = .error errno → .execAttempted w.command.argv ∈ r.trace →
    r.ending? = some x →
    x = .exited (if errno = .noEntry ∨ errno = .notDirectory then 127 else 126) ∨
      Run.InitLost w r ∧ x = .exited 125
  only : ∀ x, r.ending? = some x →
    (∃ f, r.result = some (.error f)) ∧ x = .exited 125 ∨
    (∃ container binary e dumped, i = .spawn container binary ∧
      h.launch .container ⟨binary, container.arguments⟩ = .ok (.ofEnding e dumped) ∧
        Mirrors e x) ∨
    ∃ w, i.asked? h id = some w ∧
      ((∃ e, .commandEnded e ∈ r.trace ∧ Mirrors e x) ∨
        (∃ errno, h.start .command w.command.launch = .error errno ∧
          .execAttempted w.command.argv ∈ r.trace ∧
          x = .exited (if errno = .noEntry ∨ errno = .notDirectory then 127 else 126)) ∨
        Run.InitLost w r ∧ x = .exited 125)

theorem ending?_of_failed {f : Failure} (failed : r.result = some (.error f)) :
    r.ending? = some (.exited 125) := by
  rw [Report.ending?, failed]
  rfl

theorem endsAsCommand_of_error (f : Failure)
    (runs : ∀ container binary, i ≠ .spawn container binary) :
    EndsAsCommand h id i { result := some (.error f) } where
  failed _ := ending?_of_failed
  refused _ _ := ⟨f, rfl⟩
  launched container binary spawns := absurd spawns (runs container binary)
  commanded _ _ _ _ ended := nomatch ended
  unexecuted _ _ _ _ _ attempted := nomatch attempted
  only _ ends := Or.inl ⟨⟨f, rfl⟩, (Option.some.inj ends).symm⟩

theorem endsAsCommand_of_spawn (container : Container) (binary : Bytes) :
    EndsAsCommand h id (.spawn container binary) ((spawn container binary).carryOut h id) where
  failed _ := ending?_of_failed
  refused _ runs := absurd rfl (runs container binary)
  launched := by
    rintro _ _ ⟨⟩
    exact ⟨fun fault unlaunched => ⟨_, result_of_unlaunched id unlaunched⟩,
      fun e dumped launched => ending_of_launched id launched⟩
  commanded _ asks := nomatch asks
  unexecuted _ asks := nomatch asks
  only x ends := by
    cases tried : h.launch .container ⟨binary, container.arguments⟩ with
    | error fault =>
      have failed := result_of_unlaunched id tried
      rw [ending?_of_failed failed] at ends
      exact Or.inl ⟨⟨_, failed⟩, (Option.some.inj ends).symm⟩
    | ok status =>
      obtain ⟨program, -, rfl⟩ := Host.program_of_launch tried
      obtain ⟨y, same, mirrors⟩ := ending_of_launched id tried
      obtain rfl := Option.some.inj (same.symm.trans ends)
      exact Or.inr (Or.inl ⟨container, binary, program.ending, program.dumps, rfl, tried, mirrors⟩)

theorem endsAsCommand_of_run {s : Run.State} (asks : i.asked? h id = some w)
    (reached : Run.Undisturbed w s) : EndsAsCommand h id i (Run.report w s) where
  failed _ := ending?_of_failed
  refused unasked := by cases asks.symm.trans unasked
  launched := by
    rintro container binary rfl
    cases asks
  commanded := by
    intro w' asks' e x ended ends
    obtain rfl := Option.some.inj (asks.symm.trans asks')
    have below := pid_of_asked asks
    exact ⟨Run.mirrors_of_commandEnded reached below ends ended,
      Run.initLost_of_nameless reached below ends ended⟩
  unexecuted := by
    intro w' asks' errno x failed attempted ends
    obtain rfl := Option.some.inj (asks.symm.trans asks')
    rw [← host_of_asked asks] at failed
    exact Run.ending_of_unexecuted reached (pid_of_asked asks) ends failed attempted
  only := by
    intro x ends
    obtain ⟨r, done, same⟩ := Run.ending?_report ends
    have below := pid_of_asked asks
    cases r with
    | error e =>
      refine Or.inl ⟨⟨⟨.run w.command, e⟩, ?_⟩, same⟩
      rw [Run.report, Run.result?_eq_some.mpr done]
      rfl
    | ok o =>
      refine Or.inr (Or.inr ⟨w, asks, ?_⟩)
      by_cases released : .goReceived ∈ s.trace
      · rcases Run.cause_of_letGo reached done released with
          ⟨e, ended⟩ | ⟨errno, failed, attempted⟩ | gaveUp
        · rcases Run.mirrors_of_commandEnded reached below ends ended with mirrors | lost
          · exact Or.inl ⟨e, ended, mirrors⟩
          · exact Or.inr (Or.inr lost)
        · rcases Run.ending_of_unexecuted reached below ends failed attempted with code | lost
          · rw [host_of_asked asks] at failed
            exact Or.inr (Or.inl ⟨errno, failed, attempted, code⟩)
          · exact Or.inr (Or.inr lost)
        · obtain ⟨lost, coded⟩ := Run.initLost_of_gaveUp reached done released gaveUp
          cases coded
          exact Or.inr (Or.inr ⟨lost, same⟩)
      · obtain ⟨e, failed⟩ :=
          Run.error_of_unreleased (spares_of_asked asks) reached done released
        cases failed

theorem endsAsCommand_of_comes (comes : i.Comes h id r) : EndsAsCommand h id i r := by
  cases asks : i.asked? h id with
  | some w =>
    rcases run_of_comes comes asks with ⟨s, reached, rfl⟩ | ⟨f, rfl⟩
    · exact endsAsCommand_of_run asks reached
    · apply endsAsCommand_of_error
      rintro container binary rfl
      cases asks
  | none =>
    cases comes with
    | scheduled asks' => cases asks.symm.trans asks'
    | planned =>
      by_cases spawns : ∃ container binary, i = .spawn container binary
      · obtain ⟨container, binary, rfl⟩ := spawns
        exact endsAsCommand_of_spawn container binary
      · have runs : ∀ container binary, i ≠ .spawn container binary :=
          fun container binary same => spawns ⟨container, binary, same⟩
        obtain ⟨f, failed⟩ := error_of_unasked asks runs
        rw [failed]
        exact endsAsCommand_of_error f runs

/-- What is carried out has no result only while its command waits for a signal. -/
theorem started_of_endless (endless : (i.carryOut h id).ending? = none) :
    ∃ w, i.asked? h id = some w ∧
      .commandStarted w.command.launch true ∈ (i.carryOut h id).trace ∧
      ∀ e, .commandEnded e ∉ (i.carryOut h id).trace := by
  have unfailed : ∀ f, (i.carryOut h id).result ≠ some (.error f) := by
    intro f failed
    cases (ending?_of_failed failed).symm.trans endless
  cases asks : i.asked? h id with
  | none =>
    cases i with
    | spawn container binary => cases endless
    | _ =>
      obtain ⟨f, failed⟩ := error_of_unasked asks nofun
      exact absurd (congrArg Report.result failed) (unfailed f)
  | some w =>
    rcases carryOut_of_asked asks with same | ⟨f, failed⟩
    · rw [same] at endless ⊢
      have reached := Run.undisturbed_run w
      rcases Run.run_over w with done | waits
      · obtain ⟨x, ends⟩ := Run.exists_ending_iff.mpr done
        cases endless.symm.trans ends
      · refine ⟨w, rfl, (Run.started_of_awaits reached waits).2.2.2, ?_⟩
        intro e ended
        exact (Run.commandEnded reached ended).2.2 waits
    · exact absurd (congrArg Report.result failed) (unfailed f)

end Invocation

/-- The program ends as its command did: with the exit code of the command, by the signal that
killed it, or with a code that says why it could not be executed. After a failure it exits with
125, and also when its init met a death that has no outcome or a call of its init failed, though
nothing is returned as a failure then. It comes to an end in every order of the steps, unless its
command never does, and in no other way. -/
theorem ends_as_command (h : Host) (id : ProcessId) (environment : List (String × Bytes))
    (args : List Bytes) {parsed : CommandLine.Parsed}
    (accepted : CommandLine.read environment args = .ok parsed) :
    ((conclude h id environment args).trace = (parsed.invocation.carryOut h id).trace ∧
      (conclude h id environment args).ending = (parsed.invocation.carryOut h id).ending?) ∧
    (∀ r, parsed.invocation.Comes h id r → parsed.invocation.EndsAsCommand h id r) ∧
    ((conclude h id environment args).ending = none →
      ∃ w, parsed.invocation.asked? h id = some w ∧
        .commandStarted w.command.launch true ∈ (conclude h id environment args).trace ∧
        ∀ e, .commandEnded e ∉ (conclude h id environment args).trace) ∧
    ∀ w s, parsed.invocation.asked? h id = some w → Run.Undisturbed w s → Run.Unhindered w s →
      Run.Inevitably w (fun t => ∃ x, (Run.report w t).ending? = some x) s := by
  have same : (conclude h id environment args).trace = (parsed.invocation.carryOut h id).trace ∧
      (conclude h id environment args).ending = (parsed.invocation.carryOut h id).ending? := by
    rw [conclude, accepted]
    exact ⟨rfl, rfl⟩
  refine ⟨same, fun r comes => Invocation.endsAsCommand_of_comes comes, ?_, ?_⟩
  · rw [same.1, same.2]
    exact Invocation.started_of_endless
  · intro w s asks reached free
    refine (Run.inevitably_done reached free).mono ?_
    rintro t ⟨-, done⟩
    exact Run.exists_ending_iff.mpr done

def taskHost (program : Program) : Host where
  start
    | .command, _ => .ok program
    | _, _ => .ok {}
  clone _ := .ok ()
  mountProc _ := .ok ()

def taskArguments : List Bytes :=
  ["usernsexec", "u", "0", "100000", "65536", "--", "task"].map Bytes.ofString

def taskInvocation : Invocation :=
  .usernsexec {} ["u", "0", "100000", "65536"] [Bytes.ofString "task"]

def taskRun (program : Program) : Run.Setting :=
  .ofIsolation (taskHost program) ⟨7⟩
    (.mapped ⟨[⟨.uid, 0, 100000, 65536, by decide, by decide, by decide⟩], [], by decide, by decide,
      by decide⟩)
    (MappingTools.map (taskHost program) {}) (Run.lone .standard .plain program).command

/-- A command that dies by SIGTERM takes the program with it. -/
theorem ends_as_command_killed :
    CommandLine.read [] taskArguments = .ok ⟨false, taskInvocation⟩ ∧
      (conclude (taskHost { ending := .killed 15 }) ⟨7⟩ [] taskArguments).ending =
        some (.killed 15) := by
  have accepted : CommandLine.read [] taskArguments = .ok ⟨false, taskInvocation⟩ := rfl
  obtain ⟨⟨trace, ending⟩, every, -, -⟩ :=
    ends_as_command (taskHost { ending := .killed 15 }) ⟨7⟩ [] taskArguments accepted
  refine ⟨accepted, ?_⟩
  rw [ending]
  have asks : taskInvocation.asked? (taskHost { ending := .killed 15 }) ⟨7⟩ =
      some (taskRun { ending := .killed 15 }) := rfl
  have ended : .commandEnded (.killed 15) ∈
      (taskInvocation.carryOut (taskHost { ending := .killed 15 }) ⟨7⟩).trace := by
    decide +kernel
  have ends : (taskInvocation.carryOut (taskHost { ending := .killed 15 }) ⟨7⟩).ending?.isSome :=
    rfl
  obtain ⟨x, ends⟩ := Option.isSome_iff_exists.mp ends
  rcases ((every _ .planned).commanded _ asks _ x ended ends).1 with mirrors | ⟨⟨-, lost⟩, -⟩
  · rw [ends, mirrors.1 .term rfl rfl]
  · cases lost

def bereaved : Program := { script := [.orphan (.killed 34)], ending := .exited 5 }

/-- The order in which the command and the process have both ended before the init looks. -/
def bereavement : List Run.Actor :=
  [.inner .command, .inner .command, .inner (.orphan 0), .inner .child, .inner .child, .parent,
    .parent]

theorem undisturbed_bereaved : ∃ s, Run.Undisturbed (taskRun bereaved) s ∧
    .commandEnded (.exited 5) ∈ s.trace ∧ s.parent = .finished (.ok (.exited 125)) := by
  have forked := Run.undisturbed_complete 12 (.start (w := taskRun bereaved))
  obtain ⟨s, taken, ended, done⟩ : ∃ s,
      bereavement.foldlM (Run.step (taskRun bereaved)) (Run.complete (taskRun bereaved) 12 {}) =
        some s ∧
      .commandEnded (.exited 5) ∈ s.trace ∧ s.parent = .finished (.ok (.exited 125)) :=
    ⟨_, rfl, by decide +kernel, rfl⟩
  have calm : ∀ actor ∈ bereavement, ∀ signal, actor ≠ .killer signal := by
    rintro actor member signal rfl
    simp [bereavement] at member
  exact ⟨s, forked.follow calm taken, ended, done⟩

/-- A command that has exited with 5 is taken to have exited with 125, as is one that a real-time
signal has killed: no failure says that the init was lost. -/
theorem ending_lost_with_init :
    (∃ s, taskInvocation.Comes (taskHost bereaved) ⟨7⟩ (Run.report (taskRun bereaved) s) ∧
      .commandEnded (.exited 5) ∈ s.trace ∧
      (Run.report (taskRun bereaved) s).ending? = some (.exited 125)) ∧
    .commandEnded (.killed 34) ∈
      (conclude (taskHost { ending := .killed 34 }) ⟨7⟩ [] taskArguments).trace ∧
    (taskInvocation.carryOut (taskHost { ending := .killed 34 }) ⟨7⟩).result =
      some (.ok (.exited 125)) ∧
    (conclude (taskHost { ending := .killed 34 }) ⟨7⟩ [] taskArguments).ending =
      some (.exited 125) := by
  obtain ⟨s, reached, ended, done⟩ := undisturbed_bereaved
  refine ⟨⟨s, .scheduled rfl rfl reached, ended, ?_⟩, by decide +kernel, rfl, rfl⟩
  rw [Run.report, Run.result?_eq_some.mpr done]
  rfl

end NamespaceEntry
