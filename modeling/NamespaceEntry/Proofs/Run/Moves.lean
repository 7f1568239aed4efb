import NamespaceEntry.Run.Basic

/-!
# The moves of a run

`Child.Move` and `Move` list every step that a run can take, each with its guard and with the
state after it. `move_of_step` shows that there is no other step, so that what holds of every
move holds of every run.
-/

namespace NamespaceEntry

namespace Child

variable {w : Setting} {s t : State}

inductive Move (w : Setting) (s : State) : State → Prop where
  | inherited (here : s.phase = .inheriting) :
      Move w s ({ s with socket := s.socket.release .parent }.goto .mounting)
  | mounted (here : s.phase = .mounting)
      (done : w.host.mount w.namespaces w.procTarget = .ok ()) : Move w s (s.goto .announcing)
  | unmounted (fault : ResourceFault) (here : s.phase = .mounting)
      (failed : w.host.mount w.namespaces w.procTarget = .error fault) :
      Move w s (s.fail (.setup (.resource fault)))
  | announced (k : Socket) (here : s.phase = .announcing)
      (sent : s.socket.signal .child .ready = (.ok (), k)) :
      Move w s (({ s with socket := k }.log [.readySent]).goto .waiting)
  | unheard (e : Error) (k : Socket) (here : s.phase = .announcing)
      (failed : s.socket.signal .child .ready = (.error e, k)) :
      Move w s ({ s with socket := k }.fail (.notReady e))
  | released (k : Socket) (here : s.phase = .waiting)
      (got : s.socket.await? .child .go = some (.ok (), k)) :
      Move w s (({ s with socket := k }.log [.goReceived]).goto
        (if w.namespaces.pid then .forking else .executing))
  | refused (e : Error) (k : Socket) (here : s.phase = .waiting)
      (failed : s.socket.await? .child .go = some (.error e, k)) :
      Move w s ({ s with socket := k }.fail (.notReleased w.command e))
  | executed (program : Program) (here : s.phase = .executing)
      (found : w.host.start .command w.command.launch = .ok program) :
      Move w s (({ s.log [.execAttempted w.command.argv] with
          socket := s.socket.release .child }.log
        [.commandStarted w.command.launch false]).goto (.running program.ending))
  | unexecuted (errno : Errno) (here : s.phase = .executing)
      (failed : w.host.start .command w.command.launch = .error errno) :
      Move w s ((s.log [.execAttempted w.command.argv]).fail (.notExecuted w.command errno)
        errno.execCode)
  | forked (here : s.phase = .forking) (able : w.host.init.unforked? = none) :
      Move w s ({ s with socket := s.socket.share .child }.goto (.supervising {} .forked []))
  | unforked (errno : Errno) (here : s.phase = .forking)
      (failed : w.host.init.unforked? = some errno) :
      Move w s (s.fail (.initFailed (.system errno)))
  | concluded (init : Init) (command : CommandPhase) (orphans : List Ending) (o : Outcome)
      (here : s.phase = .supervising init command orphans) (done : init.result = some (.ok o)) :
      Move w s (s.goto (.reporting o))
  | initFailed (init : Init) (command : CommandPhase) (orphans : List Ending) (errno : Errno)
      (here : s.phase = .supervising init command orphans)
      (failed : init.result = some (.error errno) ∨
        init.result = none ∧ w.host.init.hindrance? init = some errno) :
      Move w s ((if command = .forked then { s with socket := s.socket.release .child } else s).fail
        (.initFailed (.system errno)))
  | took (init : Init) (command : CommandPhase) (orphans : List Ending) (signal : Signal)
      (next : Init) (here : s.phase = .supervising init command orphans)
      (waits : init.result = none) (first : init.next? = some signal)
      (taken : init.step (.took signal) = some next)
      (free : w.host.init.hindrance? init = none) :
      Move w s ((if signal = .chld then s else s.log [.forwarded signal]).goto
        (.supervising next command orphans))
  | reported (o : Outcome) (k : Socket) (here : s.phase = .reporting o)
      (sent : s.socket.report o = (.ok (), k)) :
      Move w s (({ s with socket := k }.log [.reported o]).goto (.ended (.exited o.shellCode)))
  | unreported (o : Outcome) (e : Error) (k : Socket) (here : s.phase = .reporting o)
      (failed : s.socket.report o = (.error e, k)) :
      Move w s (({ s with socket := k }.log [.diagnostic (.notReported o e)]).goto
        (.ended (.exited o.shellCode)))
  | commandEnded (ending : Ending) (here : s.phase = .running ending) :
      Move w s ((s.log [.commandEnded ending]).goto (.ended ending))
  | executedBelow (init : Init) (orphans : List Ending) (program : Program)
      (here : s.phase = .supervising init .forked orphans)
      (found : w.host.start .command w.command.launch = .ok program)
      (restored : w.host.init.restoreSignals = none) :
      Move w s ((({ s with socket := s.socket.release .child }.log
          [.execAttempted w.command.argv]).log [.commandStarted w.command.launch true]).goto
        (.supervising init (.running program.script program.ending) orphans))
  | unexecutedBelow (init : Init) (orphans : List Ending) (errno : Errno) (next : Init)
      (here : s.phase = .supervising init .forked orphans)
      (failed : w.host.start .command w.command.launch = .error errno)
      (ended : init.step (.ended .command (.exited errno.execCode)) = some next)
      (restored : w.host.init.restoreSignals = none) :
      Move w s ((({ s with socket := s.socket.release .child }.log
          [.execAttempted w.command.argv]).log [.diagnostic (.notExecuted w.command errno)]).goto
        (.supervising next .ended orphans))
  | unrestored (init : Init) (orphans : List Ending) (errno : Errno) (next : Init)
      (here : s.phase = .supervising init .forked orphans)
      (failed : w.host.init.restoreSignals = some errno)
      (ended : init.step (.ended .command (.exited ExitAction.failureCode)) = some next) :
      Move w s (({ s with socket := s.socket.release .child }.log
          [.diagnostic (.maskKept errno)]).goto (.supervising next .ended orphans))
  | signalled (init : Init) (signal : Signal) (script : List Act) (ending : Ending)
      (orphans : List Ending) (next : Init)
      (here : s.phase = .supervising init (.running (.signal signal :: script) ending) orphans)
      (sent : init.step (.sent signal) = some next) :
      Move w s (s.goto (.supervising next (.running script ending) orphans))
  | orphaned (init : Init) (orphan : Ending) (script : List Act) (ending : Ending)
      (orphans : List Ending)
      (here : s.phase = .supervising init (.running (.orphan orphan :: script) ending) orphans) :
      Move w s (s.goto (.supervising init (.running script ending) (orphans ++ [orphan])))
  | awaited (init : Init) (signal : Signal) (script : List Act) (ending : Ending)
      (orphans : List Ending)
      (here : s.phase = .supervising init (.running (.await signal :: script) ending) orphans)
      (passed : signal ∈ init.forwarded) :
      Move w s (s.goto (.supervising init (.running script ending) orphans))
  | commandEndedBelow (init : Init) (ending : Ending) (orphans : List Ending) (next : Init)
      (here : s.phase = .supervising init (.running [] ending) orphans)
      (ended : init.step (.ended .command ending) = some next) :
      Move w s ((s.log [.commandEnded ending]).goto (.supervising next .ended orphans))
  | orphanEnded (init : Init) (command : CommandPhase) (orphans : List Ending) (index : Nat)
      (ending : Ending) (next : Init) (here : s.phase = .supervising init command orphans)
      (found : orphans[index]? = some ending)
      (ended : init.step (.ended .orphan ending) = some next) :
      Move w s (s.goto (.supervising next command (orphans.eraseIdx index)))

theorem move_of_step (h : step w s = some t) : Move w s t := by
  unfold step at h
  split at h
  case h_1 | h_2 | h_3 => cases h
  case h_4 here => cases h; exact .inherited here
  case h_5 here =>
    split at h <;> cases h
    · exact .mounted here ‹_›
    · exact .unmounted _ here ‹_›
  case h_6 here =>
    cases h
    unfold announce
    rcases sent : s.socket.signal .child .ready with ⟨result, k⟩
    cases result with
    | ok => exact .announced k here sent
    | error e => exact .unheard e k here sent
  case h_7 here =>
    obtain ⟨⟨result, k⟩, got, rfl⟩ := Option.map_eq_some_iff.mp h
    cases result with
    | ok => exact .released k here got
    | error e => exact .refused e k here got
  case h_8 here =>
    cases h
    unfold exec
    split
    · exact .executed _ here ‹_›
    · exact .unexecuted _ here ‹_›
  case h_9 here =>
    cases h
    unfold fork
    split
    · exact .unforked _ here ‹_›
    · exact .forked here ‹_›
  case h_10 init command orphans here =>
    unfold superviseStep? at h
    split at h
    · cases h; exact .concluded _ _ _ _ here ‹_›
    · cases h; exact .initFailed _ _ _ _ here (Or.inl ‹_›)
    · rename_i waits
      split at h
      · cases h; exact .initFailed _ _ _ _ here (Or.inr ⟨waits, ‹_›⟩)
      · simp only [Option.bind_eq_bind, Option.bind_eq_some_iff, Option.pure_def,
          Option.some.injEq] at h
        obtain ⟨signal, first, next, taken, rfl⟩ := h
        exact .took _ _ _ _ _ here waits first taken ‹_›
  case h_11 o here =>
    cases h
    unfold report
    rcases sent : s.socket.report o with ⟨result, k⟩
    cases result with
    | ok => exact .reported o k here sent
    | error e => exact .unreported o e k here sent

theorem failForked?_eq_some {init : Init} {orphans : List Ending} {d : Diagnostic} {code : UInt8}
    (h : failForked? s init orphans d code = some t) :
    ∃ next, init.step (.ended .command (.exited code)) = some next ∧
      t = (s.log [.diagnostic d]).goto (.supervising next .ended orphans) := by
  simp only [failForked?, Option.bind_eq_bind, Option.bind_eq_some_iff, Option.pure_def,
    Option.some.injEq] at h
  obtain ⟨next, ended, rfl⟩ := h
  exact ⟨next, ended, rfl⟩

theorem move_of_commandStep (h : commandStep w s = some t) : Move w s t := by
  unfold commandStep at h
  split at h
  case h_1 here => cases h; exact .commandEnded _ here
  case h_2 init orphans here =>
    unfold execForked? at h
    split at h
    · obtain ⟨next, ended, rfl⟩ := failForked?_eq_some h
      exact .unrestored _ _ _ _ here ‹_› ended
    · split at h
      · cases h; exact .executedBelow _ _ _ here ‹_› ‹_›
      · obtain ⟨next, ended, rfl⟩ := failForked?_eq_some h
        exact .unexecutedBelow _ _ _ _ here ‹_› ended ‹_›
  case h_3 init act script ending orphans here =>
    cases act with
    | signal signal =>
      simp only [act?, Option.bind_eq_bind, Option.bind_eq_some_iff, Option.pure_def,
        Option.some.injEq] at h
      obtain ⟨next, sent, rfl⟩ := h
      exact .signalled _ _ _ _ _ _ here sent
    | orphan orphan => cases h; exact .orphaned _ _ _ _ _ here
    | await signal =>
      simp only [act?] at h
      split at h <;> cases h
      rename_i passed
      exact .awaited _ _ _ _ _ here (List.contains_iff_mem.mp passed)
  case h_4 init ending orphans here =>
    simp only [Option.bind_eq_bind, Option.bind_eq_some_iff, Option.pure_def,
      Option.some.injEq] at h
    obtain ⟨next, ended, rfl⟩ := h
    exact .commandEndedBelow _ _ _ _ here ended
  case h_5 => cases h

theorem move_of_orphanStep {index : Nat} (h : orphanStep s index = some t) : Move w s t := by
  unfold orphanStep at h
  split at h
  · simp only [Option.bind_eq_bind, Option.bind_eq_some_iff, Option.pure_def,
      Option.some.injEq] at h
    obtain ⟨ending, found, next, ended, rfl⟩ := h
    exact .orphanEnded _ _ _ _ _ _ ‹_› found ended
  · cases h

theorem move_of_stepOf {actor : Actor} (h : stepOf w s actor = some t) : Move w s t := by
  cases actor with
  | child => exact move_of_step h
  | orphan index => exact move_of_orphanStep h
  | command => exact move_of_commandStep h

theorem trace_of_move (move : Move w s t) : s.trace <+: t.trace := by
  cases move with
  | executed | unexecuted | executedBelow | unexecutedBelow =>
    exact (List.prefix_append ..).trans (List.prefix_append ..)
  | took init command orphans signal =>
    simp only [State.goto]
    split
    · exact List.prefix_refl _
    · exact List.prefix_append ..
  | initFailed init command =>
    simp only [State.fail, State.exit, State.log]
    split <;> exact List.prefix_append ..
  | inherited | mounted | forked | concluded | signalled | orphaned | awaited | orphanEnded =>
    exact List.prefix_refl _
  | _ => exact List.prefix_append ..

/-- What has been printed does not change what a kill does. -/
theorem killStep_log (s : State) (events : List Event) (signal : Nat) :
    killStep (s.log events) signal = (killStep s signal).map (·.log events) := by
  unfold killStep
  cases here : s.phase with
  | supervising init command orphans => cases command <;> simp [here, State.log, State.goto]
  | _ => simp [here, State.log, State.goto]

end Child

namespace Run

variable {w : Setting} {s t : State}

def rangesOf (w : Setting) (kind : IdKind) : List IdRange :=
  (w.isolation.mapping?.map fun m => m.ranges kind).getD []

def reply (w : Setting) (kind : IdKind) : MapperReply := w.mapper kind w.childId (rangesOf w kind)

/-- The state after a call of the mapper, which may have killed the child. -/
def asked (w : Setting) (s : State) (kind : IdKind) : State :=
  let s := s.note (.mapperCalled kind w.childId (rangesOf w kind) ::
    ((reply w kind).started.map .toolStarted).toList)
  ((reply w kind).kill.map (killed s)).getD s

def waited (w : Setting) (ending : Ending) : Except WaitFault Outcome :=
  match ending.outcome? with
  | some o => .ok o
  | none => .error (.failed w.childId .invalidArgument)

theorem resultOf_named {o : Outcome} {ending : Ending} (named : ending.outcome? = some o)
    (report : Option Outcome) : resultOf report (waited w ending) = .ok (report.getD o) := by
  simp [waited, named, resultOf]

theorem resultOf_nameless {ending : Ending} (nameless : ending.outcome? = none)
    (report : Option Outcome) :
    resultOf report (waited w ending) = .error (.wait (.failed w.childId .invalidArgument)) := by
  simp [waited, nameless, resultOf]

theorem abortError_named {o : Outcome} {ending : Ending} (named : ending.outcome? = some o)
    (cause : Error) : abortError cause (waited w ending) = cause := by
  simp [waited, named, abortError]

theorem abortError_nameless {ending : Ending} (nameless : ending.outcome? = none) (cause : Error) :
    abortError cause (waited w ending) =
      .waitInAbort (.failed w.childId .invalidArgument) cause := by
  simp [waited, nameless, abortError]

inductive Move (w : Setting) (s : State) : State → Prop where
  | inner (child : Child.State) (move : Child.Move w.toSetting s.toState child) :
      Move w s { s with toState := child }
  | cloned (here : s.parent = .cloning) (done : w.host.clone w.namespaces = .ok ()) :
      Move w s { s with
        socket := (s.socket.share .parent).share .child
        phase := .inheriting
        parent := .dropping }
  | uncloned (errno : Errno) (here : s.parent = .cloning)
      (failed : w.host.clone w.namespaces = .error errno) :
      Move w s ((((s.drop .child).drop .parent).note [.parentClosed]).next
        (.finished (.error (.resource (.clone errno)))))
  | dropped (here : s.parent = .dropping) : Move w s ((s.drop .child).next .awaitingReady)
  | ready (k : Socket) (here : s.parent = .awaitingReady)
      (got : s.socket.await? .parent .ready = some (.ok (), k)) :
      Move w s (({ s with socket := k }.note [.readyReceived]).next (.mapping (kindsToMap w)))
  | unready (e : Error) (k : Socket) (here : s.parent = .awaitingReady)
      (failed : s.socket.await? .parent .ready = some (.error e, k)) :
      Move w s ({ s with socket := k }.next (.abandoning (readyCause e)))
  | mapped (kind : IdKind) (rest : List IdKind) (here : s.parent = .mapping (kind :: rest))
      (done : (reply w kind).result = .ok ()) :
      Move w s (((asked w s kind).note [.mapped kind]).next (.mapping rest))
  | unmapped (kind : IdKind) (rest : List IdKind) (e : Error)
      (here : s.parent = .mapping (kind :: rest)) (failed : (reply w kind).result = .error e) :
      Move w s ((asked w s kind).next (.abandoning e))
  | allMapped (here : s.parent = .mapping []) : Move w s (s.next .releasing)
  | sentGo (k : Socket) (here : s.parent = .releasing)
      (sent : s.socket.signal .parent .go = (.ok (), k)) :
      Move w s (({ s with socket := k }.note [.goSent]).next .awaitingReport)
  | unsentGo (e : Error) (k : Socket) (here : s.parent = .releasing)
      (failed : s.socket.signal .parent .go = (.error e, k)) :
      Move w s ({ s with socket := k }.next (.abandoning e))
  | heard (report : Option Outcome) (k : Socket) (here : s.parent = .awaitingReport)
      (got : s.socket.awaitReport? = some (.ok report, k)) :
      Move w s (({ s with socket := k }.note [.parentClosed]).next (.reaping report))
  | misheard (e : Error) (k : Socket) (here : s.parent = .awaitingReport)
      (failed : s.socket.awaitReport? = some (.error e, k)) :
      Move w s (({ s with socket := k }.note [.parentClosed]).next (.aborting e))
  | reaped (report : Option Outcome) (ending : Ending) (here : s.parent = .reaping report)
      (ended : s.phase = .ended ending) :
      Move w s ((s.note [.reaped ending]).next (.finished (resultOf report (waited w ending))))
  | abandoned (cause : Error) (here : s.parent = .abandoning cause) :
      Move w s (((s.drop .parent).note [.parentClosed]).next (.aborting cause))
  | aborted (cause : Error) (ending : Ending) (here : s.parent = .aborting cause)
      (ended : s.phase = .ended ending) :
      Move w s ((s.note [.reaped ending]).next
        (.finished (.error (abortError cause (waited w ending)))))

theorem reap?_eq_some {result : Except WaitFault Outcome} (h : reap? w s = some (result, t)) :
    ∃ ending, s.phase = .ended ending ∧ result = waited w ending ∧ t = s.note [.reaped ending] := by
  unfold reap? at h
  split at h
  · cases h
    exact ⟨_, ‹_›, rfl, rfl⟩
  · cases h

theorem move_of_parentStep (h : parentStep w s = some t) : Move w s t := by
  unfold parentStep at h
  split at h
  case h_1 here =>
    cases h
    unfold clone
    split
    · exact .cloned here ‹_›
    · exact .uncloned _ here ‹_›
  case h_2 here => cases h; exact .dropped here
  case h_3 here =>
    obtain ⟨⟨result, k⟩, got, rfl⟩ := Option.map_eq_some_iff.mp h
    cases result with
    | ok => exact .ready k here got
    | error e => exact .unready e k here got
  case h_4 kind rest here =>
    cases h
    cases done : (reply w kind).result with
    | ok =>
      have same : mapKind w s kind rest =
          ((asked w s kind).note [.mapped kind]).next (.mapping rest) := by
        simp only [mapKind, asked, reply, rangesOf] at done ⊢
        rw [done]
      exact same ▸ .mapped kind rest here done
    | error e =>
      have same : mapKind w s kind rest = (asked w s kind).next (.abandoning e) := by
        simp only [mapKind, asked, reply, rangesOf] at done ⊢
        rw [done]
      exact same ▸ .unmapped kind rest e here done
  case h_5 here => cases h; exact .allMapped here
  case h_6 here =>
    cases h
    unfold release
    rcases sent : s.socket.signal .parent .go with ⟨result, k⟩
    cases result with
    | ok => exact .sentGo k here sent
    | error e => exact .unsentGo e k here sent
  case h_7 here =>
    obtain ⟨⟨result, k⟩, got, rfl⟩ := Option.map_eq_some_iff.mp h
    cases result with
    | ok report => exact .heard report k here got
    | error e => exact .misheard e k here got
  case h_8 report here =>
    obtain ⟨⟨result, s'⟩, got, rfl⟩ := Option.map_eq_some_iff.mp h
    obtain ⟨ending, ended, rfl, rfl⟩ := reap?_eq_some got
    exact .reaped report ending here ended
  case h_9 cause here => cases h; exact .abandoned cause here
  case h_10 cause here =>
    obtain ⟨⟨result, s'⟩, got, rfl⟩ := Option.map_eq_some_iff.mp h
    obtain ⟨ending, ended, rfl, rfl⟩ := reap?_eq_some got
    exact .aborted cause ending here ended
  case h_11 => cases h

/-- The mapper speaks after it may have killed the child. -/
theorem asked_eq (w : Setting) (s : State) (kind : IdKind) :
    ∃ child : Child.State, (child = s.toState ∨ ∃ signal, (reply w kind).kill = some signal ∧
        Child.killStep s.toState signal = some child) ∧
      asked w s kind = { s with toState := child }.note
        (.mapperCalled kind w.childId (rangesOf w kind) ::
          ((reply w kind).started.map Event.toolStarted).toList) := by
  unfold asked
  cases wish : (reply w kind).kill with
  | none => exact ⟨s.toState, Or.inl rfl, rfl⟩
  | some signal =>
    simp only [Option.map_some, Option.getD_some, killed, State.note, Child.killStep_log]
    cases dead : Child.killStep s.toState signal with
    | none => exact ⟨s.toState, Or.inl rfl, rfl⟩
    | some child => exact ⟨child, Or.inr ⟨signal, rfl, dead⟩, rfl⟩

/-- A step is a move, unless someone kills the child. -/
theorem move_of_step {actor : Actor} (h : step w s actor = some t) :
    Move w s t ∨ ∃ signal child, actor = .killer signal ∧
      Child.killStep s.toState signal = some child ∧ t = { s with toState := child } := by
  cases actor with
  | parent => exact Or.inl (move_of_parentStep h)
  | inner actor =>
    obtain ⟨child, taken, rfl⟩ := Option.map_eq_some_iff.mp h
    exact Or.inl (.inner child (Child.move_of_stepOf taken))
  | killer signal =>
    obtain ⟨child, taken, rfl⟩ := Option.map_eq_some_iff.mp h
    exact Or.inr ⟨signal, child, rfl, taken, rfl⟩

end Run

end NamespaceEntry
