import NamespaceEntry.Proofs.Run.Progress

/-!
# The story of a child

Where the child of an undisturbed run is decides what it has done, and the way in which it ends
is decided by what it did before. `Story` lists the deeds of a child at each place, and `story`
shows that no undisturbed run tells another one.
-/

namespace NamespaceEntry

/-- What a child and its command do that no one else does. -/
def Event.isDeed : Event → Bool
  | .execAttempted _ | .commandStarted .. | .commandEnded _ | .reported _ | .diagnostic _ => true
  | _ => false

def deeds (trace : List Event) : List Event := trace.filter Event.isDeed

theorem mem_deeds {event : Event} (deed : event.isDeed = true) {trace : List Event} :
    event ∈ deeds trace ↔ event ∈ trace := by
  simp [deeds, deed]

theorem deeds_append (xs ys : List Event) : deeds (xs ++ ys) = deeds xs ++ deeds ys :=
  List.filter_append ..

theorem deeds_append_of_nil {xs ys : List Event} (none : deeds ys = []) :
    deeds (xs ++ ys) = deeds xs := by
  rw [deeds_append, none, List.append_nil]

/-! ### Calls that fail -/

namespace InitCalls

inductive Interrupts (c : InitCalls) (errno : Errno) : Prop where
  | waiting (before : List Signal) (failed : c.awaitSignal before = some errno)
  | relaying (before : List Signal) (signal : Signal)
      (failed : Init.refusal? (c.relay before signal) = some errno)

inductive Fails (c : InitCalls) (errno : Errno) : Prop where
  | forking (failed : c.unforked? = some errno)
  | restoring (failed : c.restoreSignals = some errno)
  | looping (interrupts : c.Interrupts errno)

theorem not_fails (errno : Errno) : ¬({} : InitCalls).Fails errno := by
  rintro (failed | failed | (⟨before, failed⟩ | ⟨before, signal, failed⟩)) <;> cases failed

theorem interrupts_of_hindrance {c : InitCalls} {init : Init} {errno : Errno}
    (hindered : c.hindrance? init = some errno) : c.Interrupts errno := by
  unfold hindrance? at hindered
  rw [Option.orElse_eq_orElse, Option.orElse_eq_or, Option.or_eq_some_iff] at hindered
  rcases hindered with waits | ⟨-, passes⟩
  · exact .waiting _ waits
  · obtain ⟨signal, -, refused⟩ := Option.bind_eq_some_iff.mp passes
    exact .relaying _ signal refused

end InitCalls

/-- Whether the init has failed, or the process that it has forked before it could try the
command. -/
def Diagnostic.ofInit : Diagnostic → Bool
  | .initFailed _ | .maskKept _ => true
  | _ => false

/-- An init has given up, or the process that it has forked, and has printed why. -/
def GaveUp (trace : List Event) : Prop := ∃ d, .diagnostic d ∈ trace ∧ d.ofInit = true

theorem gaveUp_deeds {trace : List Event} : GaveUp (deeds trace) ↔ GaveUp trace :=
  exists_congr fun _ => and_congr_left' (mem_deeds rfl)

theorem gaveUp_concat {trace : List Event} {event : Event} :
    GaveUp (trace ++ [event]) ↔ GaveUp trace ∨ ∃ d, .diagnostic d = event ∧ d.ofInit = true := by
  simp [GaveUp, or_and_right, exists_or]

namespace Child

variable {w : Setting} {s t : State} {kills : Nat → Prop}

/-- The start of the command, below an init or in the place of the child. -/
def started (w : Setting) (below : Bool) : List Event :=
  [.execAttempted w.command.argv, .commandStarted w.command.launch below]

def unstarted (w : Setting) (errno : Errno) : List Event :=
  [.execAttempted w.command.argv, .diagnostic (.notExecuted w.command errno)]

inductive Told (w : Setting) : CommandPhase → List Event → Prop where
  | forked : Told w .forked []
  | unrestored (errno : Errno) (failed : w.host.init.restoreSignals = some errno) :
      Told w .ended [.diagnostic (.maskKept errno)]
  | running (program : Program) (script : List Act)
      (found : w.host.start .command w.command.launch = .ok program)
      (restored : w.host.init.restoreSignals = none) :
      Told w (.running script program.ending) (started w true)
  | ended (program : Program) (found : w.host.start .command w.command.launch = .ok program)
      (restored : w.host.init.restoreSignals = none) :
      Told w .ended (started w true ++ [.commandEnded program.ending])
  | unstarted (errno : Errno) (failed : w.host.start .command w.command.launch = .error errno)
      (restored : w.host.init.restoreSignals = none) :
      Told w .ended (Child.unstarted w errno)

def Setting.Forks (w : Setting) : Prop :=
  w.namespaces.pid = true ∧ w.host.init.unforked? = none

inductive InitFails (w : Setting) (command : CommandPhase) : Errno → Prop where
  | nameless (alive : command ≠ .forked) (ending : Ending)
      (dead : command = .ended ∧ ending = w.forkedEnding ∨ ending ∈ w.orphans)
      (nameless : ending.outcome? = none) : InitFails w command .invalidArgument
  | interrupted (errno : Errno) (interrupts : w.host.init.Interrupts errno) :
      InitFails w command errno

/-- The deeds of a child that nobody kills but the mapper, by some signal, before it is let go. -/
inductive Story (w : Setting) (kills : Nat → Prop) : Phase → List Event → Prop where
  | early {phase : Phase} (place : phase = .unborn ∨ phase = .inheriting ∨ phase = .mounting ∨
      phase = .announcing ∨ phase = .waiting) : Story w kills phase []
  | executing (direct : w.namespaces.pid = false) : Story w kills .executing []
  | forking (below : w.namespaces.pid = true) : Story w kills .forking []
  | stopped (d : Diagnostic) (cause : d.ofInit = false) :
      Story w kills (.ended (.exited ExitAction.failureCode)) [.diagnostic d]
  | killed (signal : Nat) (cause : kills signal) : Story w kills (.ended (.killed signal)) []
  | running (program : Program) (direct : w.namespaces.pid = false)
      (found : w.host.start .command w.command.launch = .ok program) :
      Story w kills (.running program.ending) (started w false)
  | ran (program : Program) (direct : w.namespaces.pid = false)
      (found : w.host.start .command w.command.launch = .ok program) :
      Story w kills (.ended program.ending) (started w false ++ [.commandEnded program.ending])
  | unstarted (errno : Errno) (direct : w.namespaces.pid = false)
      (failed : w.host.start .command w.command.launch = .error errno) :
      Story w kills (.ended (.exited errno.execCode)) (Child.unstarted w errno)
  | unforked (errno : Errno) (below : w.namespaces.pid = true)
      (failed : w.host.init.unforked? = some errno) :
      Story w kills (.ended (.exited ExitAction.failureCode))
        [.diagnostic (.initFailed (.system errno))]
  | supervising (init : Init) (command : CommandPhase) (orphans : List Ending) (told : List Event)
      (forks : w.Forks) (tale : Told w command told) :
      Story w kills (.supervising init command orphans) told
  | reporting (o : Outcome) (told : List Event) (forks : w.Forks)
      (tale : Told w .ended told) (named : w.forkedEnding.outcome? = some o) :
      Story w kills (.reporting o) told
  | reported (o : Outcome) (told : List Event) (forks : w.Forks)
      (tale : Told w .ended told) (named : w.forkedEnding.outcome? = some o) :
      Story w kills (.ended (.exited o.shellCode)) (told ++ [.reported o])
  | initFailed (command : CommandPhase) (told : List Event) (errno : Errno)
      (forks : w.Forks) (tale : Told w command told)
      (why : InitFails w command errno) :
      Story w kills (.ended (.exited ExitAction.failureCode))
        (told ++ [.diagnostic (.initFailed (.system errno))])

theorem deeds_of_early {told : List Event} {phase : Phase} (story : Story w kills phase told)
    (place : phase = .unborn ∨ phase = .inheriting ∨ phase = .mounting ∨ phase = .announcing ∨
      phase = .waiting) : told = [] := by
  cases story with
  | early => rfl
  | killed => rfl
  | executing => rfl
  | forking => rfl
  | _ => simp at place

theorem direct_of_executing {told : List Event} (story : Story w kills .executing told) :
    w.namespaces.pid = false ∧ told = [] := by
  cases story with
  | early place => simp at place
  | executing direct => exact ⟨direct, rfl⟩

theorem below_of_forking {told : List Event} (story : Story w kills .forking told) :
    w.namespaces.pid = true ∧ told = [] := by
  cases story with
  | early place => simp at place
  | forking below => exact ⟨below, rfl⟩

theorem forks_of_supervising {told : List Event} {init : Init} {command : CommandPhase}
    {orphans : List Ending} (story : Story w kills (.supervising init command orphans) told) :
    w.Forks ∧ Told w command told := by
  cases story with
  | early place => simp at place
  | supervising _ _ _ _ forks tale => exact ⟨forks, tale⟩

theorem forks_of_forked {told : List Event} {init : Init} {orphans : List Ending}
    (story : Story w kills (.supervising init .forked orphans) told) : w.Forks ∧ told = [] := by
  obtain ⟨forks, tale⟩ := forks_of_supervising story
  cases tale
  exact ⟨forks, rfl⟩

theorem told_of_running {script rest : List Act} {ending : Ending} {told : List Event}
    (tale : Told w (.running script ending) told) : Told w (.running rest ending) told := by
  cases tale with
  | running program _ found restored => exact .running program rest found restored

/-- A process that ends without a try at the command is one that could not get its signals back. -/
theorem shellCode_of_untried {told : List Event} {o : Outcome} (tale : Told w .ended told)
    (untried : .execAttempted w.command.argv ∉ told) (named : w.forkedEnding.outcome? = some o) :
    o.shellCode = ExitAction.failureCode := by
  cases tale with
  | unrestored errno failed =>
    rw [forkedEnding_of_unrestored failed] at named
    cases named
    rfl
  | ended | unstarted => simp [started, Child.unstarted] at untried

theorem restored_of_told {command : CommandPhase} {told : List Event} (tale : Told w command told)
    {argv : List Bytes} (tried : .execAttempted argv ∈ told) :
    w.host.init.restoreSignals = none := by
  cases tale with
  | forked => cases tried
  | unrestored => simp at tried
  | running _ _ _ restored | ended _ _ restored | unstarted _ _ restored => exact restored

theorem not_gaveUp_of_told {command : CommandPhase} {told : List Event} (tale : Told w command told)
    {argv : List Bytes} (tried : .execAttempted argv ∈ told) : ¬GaveUp told := by
  cases tale with
  | forked => cases tried
  | unrestored => simp at tried
  | running | ended => simp [GaveUp, started]
  | unstarted => simp [GaveUp, Child.unstarted, Diagnostic.ofInit]

/-- Only an init that can fork, and give the forked process its signals back, has its command
tried. -/
theorem able_of_tried {phase : Phase} {told : List Event} (story : Story w kills phase told)
    (below : w.namespaces.pid = true) (tried : .execAttempted w.command.argv ∈ told) :
    w.host.init.unforked? = none ∧ w.host.init.restoreSignals = none := by
  cases story with
  | running _ direct | ran _ direct | unstarted _ direct => cases below.symm.trans direct
  | supervising _ _ _ _ forks tale | reporting _ _ forks tale =>
    exact ⟨forks.2, restored_of_told tale tried⟩
  | reported _ _ forks tale | initFailed _ _ _ forks tale =>
    exact ⟨forks.2, restored_of_told tale (by simpa using tried)⟩
  | _ => simp at tried

theorem story_of_fail {d : Diagnostic} (story : Story w kills s.phase (deeds s.trace))
    (place : s.phase = .mounting ∨ s.phase = .announcing ∨ s.phase = .waiting)
    (cause : d.ofInit = false) (k : Socket) :
    Story w kills ({ s with socket := k }.fail d).phase
      (deeds ({ s with socket := k }.fail d).trace) := by
  have none : deeds s.trace = [] := deeds_of_early story (Or.inr (Or.inr place))
  show Story w kills (.ended (.exited ExitAction.failureCode)) (deeds (s.trace ++ [.diagnostic d]))
  rw [deeds_append, none]
  exact .stopped d cause

/-- An init that has not reaped anybody yet fails only by a call. -/
theorem initFails_of_move {init : Init} {command : CommandPhase} {orphans : List Ending}
    {errno : Errno} (here : s.phase = .supervising init command orphans)
    (tended : s.phase.Tended w) (fresh : Fresh s)
    (failed : init.result = some (.error errno) ∨
      init.result = none ∧ w.host.init.hindrance? init = some errno) :
    InitFails w command errno := by
  rcases failed with failed | ⟨-, hindered⟩
  · have alive : command ≠ .forked := by
      rintro rfl
      obtain ⟨rfl, -⟩ := fresh init orphans here
      cases failed
    rw [here] at tended
    obtain ⟨rfl, ending, cause, nameless⟩ := tended.1.failed errno failed
    exact .nameless alive ending (cause.imp_left death_eq_some) nameless
  · exact .interrupted errno (InitCalls.interrupts_of_hindrance hindered)

theorem story_of_move (story : Story w kills s.phase (deeds s.trace)) (tended : s.phase.Tended w)
    (fresh : Fresh s) (heard : ∀ o e k, s.phase = .reporting o → s.socket.report o ≠ (.error e, k))
    (move : Move w s t) : Story w kills t.phase (deeds t.trace) := by
  cases move with
  | inherited here =>
    have none := deeds_of_early story (by simp [here])
    show Story w kills .mounting (deeds s.trace)
    rw [none]
    exact .early (by simp)
  | mounted here =>
    have none := deeds_of_early story (by simp [here])
    show Story w kills .announcing (deeds s.trace)
    rw [none]
    exact .early (by simp)
  | unmounted fault here => exact story_of_fail story (by simp [here]) rfl s.socket
  | announced k here =>
    have none := deeds_of_early story (by simp [here])
    show Story w kills .waiting (deeds (s.trace ++ _))
    rw [deeds_append_of_nil rfl, none]
    exact .early (by simp)
  | unheard e k here => exact story_of_fail story (by simp [here]) rfl k
  | released k here =>
    have none := deeds_of_early story (by simp [here])
    show Story w kills (if w.namespaces.pid then .forking else .executing) (deeds (s.trace ++ _))
    rw [deeds_append_of_nil rfl, none]
    cases pid : w.namespaces.pid with
    | true => exact .forking pid
    | false => exact .executing pid
  | refused e k here => exact story_of_fail story (by simp [here]) rfl k
  | executed program here found =>
    rw [here] at story
    obtain ⟨direct, none⟩ := direct_of_executing story
    show Story w kills (.running program.ending) (deeds (s.trace ++ _ ++ _))
    rw [deeds_append, deeds_append, none]
    exact .running program direct found
  | unexecuted errno here failed =>
    rw [here] at story
    obtain ⟨direct, none⟩ := direct_of_executing story
    show Story w kills (.ended (.exited errno.execCode)) (deeds (s.trace ++ _ ++ _))
    rw [deeds_append, deeds_append, none]
    exact .unstarted errno direct failed
  | forked here able =>
    rw [here] at story
    obtain ⟨below, none⟩ := below_of_forking story
    show Story w kills (.supervising {} .forked []) (deeds s.trace)
    rw [none]
    exact .supervising _ _ _ _ ⟨below, able⟩ .forked
  | unforked errno here failed =>
    rw [here] at story
    obtain ⟨below, none⟩ := below_of_forking story
    show Story w kills (.ended (.exited ExitAction.failureCode)) (deeds (s.trace ++ _))
    rw [deeds_append, none]
    exact .unforked errno below failed
  | concluded init command orphans o here done =>
    rw [here] at story tended
    obtain ⟨forks, tale⟩ := forks_of_supervising story
    obtain ⟨ending, dead, named⟩ := tended.1.done o done
    obtain ⟨rfl, rfl⟩ := death_eq_some dead
    exact .reporting o _ forks tale named
  | initFailed init command orphans errno here failed =>
    have why := initFails_of_move here tended fresh failed
    rw [here] at story
    obtain ⟨forks, tale⟩ := forks_of_supervising story
    have same : (if command = .forked then { s with socket := s.socket.release .child }
        else s).trace = s.trace := by
      split <;> rfl
    show Story w kills (.ended (.exited ExitAction.failureCode)) (deeds (_ ++ _))
    rw [same, deeds_append]
    exact .initFailed command _ errno forks tale why
  | took init command orphans signal next here waits first taken =>
    rw [here] at story
    obtain ⟨forks, tale⟩ := forks_of_supervising story
    by_cases wake : signal = .chld
    · rw [if_pos wake]
      exact .supervising _ _ _ _ forks tale
    · rw [if_neg wake]
      show Story w kills (.supervising next command orphans) (deeds (s.trace ++ _))
      rw [deeds_append_of_nil rfl]
      exact .supervising _ _ _ _ forks tale
  | reported o k here sent =>
    rw [here] at story
    generalize told : deeds s.trace = said at story
    cases story with
    | early place => simp at place
    | reporting _ _ forks tale named =>
      show Story w kills (.ended (.exited o.shellCode)) (deeds (s.trace ++ [.reported o]))
      rw [deeds_append, told]
      exact .reported o _ forks tale named
  | unreported o e k here failed => exact absurd failed (heard o e k here)
  | commandEnded ending here =>
    rw [here] at story
    generalize told : deeds s.trace = said at story
    cases story with
    | early place => simp at place
    | running program direct found =>
      show Story w kills (.ended program.ending) (deeds (s.trace ++ _))
      rw [deeds_append, told]
      exact .ran program direct found
  | executedBelow init orphans program here found restored =>
    rw [here] at story
    obtain ⟨forks, none⟩ := forks_of_forked story
    show Story w kills (.supervising _ _ _) (deeds (s.trace ++ _ ++ _))
    rw [deeds_append, deeds_append, none]
    exact .supervising _ _ _ _ forks (.running program _ found restored)
  | unexecutedBelow init orphans errno next here failed ended restored =>
    rw [here] at story
    obtain ⟨forks, none⟩ := forks_of_forked story
    show Story w kills (.supervising _ _ _) (deeds (s.trace ++ _ ++ _))
    rw [deeds_append, deeds_append, none]
    exact .supervising _ _ _ _ forks (.unstarted errno failed restored)
  | unrestored init orphans errno next here failed ended =>
    rw [here] at story
    obtain ⟨forks, none⟩ := forks_of_forked story
    show Story w kills (.supervising _ _ _) (deeds (s.trace ++ _))
    rw [deeds_append, none]
    exact .supervising _ _ _ _ forks (.unrestored errno failed)
  | signalled init signal script ending orphans next here
  | orphaned init signal script ending orphans here
  | awaited init signal script ending orphans here =>
    rw [here] at story
    obtain ⟨forks, tale⟩ := forks_of_supervising story
    exact .supervising _ _ _ _ forks (told_of_running tale)
  | commandEndedBelow init ending orphans next here ended =>
    rw [here] at story
    obtain ⟨forks, tale⟩ := forks_of_supervising story
    generalize told : deeds s.trace = said at tale
    cases tale with
    | running program _ found restored =>
      show Story w kills (.supervising _ _ _) (deeds (s.trace ++ _))
      rw [deeds_append, told]
      exact .supervising _ _ _ _ forks (.ended program found restored)
  | orphanEnded init command orphans index ending next here found ended =>
    rw [here] at story
    obtain ⟨forks, tale⟩ := forks_of_supervising story
    exact .supervising _ _ _ _ forks tale

end Child

namespace Run

variable {w : Setting} {s : State} {left : List Event}

/-- The signals by which the mapper kills the child. -/
def Kills (w : Setting) (signal : Nat) : Prop :=
  ∃ kind ∈ kindsToMap w, (reply w kind).kill = some signal

theorem deeds_call (w : Setting) (kind : IdKind) :
    deeds (.mapperCalled kind w.childId (rangesOf w kind) ::
      ((reply w kind).started.map Event.toolStarted).toList) = [] := by
  cases (reply w kind).started <;> rfl

/-- A child that the mapper kills has done nothing. -/
theorem story_of_asked (c : Coherent w s left) {kind : IdKind} {rest : List IdKind}
    (here : s.parent = .mapping (kind :: rest))
    (story : Child.Story w.toSetting (Kills w) s.phase (deeds s.trace)) :
    Child.Story w.toSetting (Kills w) (asked w s kind).phase (deeds (asked w s kind).trace) := by
  obtain ⟨child, how, eq⟩ := asked_eq w s kind
  rw [eq]
  show Child.Story w.toSetting (Kills w) child.phase (deeds (child.trace ++ _))
  rw [deeds_append_of_nil (deeds_call w kind)]
  rcases how with rfl | ⟨signal, wish, death⟩
  · exact story
  · obtain ⟨-, alive, rfl⟩ := Child.killStep_eq_some death
    obtain ⟨due, -, place⟩ := c.left_of_mapping here
    have waiting := place.resolve_right alive
    have none : deeds s.trace = [] := by
      cases there : s.phase <;> rw [there] at waiting story
      case waiting => exact Child.deeds_of_early story (by simp)
      case supervising init command orphans => cases command <;> cases waiting
      all_goals cases waiting
    show Child.Story w.toSetting (Kills w) (.ended (.killed signal)) (deeds s.trace)
    rw [none]
    exact .killed signal ⟨kind, due.subset List.mem_cons_self, wish⟩

theorem story (reached : Undisturbed w s) :
    Child.Story w.toSetting (Kills w) s.phase (deeds s.trace) := by
  refine reached.invariant (P := fun s => Child.Story w.toSetting (Kills w) s.phase (deeds s.trace))
    (.early (by simp)) ?_
  intro s t reached story move
  obtain ⟨left, c⟩ := coherent reached.reachable
  cases move with
  | inner child move =>
    refine Child.story_of_move story (tended reached.reachable) c.fresh ?_ move
    intro o e k here failed
    unfold Socket.report at failed
    rw [c.deliver_of_below (by rw [here]; rfl)] at failed
    cases (Prod.mk.inj failed).1
  | cloned here =>
    have none := Child.deeds_of_early story (Or.inl (unborn_of_station (c.cloned here)))
    show Child.Story w.toSetting (Kills w) .inheriting (deeds s.trace)
    rw [none]
    exact .early (by simp)
  | mapped kind rest here done =>
    show Child.Story w.toSetting (Kills w) (asked w s kind).phase
      (deeds ((asked w s kind).trace ++ _))
    rw [deeds_append_of_nil rfl]
    exact story_of_asked c here story
  | unmapped kind rest e here failed => exact story_of_asked c here story
  | dropped | allMapped | unready | unsentGo => exact story
  | _ =>
    show Child.Story w.toSetting (Kills w) s.phase (deeds (s.trace ++ _))
    rw [deeds_append_of_nil rfl]
    exact story

end Run

end NamespaceEntry
