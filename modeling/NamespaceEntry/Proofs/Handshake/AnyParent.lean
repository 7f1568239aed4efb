import NamespaceEntry.Proofs.Handshake.Exchange

/-!
# A child and any parent

The other end of a child's channel may be in anyone's hands. Whoever holds it sends datagrams of
any form, receives or does not, and closes it at any point, and the child keeps to the protocol.
-/

namespace NamespaceEntry.Child

variable {w : Setting} {e : Exchange}

/-! ### How a child ends -/

theorem not_reported_of_told {command : CommandPhase} {told : List Event} {o : Outcome}
    (tale : Told w command told) : .reported o ∉ told := by
  cases tale <;> simp [started, Child.unstarted]

inductive End (w : Setting) : Ending → List Event → Prop where
  | spared (told : List Event) (tried : ∀ argv, .execAttempted argv ∉ told)
      (silent : ∀ o, .reported o ∉ told) : End w (.exited ExitAction.failureCode) told
  | failed (command : CommandPhase) (errno : Errno) (told : List Event)
      (tale : Told w command told) (why : InitFails w command errno) :
      End w (.exited ExitAction.failureCode)
        (told ++ [.diagnostic (.initFailed (.system errno))])
  | direct (told : List Event) (direct : w.namespaces.pid = false)
      (tried : .execAttempted w.command.argv ∈ told) (silent : ∀ o, .reported o ∉ told)
      (well : ¬GaveUp told) : End w w.commandEnding told
  | reported (o : Outcome) (told : List Event) (below : w.namespaces.pid = true)
      (tale : Told w .ended told) (named : w.forkedEnding.outcome? = some o) :
      End w (.exited o.shellCode) (told ++ [.reported o])
  | unreported (o : Outcome) (e : Error) (told : List Event) (below : w.namespaces.pid = true)
      (tale : Told w .ended told) (named : w.forkedEnding.outcome? = some o) :
      End w (.exited o.shellCode) (told ++ [.diagnostic (.notReported o e)])

theorem end_of_tale {ending : Ending} {told : List Event} (tale : Tale w (.ended ending) told) :
    End w ending told := by
  cases tale with
  | unreported o e told below tale named => exact .unreported o e told below tale named
  | told story =>
    generalize here : Phase.ended ending = phase at story
    cases story with
    | stopped d => cases here; exact .spared _ (by simp) (by simp)
    | unforked errno => cases here; exact .spared _ (by simp) (by simp)
    | ran program direct found =>
      cases here
      rw [← commandEnding_of_ok found]
      exact .direct _ direct (by simp [started]) (by simp [started]) (by simp [GaveUp, started])
    | unstarted errno direct failed =>
      cases here
      rw [← commandEnding_of_error failed]
      exact .direct _ direct (by simp [Child.unstarted]) (by simp [Child.unstarted])
        (by simp [GaveUp, Child.unstarted, Diagnostic.ofInit])
    | reported o told forks tale named => cases here; exact .reported o told forks.1 tale named
    | initFailed command told errno forks tale why =>
      cases here
      exact .failed command errno told tale why
    | killed signal cause => exact cause.elim
    | early place => subst here; simp at place
    | _ => cases here

/-- A child keeps to the protocol. -/
structure Obeys (w : Setting) (e : Exchange) : Prop where
  /-- It says that it is ready and then, from below, how its command ended, and nothing else. -/
  wire : e.wire <+: Handshake.encode .ready :: (w.report?.map Outcome.encode).toList
  /-- It says that it is ready when its mounts are made, unless it has been left before. -/
  ready : Handshake.encode .ready ∈ e.wire ↔
    w.Mounts ∧ e.child.phase.station ≠ .preparing ∧ ∀ p, e.left = some p → p.station ≠ .preparing
  /-- It tries to execute its command only after that and when the next thing that it hears is
  the cue. -/
  cleared : e.child.Attempted → Handshake.encode .ready ∈ e.wire ∧ e.heard = some cue
  /-- When it can do no more it has tried to, if so, unless a call of its init has failed. -/
  attempted : (∀ actor, stepOf w e.child actor = none) → Handshake.encode .ready ∈ e.wire →
    e.heard = some cue → e.child.Attempted ∨ Foiled w e.child.trace
  /-- It reports nothing before its command has ended, or could not be executed. -/
  told : ∀ o : Outcome, o.encode ∈ e.wire →
    .commandEnded w.commandEnding ∈ e.child.trace ∨
      (∃ errno, .diagnostic (.notExecuted w.command errno) ∈ e.child.trace) ∨
        ∃ errno, .diagnostic (.maskKept errno) ∈ e.child.trace
  /-- It has reported by its end, unless its init has given up or it has been left before. -/
  reported : ∀ ending o, e.child.phase = .ended ending → e.child.Attempted →
    w.report? = some o →
      (o.encode ∈ e.wire ↔ ¬GaveUp e.child.trace ∧ ∀ p, e.left = some p → p.station = .ended)
  /-- It fails if it has not tried. -/
  spared : ∀ ending, e.child.phase = .ended ending → ¬e.child.Attempted → ending = .exited 125
  /-- From below it exits as a shell does for its command, or fails if its init has given up. -/
  code : ∀ ending o, e.child.phase = .ended ending → e.child.Attempted →
    w.report? = some o →
      (GaveUp e.child.trace → ending = .exited 125) ∧
      (¬GaveUp e.child.trace → ∃ code, ending = .exited code ∧ code.toNat = match o with
        | .exited code => code.toNat
        | .signaled signal => 128 + signal.number)
  /-- With a command that was tried, an init gives up only at a death without an outcome or when
  it cannot wait for a signal or pass one on. -/
  lost : ∀ ending, e.child.phase = .ended ending → e.child.Attempted → GaveUp e.child.trace →
    (∃ dead, (dead = w.commandEnding ∨ dead ∈ w.orphans) ∧ dead.outcome? = none) ∨
      ∃ errno, w.host.init.Interrupts errno

theorem ended_of_station {phase : Phase} (here : phase.station = .ended) :
    ∃ ending, phase = .ended ending := by
  cases phase with
  | ended ending => exact ⟨ending, rfl⟩
  | supervising init command orphans => cases command <;> cases here
  | _ => cases here

theorem report?_eq_some {o : Outcome} :
    w.report? = some o ↔ w.namespaces.pid = true ∧ w.forkedEnding.outcome? = some o := by
  unfold Setting.report?
  cases w.namespaces.pid <;> simp

namespace Kept

theorem ending (kept : Kept w e) {ending : Ending} (here : e.child.phase = .ended ending) :
    End w ending (deeds e.child.trace) :=
  end_of_tale (here ▸ kept.tale)

/-- A child that has reported comes from below, and has nothing more to do. -/
theorem of_reported (kept : Kept w e) {o : Outcome} (here : e.child.phase.station = .ended)
    (told : .reported o ∈ tidings e.child.trace) :
    w.report? = some o ∧
      ∃ said, Told w .ended said ∧ deeds e.child.trace = said ++ [.reported o] := by
  obtain ⟨ending, here⟩ := ended_of_station here
  have member : .reported o ∈ deeds e.child.trace := (mem_deeds rfl).mpr (List.mem_filter.mp told).1
  have fate := kept.ending here
  generalize deeds e.child.trace = said at member fate
  cases fate with
  | spared _ _ silent | direct _ _ _ silent => exact absurd member (silent o)
  | failed _ _ _ tale | unreported _ _ _ _ tale =>
    rcases List.mem_append.mp member with before | last
    · exact absurd before (not_reported_of_told tale)
    · simp at last
  | reported o' said below tale named =>
    rcases List.mem_append.mp member with before | last
    · exact absurd before (not_reported_of_told tale)
    · obtain rfl := Event.reported.inj (List.mem_singleton.mp last)
      exact ⟨report?_eq_some.mpr ⟨below, named⟩, said, tale, rfl⟩

theorem exists_step (kept : Kept w e)
    (here : e.child.phase.station = .released ∨ e.child.phase.station = .forked) :
    ∃ actor t, stepOf w e.child actor = some t := by
  cases place : e.child.phase with
  | executing => exact ⟨.child, _, by rw [stepOf, step, place]⟩
  | forking => exact ⟨.child, _, by rw [stepOf, step, place]⟩
  | supervising init command orphans =>
    cases command with
    | running | ended => simp [place, Phase.station] at here
    | forked =>
      obtain ⟨rfl, -⟩ := kept.fresh init orphans place
      cases restored : w.host.init.restoreSignals with
      | some errno =>
        exact ⟨.command, _, by simp only [stepOf, commandStep, place, execForked?, restored]; rfl⟩
      | none =>
        cases found : w.host.start .command w.command.launch with
        | ok program =>
          exact ⟨.command, _, by
            simp only [stepOf, commandStep, place, execForked?, restored, found]; rfl⟩
        | error errno =>
          exact ⟨.command, _, by
            simp only [stepOf, commandStep, place, execForked?, restored, found]; rfl⟩
  | _ => simp [place, Phase.station] at here

theorem cleared (kept : Kept w e) (tried : e.child.Attempted) :
    Handshake.encode .ready ∈ e.wire ∧ e.heard = some cue := by
  have course := kept.course
  have late {P : Prop} (place : e.child.phase.station = .preparing ∨
      e.child.phase.station = .waiting ∨ e.child.phase.station = .released ∨
        e.child.phase.station = .forked) : P :=
    absurd tried (untold_of_no_deeds (deeds_of_unexecuted kept.tale place)).1
  generalize e.wire = words at course ⊢
  generalize e.heard = heard at course ⊢
  cases course with
  | mounting here | announcing here | waiting here => exact late (by simp [here, Phase.station])
  | released here => exact late (Or.inr (Or.inr here))
  | unready _ untried => exact absurd tried untried
  | refused _ _ untried => exact absurd tried untried
  | gone | reported => exact ⟨List.mem_cons_self, rfl⟩

theorem attempted (kept : Kept w e) (heard : e.heard = some cue)
    (past : ¬(e.child.phase.station = .released ∨ e.child.phase.station = .forked)) :
    e.child.Attempted ∨ Foiled w e.child.trace := by
  have course := kept.course
  rw [heard] at course
  generalize e.wire = words at course
  generalize same : some cue = heard at course
  cases course with
  | mounting | announcing | unready | waiting => cases same
  | refused _ _ _ r other => exact absurd (Option.some.inj same).symm other
  | released here => exact absurd here past
  | gone _ _ tried => exact tried
  | reported _ _ _ tried => exact tried

theorem wire (kept : Kept w e) :
    e.wire <+: Handshake.encode .ready :: (w.report?.map Outcome.encode).toList := by
  have course := kept.course
  generalize e.wire = words at course ⊢
  generalize e.heard = heard at course
  cases course with
  | mounting | announcing | unready => exact List.nil_prefix
  | waiting | refused | released | gone => exact (List.prefix_cons_inj _).mpr List.nil_prefix
  | reported o here _ _ told =>
    rw [(kept.of_reported here told).1]
    exact List.prefix_refl _

end Kept

inductive Last (w : Setting) (trace : List Event) : Ending → Prop where
  | direct (direct : w.namespaces.pid = false) (well : ¬GaveUp trace) : Last w trace w.commandEnding
  | lost (gaveUp : GaveUp trace)
      (why : (∃ dead, (dead = w.commandEnding ∨ dead ∈ w.orphans) ∧ dead.outcome? = none) ∨
        ∃ errno, w.host.init.Interrupts errno) : Last w trace (.exited ExitAction.failureCode)
  | below (o : Outcome) (reports : w.report? = some o) (well : ¬GaveUp trace)
      (told : .reported o ∈ tidings trace ∨ ∃ x, .diagnostic (.notReported o x) ∈ tidings trace) :
      Last w trace (.exited o.shellCode)

theorem Kept.last (kept : Kept w e) {ending : Ending} (here : e.child.phase = .ended ending)
    (tried : e.child.Attempted) : Last w e.child.trace ending := by
  obtain ⟨argv, tried⟩ := tried
  have tried := (mem_deeds rfl).mpr tried
  have gaveUp : GaveUp (deeds e.child.trace) ↔ GaveUp e.child.trace := gaveUp_deeds
  have tiding {event : Event} (deed : event.isDeed = true) (tiding : event.isTiding = true)
      (member : event ∈ deeds e.child.trace) : event ∈ tidings e.child.trace :=
    List.mem_filter.mpr ⟨(mem_deeds deed).mp member, tiding⟩
  have fate := kept.ending here
  generalize deeds e.child.trace = said at tried fate tiding gaveUp
  cases fate with
  | spared _ untried => exact absurd tried (untried argv)
  | direct _ direct _ _ well => exact .direct direct (mt gaveUp.mpr well)
  | failed command errno told tale why =>
    refine .lost (gaveUp.mp (gaveUp_concat.mpr (Or.inr ⟨_, rfl, rfl⟩))) ?_
    cases why with
    | interrupted _ interrupts => exact Or.inr ⟨errno, interrupts⟩
    | nameless _ ending dead nameless =>
      have tried : .execAttempted argv ∈ told := by simpa using tried
      have same := forkedEnding_of_restored (restored_of_told tale tried)
      exact Or.inl ⟨ending, dead.imp_left fun both => both.2.trans same, nameless⟩
  | reported o told below tale named =>
    have tried : .execAttempted argv ∈ told := by simpa using tried
    have well := not_gaveUp_of_told tale tried
    refine .below o (report?_eq_some.mpr ⟨below, named⟩) (mt gaveUp.mpr ?_)
      (Or.inl (tiding rfl rfl (by simp)))
    simpa [gaveUp_concat] using well
  | unreported o x told below tale named =>
    have tried : .execAttempted argv ∈ told := by simpa using tried
    have well := not_gaveUp_of_told tale tried
    refine .below o (report?_eq_some.mpr ⟨below, named⟩) (mt gaveUp.mpr ?_)
      (Or.inr ⟨x, tiding rfl rfl (by simp)⟩)
    simpa [gaveUp_concat, Diagnostic.ofInit] using well

theorem toNat_shellCode (o : Outcome) :
    o.shellCode.toNat = match o with
      | .exited code => code.toNat
      | .signaled signal => 128 + signal.number := by
  cases o with
  | exited code => rfl
  | signaled signal => cases signal <;> rfl

namespace Kept

theorem ready (kept : Kept w e) : Handshake.encode .ready ∈ e.wire ↔
    w.Mounts ∧ e.child.phase.station ≠ .preparing ∧
      ∀ p, e.left = some p → p.station ≠ .preparing := by
  have course := kept.course
  have parted := kept.parted
  constructor
  · intro said
    have filled : e.wire ≠ [] := List.ne_nil_of_mem said
    refine ⟨(course.of_filled filled).2, ?_, ?_⟩
    · exact fun place => filled (course.of_preparing place).1
    · exact fun p gone place => filled (parted.unready p gone place)
  · rintro ⟨mounts, past, there⟩
    refine (course.of_filled fun empty => ?_).1
    have ended : e.child.phase.station = .ended :=
      Classical.byContradiction fun alive => course.filled past alive empty
    obtain ⟨p, gone, place⟩ := parted.unheard mounts empty ended
    exact there p gone place

theorem told (kept : Kept w e) {o : Outcome} (said : o.encode ∈ e.wire) :
    .commandEnded w.commandEnding ∈ e.child.trace ∨
      (∃ errno, .diagnostic (.notExecuted w.command errno) ∈ e.child.trace) ∨
        ∃ errno, .diagnostic (.maskKept errno) ∈ e.child.trace := by
  obtain ⟨here, -, o', told⟩ := kept.course.of_report said
  obtain ⟨-, said, tale, all⟩ := kept.of_reported here told
  have done {event : Event} (deed : event.isDeed = true) (member : event ∈ said) :
      event ∈ e.child.trace :=
    (mem_deeds deed).mp (all ▸ List.mem_append_left _ member)
  cases tale with
  | ended program found =>
    rw [commandEnding_of_ok found]
    exact Or.inl (done rfl (by simp))
  | unstarted errno failed =>
    exact Or.inr (Or.inl ⟨errno, done rfl (by simp [Child.unstarted])⟩)
  | unrestored errno failed => exact Or.inr (Or.inr ⟨errno, done rfl List.mem_cons_self⟩)

theorem reported (kept : Kept w e) {ending : Ending} {o : Outcome}
    (here : e.child.phase = .ended ending) (tried : e.child.Attempted)
    (reports : w.report? = some o) :
    o.encode ∈ e.wire ↔ ¬GaveUp e.child.trace ∧ ∀ p, e.left = some p → p.station = .ended := by
  have course := kept.course
  have parted := kept.parted
  have place : e.child.phase.station = .ended := by rw [here]; rfl
  constructor
  · intro said
    obtain ⟨-, long, o', told⟩ := course.of_report said
    obtain ⟨-, before, tale, all⟩ := kept.of_reported place told
    refine ⟨?_, fun p gone => Classical.byContradiction fun alive => ?_⟩
    · obtain ⟨argv, member⟩ := tried
      have tried := (mem_deeds rfl).mpr member
      rw [all] at tried
      have tried : .execAttempted argv ∈ before := by simpa using tried
      have well := not_gaveUp_of_told tale tried
      rw [← gaveUp_deeds, all]
      simpa [gaveUp_concat] using well
    · have short := parted.untold p gone alive
      omega
  · rintro ⟨well, there⟩
    cases kept.last here tried with
    | direct direct => simp [Setting.report?, direct] at reports
    | lost gaveUp => exact absurd gaveUp well
    | below o' reports' _ told =>
      obtain rfl := Option.some.inj (reports.symm.trans reports')
      rcases told with told | ⟨x, lost⟩
      · obtain ⟨o', said, told⟩ := course.of_told place tried told
        obtain rfl := Option.some.inj (reports.symm.trans (kept.of_reported place told).1)
        exact said
      · obtain ⟨p, gone, alive⟩ := parted.lost o x lost
        exact absurd (there p gone) alive

theorem spared (kept : Kept w e) {ending : Ending} (here : e.child.phase = .ended ending)
    (untried : ¬e.child.Attempted) : ending = .exited ExitAction.failureCode := by
  have tries {said : List Event} (all : deeds e.child.trace = said) :
      .execAttempted w.command.argv ∉ said := by
    rw [← all, mem_deeds rfl]
    exact fun member => untried ⟨_, member⟩
  have fate := kept.ending here
  generalize all : deeds e.child.trace = said at fate
  cases fate with
  | spared => rfl
  | direct _ _ tried => exact absurd tried (tries all)
  | failed => rfl
  | reported _ said _ tale named | unreported _ _ said _ tale named =>
    have untried : .execAttempted w.command.argv ∉ said :=
      fun member => tries all (List.mem_append_left _ member)
    rw [shellCode_of_untried tale untried named]

end Kept

/-- A child keeps to the protocol, whatever whoever holds the other end does. -/
theorem child_obeys (comes : Exchange.Comes w e) : Obeys w e := by
  have kept := kept_of_comes comes
  exact
    { wire := kept.wire
      ready := kept.ready
      cleared := kept.cleared
      attempted := by
        intro stuck _ heard
        refine kept.attempted heard fun here => ?_
        obtain ⟨actor, t, taken⟩ := kept.exists_step here
        cases (stuck actor).symm.trans taken
      told := fun o said => kept.told said
      reported := fun ending o here tried reports => kept.reported here tried reports
      spared := fun ending here untried => kept.spared here untried
      code := by
        intro ending o here tried reports
        cases kept.last here tried with
        | direct direct => simp [Setting.report?, direct] at reports
        | lost gaveUp => exact ⟨fun _ => rfl, absurd gaveUp⟩
        | below o' reports' well =>
          obtain rfl := Option.some.inj (reports.symm.trans reports')
          exact ⟨fun gaveUp => absurd gaveUp well, fun _ => ⟨_, rfl, toNat_shellCode o⟩⟩
      lost := by
        intro ending here tried gaveUp
        cases kept.last here tried with
        | direct _ well => exact absurd gaveUp well
        | lost _ why => exact why
        | below _ _ well => exact absurd gaveUp well }

def lonely : Setting := (Run.lone Run.secluded .plain { ending := .exited 3 }).toSetting

/-- Go is sent to a child before it asks, and something else behind it. -/
theorem child_obeys_hasty : ∃ e, Exchange.Comes lonely e ∧
    e.child.phase = .ended (.exited 3) ∧
    e.wire = [Handshake.encode .ready, Outcome.encode (.exited 3)] ∧ Obeys lonely e := by
  have step {e : Exchange} (comes : Exchange.Comes lonely e) (actor : Actor) {t : State}
      (taken : stepOf lonely e.child actor = some t) := comes.tail (.child actor t taken)
  have start : Exchange.Comes lonely {} := .refl
  have hasty := start.tail (.sends (Handshake.encode .go) rfl)
  have more := hasty.tail (.sends (Handshake.encode .ready) rfl)
  have comes := step (step (step (step (step (step (step (step (step more .child rfl) .child rfl)
    .child rfl) .child rfl) .command rfl) .command rfl) .child rfl) .child rfl) .child rfl
  exact ⟨_, comes, rfl, rfl, child_obeys comes⟩

/-- An init that can have no process below it. -/
def barrenInit : Setting :=
  { lonely with host := { lonely.host with init := { fork := some .tryAgain } } }

/-- The command leaves a process behind that dies by a real-time signal. -/
def burdened : Setting :=
  (Run.lone Run.secluded .plain { script := [.orphan (.killed 34)], ending := .exited 3 }).toSetting

/-- A child that is left before it is ready has its mounts and says nothing. One that is let go does
not try its command if it cannot fork, and one whose init was lost to another death says nothing of
the command that has ended, and fails. -/
theorem unsaid_or_untried :
    (∃ e, Exchange.Comes lonely e ∧ lonely.Mounts ∧ e.child.phase = .ended (.exited 125) ∧
      Handshake.encode .ready ∉ e.wire) ∧
    (∃ e, Exchange.Comes barrenInit e ∧ e.child.phase = .ended (.exited 125) ∧
      Handshake.encode .ready ∈ e.wire ∧ e.heard = some cue ∧ ¬e.child.Attempted) ∧
    ∃ e, Exchange.Comes burdened e ∧ e.child.phase = .ended (.exited 125) ∧
      .commandEnded (.exited 3) ∈ e.child.trace ∧ burdened.report? = some (.exited 3) ∧
      e.left = none ∧ e.wire = [Handshake.encode .ready] := by
  have step {w : Setting} {e : Exchange} (comes : Exchange.Comes w e) (actor : Actor) {t : State}
      (taken : stepOf w e.child actor = some t) := comes.tail (.child actor t taken)
  refine ⟨?_, ?_, ?_⟩
  · have left := Relation.ReflTransGen.single (Exchange.Step.leaves (w := lonely) (e := {}) rfl)
    exact ⟨_, step (step left .child rfl) .child rfl, rfl, rfl, List.not_mem_nil⟩
  · have start : Exchange.Comes barrenInit {} := .refl
    have go := start.tail (.sends (Handshake.encode .go) rfl)
    have comes := step (step (step (step go .child rfl) .child rfl) .child rfl) .child rfl
    refine ⟨_, comes, rfl, List.mem_cons_self, rfl, ?_⟩
    rintro ⟨argv, tried⟩
    have tried : .execAttempted argv ∈
        [Event.readySent, .goReceived, .diagnostic (.initFailed (.system .tryAgain))] := tried
    simp at tried
  · have start : Exchange.Comes burdened {} := .refl
    have go := start.tail (.sends (Handshake.encode .go) rfl)
    have forked := step (step (step (step go .child rfl) .child rfl) .child rfl) .child rfl
    have ended := step (step (step forked .command rfl) .command rfl) .command rfl
    have comes := step (step (step ended (.orphan 0) rfl) .child rfl) .child rfl
    exact ⟨_, comes, rfl, by decide +kernel, rfl, rfl, rfl⟩

end NamespaceEntry.Child
