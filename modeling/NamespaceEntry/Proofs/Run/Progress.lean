import NamespaceEntry.Proofs.Handshake.ParentMoves
import NamespaceEntry.Proofs.Init.Reaping
import NamespaceEntry.Proofs.Run.Schedules

/-!
# Every run comes to an end

Each step makes a run's `rank` smaller, so no run goes on forever. A run in which nobody can
take a step has a result, or its command waits for a signal that never comes.
-/

namespace NamespaceEntry

namespace Child

variable {w : Setting} {s t : State}

/-! ### Ranks -/

/-- How many steps an act can lead to, those of the init included. -/
def weight : Act → Nat
  | .signal _ => 2
  | .orphan _ => 3
  | .await _ => 1

def weights : List Act → Nat
  | [] => 0
  | act :: rest => weight act + weights rest

def Setting.commandRank (w : Setting) : Nat :=
  match w.host.start .command w.command.launch with
  | .ok program => weights program.script + 3
  | .error _ => 2

def CommandPhase.rank (w : Setting) : CommandPhase → Nat
  | .forked => w.commandRank
  | .running script _ => weights script + 2
  | .ended => 0

def Phase.rank (w : Setting) : Phase → Nat
  | .unborn | .inheriting => w.commandRank + 7
  | .mounting => w.commandRank + 6
  | .announcing => w.commandRank + 5
  | .waiting => w.commandRank + 4
  | .executing | .forking => w.commandRank + 3
  | .supervising init command orphans =>
    init.pending.length + command.rank w + 2 * orphans.length + 2
  | .reporting _ | .running _ => 1
  | .ended _ => 0

theorem length_raise (i : Init) (signal : Signal) :
    (i.raise signal).pending.length ≤ i.pending.length + 1 := by
  unfold Init.raise
  split
  · exact Nat.le_of_eq (List.length_append ..)
  · exact Nat.le_succ _

theorem length_bury (i : Init) (member : Member) (ending : Ending) :
    (i.bury member ending).pending.length ≤ i.pending.length + 1 := length_raise _ _

theorem length_took {i j : Init} {signal : Signal} (taken : i.step (.took signal) = some j) :
    j.pending.length + 1 = i.pending.length := by
  rw [Init.step_took] at taken
  split at taken
  · rename_i free
    simp only [Bool.and_eq_true, List.contains_iff_mem] at free
    cases taken
    have handled : ∀ i : Init, (i.handle signal).pending = i.pending := by
      intro i
      unfold Init.handle Init.reap
      split <;> rfl
    have some := List.length_pos_of_mem free.2
    rw [handled, List.length_erase_of_mem free.2]
    omega
  · cases taken

theorem length_died {i j : Init} {member : Member} {ending : Ending}
    (died : i.step (.ended member ending) = some j) :
    j.pending.length ≤ i.pending.length + 1 := by
  cases member with
  | orphan =>
    cases died
    exact length_bury ..
  | command =>
    rw [Init.step_commandDied] at died
    split at died
    · cases died
      exact length_bury ..
    · cases died

theorem commandRank_pos (w : Setting) : 2 ≤ w.commandRank := by
  unfold Setting.commandRank
  split <;> omega

theorem rank_lt_of_move (move : Move w s t) : t.phase.rank w < s.phase.rank w := by
  have pos := commandRank_pos w
  cases move with
  | released k here =>
    rw [here]
    cases w.namespaces.pid <;> simp [State.goto, Phase.rank]
  | executed program here =>
    rw [here]
    simp only [State.goto, Phase.rank]
    omega
  | forked here =>
    rw [here]
    simp only [State.goto, Phase.rank, CommandPhase.rank, List.length_nil]
    omega
  | took init command orphans signal next here waits first taken =>
    have shorter := length_took taken
    rw [here]
    simp only [State.goto, Phase.rank]
    omega
  | executedBelow init orphans program here found =>
    rw [here]
    simp only [State.goto, Phase.rank, CommandPhase.rank, Setting.commandRank, found]
    omega
  | unexecutedBelow init orphans errno next here failed ended =>
    have longer := length_died ended
    rw [here]
    simp only [State.goto, Phase.rank, CommandPhase.rank, Setting.commandRank, failed]
    omega
  | unrestored init orphans errno next here failed ended =>
    have longer := length_died ended
    rw [here]
    simp only [State.goto, Phase.rank, CommandPhase.rank]
    omega
  | signalled init signal script ending orphans next here sent =>
    cases sent
    have longer := length_raise init signal
    rw [here]
    simp only [State.goto, Phase.rank, CommandPhase.rank, weights, weight]
    omega
  | orphaned init orphan script ending orphans here =>
    rw [here]
    simp only [State.goto, Phase.rank, CommandPhase.rank, weights, weight,
      List.length_append, List.length_singleton]
    omega
  | awaited init signal script ending orphans here =>
    rw [here]
    simp only [State.goto, Phase.rank, CommandPhase.rank, weights, weight]
    omega
  | commandEndedBelow init ending orphans next here ended =>
    have longer := length_died ended
    rw [here]
    simp only [State.goto, Phase.rank, CommandPhase.rank, weights]
    omega
  | orphanEnded init command orphans index ending next here found ended =>
    have longer := length_died ended
    have inside : index < orphans.length := (List.getElem?_eq_some_iff.mp found).1
    rw [here]
    simp only [State.goto, Phase.rank, List.length_eraseIdx_of_lt inside]
    omega
  | inherited here | mounted here | unmounted fault here | announced k here | unheard e k here
  | refused e k here | unexecuted errno here | unforked errno here | concluded init command orphans o here
  | initFailed init command orphans errno here | reported o k here | unreported o e k here
  | commandEnded ending here =>
    rw [here]
    simp only [State.goto, State.fail, State.exit, Phase.rank]
    omega

end Child

namespace Run

open Child (Station)

variable {w : Setting} {s t : State} {left : List Event}

def ParentPhase.rank (w : Setting) : ParentPhase → Nat
  | .cloning => (kindsToMap w).length + 7
  | .dropping => (kindsToMap w).length + 6
  | .awaitingReady => (kindsToMap w).length + 5
  | .mapping kinds => kinds.length + 4
  | .releasing => 3
  | .awaitingReport | .abandoning _ => 2
  | .reaping _ | .aborting _ => 1
  | .finished _ => 0

def State.rank (w : Setting) (s : State) : Nat := s.parent.rank w + s.phase.rank w.toSetting

theorem rank_asked (w : Setting) (s : State) (kind : IdKind) :
    (asked w s kind).phase.rank w.toSetting ≤ s.phase.rank w.toSetting := by
  obtain ⟨child, rfl | ⟨signal, -, death⟩, eq⟩ := asked_eq w s kind
  · rw [eq]
    exact Nat.le_refl _
  · obtain ⟨-, -, rfl⟩ := Child.killStep_eq_some death
    rw [eq]
    exact Nat.zero_le _

theorem unborn_of_station {phase : Child.Phase} (place : phase.station = .unborn) :
    phase = .unborn := by
  cases phase with
  | unborn => rfl
  | supervising init command orphans => cases command <;> cases place
  | _ => cases place

theorem rank_lt_of_move (c : Coherent w s left) (move : Move w s t) : t.rank w < s.rank w := by
  unfold State.rank
  cases move with
  | inner child move => exact Nat.add_lt_add_left (Child.rank_lt_of_move move) _
  | mapped kind rest here =>
    have fewer := rank_asked w s kind
    rw [here]
    simp only [State.next, State.note, Child.State.log, ParentPhase.rank, List.length_cons]
    omega
  | unmapped kind rest e here =>
    have fewer := rank_asked w s kind
    rw [here]
    simp only [State.next, ParentPhase.rank, List.length_cons]
    omega
  | cloned here =>
    rw [here, unborn_of_station (c.cloned here)]
    simp only [ParentPhase.rank, Child.Phase.rank]
    omega
  | uncloned errno here | dropped here | ready k here | unready e k here | allMapped here
  | sentGo k here | unsentGo e k here | heard report k here | misheard e k here
  | reaped report ending here | abandoned cause here | aborted cause ending here =>
    rw [here]
    simp only [State.next, State.note, State.drop, Child.State.log, ParentPhase.rank,
      List.length_nil]
    omega

/-! ### Nobody is stuck -/

/-- The command waits for a signal that its init has not passed on. -/
def State.Awaits (s : State) : Prop :=
  ∃ init signal script ending orphans,
    s.phase = .supervising init (.running (.await signal :: script) ending) orphans ∧
      signal ∉ init.forwarded

theorem next_of_child {child : Child.State}
    (taken : Child.step w.toSetting s.toState = some child) :
    ∃ t, Next w s t := ⟨_, next_of_inner .child taken⟩

theorem next_of_command {child : Child.State}
    (taken : Child.commandStep w.toSetting s.toState = some child) :
    ∃ t, Next w s t := ⟨_, next_of_inner .command taken⟩

theorem exists_died {init : Init} {command : Child.CommandPhase} {lost : Ending → Prop}
    (tended : init.Tended (command.death w.toSetting) lost) (alive : command ≠ .ended)
    (ending : Ending) : ∃ next, init.step (.ended .command ending) = some next := by
  have there : init.commandAlive = true := by
    rw [tended.alive]
    cases command with
    | ended => exact absurd rfl alive
    | _ => rfl
  exact ⟨_, (Init.step_commandDied init ending).trans (if_pos there)⟩

/-- A command can go on, or its init can, unless it waits for a signal. -/
theorem next_of_supervising {init : Init} {command : Child.CommandPhase} {orphans : List Ending}
    (here : s.phase = .supervising init command orphans) (tended : s.phase.Tended w.toSetting) :
    s.Awaits ∨ ∃ t, Next w s t := by
  rw [here] at tended
  obtain ⟨tended, -, -⟩ := tended
  cases command with
  | forked =>
    right
    have dies := exists_died tended (by simp)
    cases restored : w.host.init.restoreSignals with
    | some errno =>
      obtain ⟨next, died⟩ := dies (.exited ExitAction.failureCode)
      exact next_of_command (by
        simp only [Child.commandStep, here, Child.execForked?, restored, Child.failForked?, died]
        rfl)
    | none =>
      cases found : w.host.start .command w.command.launch with
      | ok program =>
        exact next_of_command (by
          simp only [Child.commandStep, here, Child.execForked?, restored, found]; rfl)
      | error errno =>
        obtain ⟨next, died⟩ := dies (.exited errno.execCode)
        exact next_of_command (by
          simp only [Child.commandStep, here, Child.execForked?, restored, found,
            Child.failForked?, died]
          rfl)
  | running script ending =>
    cases script with
    | nil =>
      obtain ⟨next, died⟩ := exists_died tended (by simp) ending
      exact Or.inr (next_of_command (by simp only [Child.commandStep, here, died]; rfl))
    | cons act script =>
      cases act with
      | signal signal =>
        exact Or.inr (next_of_command (by simp only [Child.commandStep, here, Child.act?]; rfl))
      | orphan orphan =>
        exact Or.inr (next_of_command (by simp only [Child.commandStep, here, Child.act?]; rfl))
      | await signal =>
        by_cases passed : signal ∈ init.forwarded
        · have passed := List.contains_iff_mem.mpr passed
          exact Or.inr (next_of_command (by
            simp only [Child.commandStep, here, Child.act?, passed, if_true]; rfl))
        · exact Or.inl ⟨init, signal, script, ending, orphans, here, passed⟩
  | ended =>
    right
    cases known : init.result with
    | some result =>
      cases result with
      | ok o =>
        exact next_of_child (by simp only [Child.step, here, Child.superviseStep?, known]; rfl)
      | error errno =>
        exact next_of_child (by simp only [Child.step, here, Child.superviseStep?, known]; rfl)
    | none =>
      have dead := tended.kept _ rfl known
      have woken := tended.wakes (List.ne_nil_of_mem dead) known
      obtain ⟨signal, next, first, taken⟩ := Init.exists_took known woken
      cases free : w.host.init.hindrance? init with
      | some errno =>
        exact next_of_child (by
          simp only [Child.step, here, Child.superviseStep?, known, free]; rfl)
      | none =>
        exact next_of_child (by
          simp only [Child.step, here, Child.superviseStep?, known, free, first, taken, bind,
            Option.bind_some]; rfl)

theorem next_of_alive (tended : s.phase.Tended w.toSetting) (born : s.phase.station ≠ .unborn)
    (alive : s.phase.station ≠ .ended) (free : s.phase.station ≠ .waiting) :
    s.Awaits ∨ ∃ t, Next w s t := by
  cases here : s.phase with
  | unborn => exact absurd (by rw [here]; rfl) born
  | ended ending => exact absurd (by rw [here]; rfl) alive
  | waiting => exact absurd (by rw [here]; rfl) free
  | supervising init command orphans => exact next_of_supervising here tended
  | running ending => exact Or.inr (next_of_command (by simp only [Child.commandStep, here]; rfl))
  | mounting =>
    cases mounted : w.host.mount w.namespaces w.procTarget with
    | ok => exact Or.inr (next_of_child (by simp only [Child.step, here, mounted]; rfl))
    | error fault => exact Or.inr (next_of_child (by simp only [Child.step, here, mounted]; rfl))
  | inheriting | announcing | executing | forking | reporting =>
    exact Or.inr (next_of_child (by simp only [Child.step, here]; rfl))

theorem next_of_go (here : s.phase = .waiting) (heard : s.socket.await? .child .go ≠ none) :
    ∃ t, Next w s t := by
  obtain ⟨result, got⟩ := Option.ne_none_iff_exists'.mp heard
  exact next_of_child (by simp only [Child.step, here, Child.waitGo?, got]; rfl)

theorem next_of_ready (there : s.parent = .awaitingReady)
    (heard : s.socket.await? .parent .ready ≠ none) : ∃ t, Next w s t := by
  obtain ⟨result, got⟩ := Option.ne_none_iff_exists'.mp heard
  exact ⟨_, next_of_parent (by simp only [parentStep, there, awaitReady?, got]; rfl)⟩

theorem next_of_report (there : s.parent = .awaitingReport) (heard : s.socket.awaitReport? ≠ none) :
    ∃ t, Next w s t := by
  obtain ⟨result, got⟩ := Option.ne_none_iff_exists'.mp heard
  exact ⟨_, next_of_parent (by simp only [parentStep, there, Run.awaitReport?, got]; rfl)⟩

theorem next_of_ended {ending : Ending} (ended : s.phase = .ended ending)
    (there : (∃ report, s.parent = .reaping report) ∨ ∃ cause, s.parent = .aborting cause) :
    ∃ t, Next w s t := by
  rcases there with ⟨report, there⟩ | ⟨cause, there⟩ <;>
    exact ⟨_, next_of_parent (by simp only [parentStep, there, reap?, ended]; rfl)⟩

namespace Coherent

/-- A parent that is not done can go on unless it waits for the child. -/
theorem parent_free (w : Setting) (s : State) : (∃ r, s.parent = .finished r) ∨
    (∃ t, Next w s t) ∨ s.parent = .awaitingReady ∨ s.parent = .awaitingReport ∨
      (∃ report, s.parent = .reaping report) ∨ ∃ cause, s.parent = .aborting cause := by
  cases there : s.parent with
  | finished r => exact Or.inl ⟨r, rfl⟩
  | awaitingReady => exact Or.inr (Or.inr (Or.inl rfl))
  | awaitingReport => exact Or.inr (Or.inr (Or.inr (Or.inl rfl)))
  | reaping report => exact Or.inr (Or.inr (Or.inr (Or.inr (Or.inl ⟨report, rfl⟩))))
  | aborting cause => exact Or.inr (Or.inr (Or.inr (Or.inr (Or.inr ⟨cause, rfl⟩))))
  | mapping kinds =>
    cases kinds <;>
      exact Or.inr (Or.inl ⟨_, next_of_parent (by simp only [parentStep, there]; rfl)⟩)
  | cloning | dropping | releasing | abandoning =>
    exact Or.inr (Or.inl ⟨_, next_of_parent (by simp only [parentStep, there]; rfl)⟩)

theorem next_of_dead (c : Coherent w s left) {ending : Ending} (ended : s.phase = .ended ending) :
    (∃ r, s.parent = .finished r) ∨ ∃ t, Next w s t := by
  have closed : ∀ {phase : ParentPhase}, s.parent = phase → phase.copies .child = 0 →
      s.socket.child.isOpen = false := by
    intro phase there none
    have held := c.held .child
    rw [there, none, ended] at held
    exact Socket.isOpen_eq_false.mpr held
  rcases parent_free w s with done | next | there | there | waits
  · exact Or.inl done
  · exact Or.inr next
  · refine Or.inr (next_of_ready there ?_)
    intro blocked
    have peer : s.socket.child.isOpen = true := (Socket.await?_eq_none.mp blocked).2.2
    cases peer.symm.trans (closed there rfl)
  · refine Or.inr (next_of_report there ?_)
    intro blocked
    have peer := (Socket.awaitReport?_eq_none.mp blocked).2.2
    cases peer.symm.trans (closed there rfl)
  · exact Or.inr (next_of_ended ended waits)

/-- A child that waits to be let go is not kept waiting by a parent that waits itself. -/
theorem next_of_waiting (c : Coherent w s left) (here : s.phase = .waiting) :
    (∃ r, s.parent = .finished r) ∨ ∃ t, Next w s t := by
  have place : s.phase.station = .waiting := by rw [here]; rfl
  have stage := c.child
  have parent := c.parent
  have gaveUp := c.gaveUp
  rw [place] at stage gaveUp
  obtain ⟨enough, started⟩ := stage
  rcases parent_free w s with done | next | there | there | ⟨report, there⟩ | ⟨cause, there⟩
  · exact Or.inl done
  · exact Or.inr next
  · -- The child has said that it is ready, and that has not been read.
    refine Or.inr (next_of_ready there ?_)
    intro blocked
    have unread := (Socket.await?_eq_none.mp blocked).2.1
    rw [Socket.get_parent, c.inbox, there, Run.inbox, if_neg (by omega)] at unread
    cases unread
  · -- The message to go waits for the child.
    rw [there] at parent
    have few : left.length = 2 := Nat.le_antisymm parent enough
    refine Or.inr (next_of_go here ?_)
    intro blocked
    have unread := (Socket.await?_eq_none.mp blocked).2.1
    rw [Socket.get_child, c.outbox, Run.outbox, if_pos ⟨place, few⟩] at unread
    cases unread
  · rw [there] at parent gaveUp
    have few : left.length ≤ 2 := parent
    rcases gaveUp rfl with gone | ⟨-, many⟩
    · cases gone
    · omega
  · -- The parent has closed its end, and so ends the wait of the child.
    refine Or.inr (next_of_go here ?_)
    intro blocked
    have held := c.held .parent
    rw [there, place] at held
    have peer : s.socket.parent.isOpen = true := (Socket.await?_eq_none.mp blocked).2.2
    cases peer.symm.trans (Socket.isOpen_eq_false.mpr held)

end Coherent

/-- In every state that a run can reach somebody can take a step, until there is a result or
unless the command waits for a signal. -/
theorem next_of_reachable (reached : Reachable w s) :
    (∃ r, s.parent = .finished r) ∨ s.Awaits ∨ ∃ t, Next w s t := by
  obtain ⟨left, c⟩ := coherent reached
  cases here : s.phase with
  | unborn =>
    rcases c.unborn (by rw [here]; rfl) with there | done
    · exact Or.inr (Or.inr ⟨_, next_of_parent (by simp only [parentStep, there]; rfl)⟩)
    · exact Or.inl done
  | ended ending => exact (c.next_of_dead here).imp_right Or.inr
  | waiting => exact (c.next_of_waiting here).imp_right Or.inr
  | supervising init command orphans =>
    exact Or.inr (next_of_supervising here (tended reached))
  | _ =>
    exact Or.inr (next_of_alive (tended reached) (by rw [here]; nofun) (by rw [here]; nofun)
      (by rw [here]; nofun))

/-! ### Undisturbed runs end -/

theorem rank_lt_of_next (reached : Reachable w s) (taken : Next w s t) : t.rank w < s.rank w := by
  obtain ⟨left, c⟩ := coherent reached
  exact rank_lt_of_move c (move_of_next taken)

/-- An undisturbed run is over at some time, whatever the order of its steps: it has a result, or
its command waits for a signal. -/
theorem inevitably_over {Q : State → Prop} (kept : ∀ t u, Q t → Move w t u → Q u)
    (reached : Undisturbed w s) (here : Q s) :
    Inevitably w (fun t => Undisturbed w t ∧ Q t ∧
      ((∃ r, t.parent = .finished r) ∨ t.Awaits)) s := by
  induction size : s.rank w using Nat.strongRecOn generalizing s with
  | ind bound ih =>
    rcases next_of_reachable reached.reachable with done | waits | possible
    · exact .now ⟨reached, here, Or.inl done⟩
    · exact .now ⟨reached, here, Or.inr waits⟩
    · refine .later possible ?_
      intro t taken
      have smaller := rank_lt_of_next reached.reachable taken
      exact ih _ (size ▸ smaller) (reached.next taken) (kept s t here (move_of_next taken)) rfl

/-- It has a result if something that the run keeps excludes that its command waits. -/
theorem inevitably_finished {Q : State → Prop} (kept : ∀ t u, Q t → Move w t u → Q u)
    (awake : ∀ t, Undisturbed w t → Q t → ¬t.Awaits) (reached : Undisturbed w s) (here : Q s) :
    Inevitably w (fun t => Undisturbed w t ∧ Q t ∧ ∃ r, t.parent = .finished r) s := by
  refine (inevitably_over kept reached here).mono ?_
  rintro t ⟨reached, here, done | waits⟩
  · exact ⟨reached, here, done⟩
  · exact absurd waits (awake t reached here)

end Run

end NamespaceEntry
