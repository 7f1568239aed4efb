import NamespaceEntry.Proofs.Run.Story

/-!
# What a child says

A child that holds its own end and no other says at most two things on the wire. `Turn` sorts its
moves by what they say and by what they need from the other side, whoever that is. `Tale` is the
story of a child whose report may come too late.
-/

namespace NamespaceEntry

namespace Socket

variable {s t u : Socket} {xs ys : List Bytes}

/-- The child's side puts datagrams on the wire, and does nothing else to the other end. -/
structure Speaks (s : Socket) (xs : List Bytes) (t : Socket) : Prop where
  queue : t.parent.queue = s.parent.queue ++ xs
  holders : t.parent.holders = s.parent.holders
  reset : t.child.reset = true → s.child.reset = true

namespace Speaks

theorem nothing (s : Socket) : Speaks s [] s := ⟨(List.append_nil _).symm, rfl, id⟩

theorem trans (first : Speaks s xs t) (second : Speaks t ys u) : Speaks s (xs ++ ys) u :=
  ⟨by rw [second.queue, first.queue, List.append_assoc], second.holders.trans first.holders,
    first.reset ∘ second.reset⟩

theorem share (s : Socket) : Speaks s [] (s.share .child) :=
  ⟨(List.append_nil _).symm, rfl, id⟩

theorem release (s : Socket) : Speaks s [] (s.release .child) where
  queue := by rw [List.append_nil]; exact queue_release_other s .child
  holders := (holders_release s .child .parent).trans (Nat.sub_zero _)
  reset lost := by
    have kept := reset_release s .child
    rw [get_child] at kept
    rw [kept] at lost
    split at lost
    · cases lost
    · exact lost

theorem receive (s : Socket) (limit : Nat) : Speaks s [] (s.receive .child limit).2 := by
  cases calm : (s.get .child).reset with
  | true =>
    rw [receive_of_reset calm]
    exact ⟨(List.append_nil _).symm, rfl, nofun⟩
  | false =>
    cases queued : (s.get .child).queue with
    | cons bytes rest =>
      rw [receive_of_cons calm queued]
      exact ⟨(List.append_nil _).symm, rfl, id⟩
    | nil =>
      rw [receive_of_nil calm queued]
      exact nothing s

theorem await {m : Handshake} {result : Except Error Unit}
    (got : s.await? .child m = some (result, t)) : Speaks s [] t := by
  obtain ⟨bytes, -, same⟩ := Option.map_eq_some_iff.mp got
  obtain rfl : (s.receive .child messageLimit).2 = t := congrArg Prod.snd same
  exact receive s messageLimit

theorem deliver {bytes : Bytes} (sent : s.deliver .child bytes = (.ok (), t)) :
    Speaks s [bytes] t := by
  obtain ⟨-, -, rfl⟩ := deliver_ok sent
  exact ⟨rfl, rfl, id⟩

theorem undelivered {bytes : Bytes} {e : Error} (failed : s.deliver .child bytes = (.error e, t)) :
    Speaks s [] t := by
  obtain ⟨-, rfl, -⟩ := deliver_error failed
  exact ⟨(List.append_nil _).symm, rfl, nofun⟩

end Speaks

theorem report_eq {o : Outcome} {result : Except Error Unit} (sent : s.report o = (result, t)) :
    ∃ u, s.deliver .child o.encode = (result, u) ∧ t = u.release .child := by
  cases sent
  exact ⟨_, rfl, rfl⟩

end Socket

/-- Whether an event says how a report went. -/
def Event.isTiding : Event → Bool
  | .reported _ | .diagnostic (.notReported ..) => true
  | _ => false

def tidings (trace : List Event) : List Event := trace.filter Event.isTiding

theorem tidings_append (xs ys : List Event) : tidings (xs ++ ys) = tidings xs ++ tidings ys :=
  List.filter_append ..

theorem mem_tidings_concat {xs : List Event} {x y : Event} (member : x ∈ tidings (xs ++ [y])) :
    x ∈ tidings xs ∨ x = y ∧ y.isTiding = true := by
  rw [tidings_append, List.mem_append] at member
  refine member.imp_right fun last => ?_
  have last := List.mem_filter.mp last
  obtain rfl := List.mem_singleton.mp last.1
  exact ⟨rfl, last.2⟩

namespace Child

open Socket (Speaks)

variable {w : Setting} {s t : State}

/-! ### Turns -/

/-- The child, or a process below it, has tried to execute a command. -/
def State.Attempted (s : State) : Prop := ∃ argv, .execAttempted argv ∈ s.trace

/-- The moves of a child that has let go of its parent's end, by what they say and need. -/
inductive Turn (w : Setting) (s t : State) : Prop where
  | mounted (here : s.phase = .mounting) (after : t.phase = .announcing)
      (done : w.host.mount w.namespaces w.procTarget = .ok ())
      (ends : Speaks s.socket [] t.socket) (said : t.trace = s.trace)
  | unmounted (here : s.phase = .mounting) (after : t.phase.station = .ended)
      (failed : w.host.mount w.namespaces w.procTarget ≠ .ok ())
      (ends : Speaks s.socket [] t.socket) (d : Diagnostic)
      (said : t.trace = s.trace ++ [.diagnostic d])
      (plain : (Event.diagnostic d).isTiding = false)
  | announced (here : s.phase = .announcing) (after : t.phase = .waiting)
      (heard : s.socket.parent.isOpen = true)
      (ends : Speaks s.socket [Handshake.encode .ready] t.socket)
      (said : t.trace = s.trace ++ [.readySent])
  | unheard (here : s.phase = .announcing) (after : t.phase.station = .ended)
      (lost : s.socket.child.reset = true ∨ s.socket.parent.isOpen = false)
      (ends : Speaks s.socket [] t.socket) (d : Diagnostic)
      (said : t.trace = s.trace ++ [.diagnostic d])
      (plain : (Event.diagnostic d).isTiding = false)
  | released (here : s.phase = .waiting) (after : t.phase.station = .released)
      (got : ∃ k, s.socket.await? .child .go = some (.ok (), k))
      (ends : Speaks s.socket [] t.socket) (said : t.trace = s.trace ++ [.goReceived])
  | refused (here : s.phase = .waiting) (after : t.phase.station = .ended)
      (got : ∃ e k, s.socket.await? .child .go = some (.error e, k))
      (ends : Speaks s.socket [] t.socket) (d : Diagnostic)
      (said : t.trace = s.trace ++ [.diagnostic d])
      (plain : (Event.diagnostic d).isTiding = false)
  | forked (here : s.phase.station = .released) (after : t.phase.station = .forked)
      (ends : Speaks s.socket [] t.socket) (said : t.trace = s.trace)
  | attempted (here : s.phase.station = .released ∨ s.phase.station = .forked)
      (after : t.phase.station = .below ∨ t.phase.station = .running ∨ t.phase.station = .ended)
      (ends : Speaks s.socket [] t.socket) (done : t.Attempted)
      (quiet : tidings t.trace = tidings s.trace)
  | untried (here : s.phase = .forking ∨ s.phase.station = .forked)
      (after : t.phase.station = .below ∨ t.phase.station = .ended) (errno : Errno)
      (fails : w.host.init.Fails errno) (ends : Speaks s.socket [] t.socket) (d : Diagnostic)
      (said : t.trace = s.trace ++ [.diagnostic d])
      (told : d = .initFailed (.system errno) ∨ d = .maskKept errno)
  | toiled (here : s.phase.station = .below ∨ s.phase.station = .running)
      (after : t.phase.station = .below ∨ t.phase.station = .ended)
      (ends : Speaks s.socket [] t.socket) (earlier : s.trace <+: t.trace)
      (quiet : tidings t.trace = tidings s.trace)
  | reported (o : Outcome) (here : s.phase = .reporting o) (after : t.phase.station = .ended)
      (heard : s.socket.parent.isOpen = true) (ends : Speaks s.socket [o.encode] t.socket)
      (said : t.trace = s.trace ++ [.reported o])
  | unreported (o : Outcome) (e : Error) (here : s.phase = .reporting o)
      (after : t.phase = .ended (.exited o.shellCode))
      (lost : s.socket.child.reset = true ∨ s.socket.parent.isOpen = false)
      (ends : Speaks s.socket [] t.socket)
      (said : t.trace = s.trace ++ [.diagnostic (.notReported o e)])

theorem station_of_forks (here : s.phase = .forking ∨ s.phase.station = .forked) :
    s.phase.station = .released ∨ s.phase.station = .forked :=
  here.imp_left fun there => by rw [there]; rfl

/-- Work for a command that has been executed goes unsaid. -/
theorem turn_of_toil {events : List Event}
    (here : s.phase.station = .below ∨ s.phase.station = .running)
    (after : t.phase.station = .below ∨ t.phase.station = .ended)
    (ends : Speaks s.socket [] t.socket) (said : t.trace = s.trace ++ events)
    (quiet : tidings events = []) : Turn w s t :=
  .toiled here after ends (said ▸ List.prefix_append ..)
    (by rw [said, tidings_append, quiet, List.append_nil])

theorem turn_of_attempt {argv : List Bytes} {event : Event}
    (here : s.phase.station = .released ∨ s.phase.station = .forked)
    (after : t.phase.station = .below ∨ t.phase.station = .running ∨ t.phase.station = .ended)
    (ends : Speaks s.socket [] t.socket) (said : t.trace = s.trace ++ [.execAttempted argv, event])
    (quiet : event.isTiding = false) : Turn w s t :=
  .attempted here after ends ⟨argv, by simp [said]⟩
    (by
      have attempt : (Event.execAttempted argv).isTiding = false := rfl
      have none : tidings [.execAttempted argv, event] = [] := by simp [tidings, attempt, quiet]
      rw [said, tidings_append, none, List.append_nil])

/-- An init that has anything to do has a command that was executed. -/
theorem below_of_busy {init : Init} {command : CommandPhase} {orphans : List Ending}
    (fresh : Fresh s) (here : s.phase = .supervising init command orphans)
    (busy : init ≠ {} ∨ orphans ≠ []) : s.phase.station = .below ∧ command ≠ .forked := by
  cases command with
  | forked =>
    obtain ⟨rfl, rfl⟩ := fresh init orphans here
    exact absurd busy (by simp)
  | running | ended => exact ⟨by rw [here]; rfl, nofun⟩

theorem turn_of_move (fresh : Fresh s) (past : s.phase ≠ .inheriting) (move : Move w s t) :
    Turn w s t := by
  cases move with
  | inherited here => exact absurd here past
  | mounted here done => exact .mounted here rfl done (.nothing _) rfl
  | unmounted fault here failed =>
    exact .unmounted here rfl (by rw [failed]; nofun) (.release _) _ rfl rfl
  | announced k here sent =>
    exact .announced here rfl (Socket.deliver_ok sent).2.1 (.deliver sent) rfl
  | unheard e k here failed =>
    exact .unheard here rfl (Socket.deliver_error failed).2.2
      (Speaks.trans (.undelivered failed) (.release k)) _ rfl rfl
  | released k here got =>
    refine .released here ?_ ⟨k, got⟩ (.await got) rfl
    simp only [State.goto]
    split <;> rfl
  | refused e k here failed =>
    exact .refused here rfl ⟨e, k, failed⟩ (Speaks.trans (.await failed) (.release k)) _ rfl rfl
  | forked here => exact .forked (by rw [here]; rfl) rfl (.share _) rfl
  | unforked errno here failed =>
    exact .untried (Or.inl here) (Or.inr rfl) errno (.forking failed) (.release _) _ rfl (Or.inl rfl)
  | unrestored init orphans errno next here failed =>
    exact .untried (Or.inr (by rw [here]; rfl)) (Or.inl rfl) errno (.restoring failed) (.release _) _
      rfl (Or.inr rfl)
  | executed program here =>
    exact turn_of_attempt (Or.inl (by rw [here]; rfl)) (Or.inr (Or.inl rfl)) (.release _)
      (List.append_assoc ..) rfl
  | unexecuted errno here =>
    exact turn_of_attempt (Or.inl (by rw [here]; rfl)) (Or.inr (Or.inr rfl)) (.release _)
      (List.append_assoc ..) rfl
  | executedBelow init orphans program here | unexecutedBelow init orphans errno next here =>
    exact turn_of_attempt (Or.inr (by rw [here]; rfl)) (Or.inl rfl) (.release _)
      (List.append_assoc ..) rfl
  | reported o k here sent =>
    obtain ⟨u, delivered, rfl⟩ := Socket.report_eq sent
    exact .reported o here rfl (Socket.deliver_ok delivered).2.1
      (Speaks.trans (.deliver delivered) (.release u)) rfl
  | unreported o e k here failed =>
    obtain ⟨u, undelivered, rfl⟩ := Socket.report_eq failed
    exact .unreported o e here rfl (Socket.deliver_error undelivered).2.2
      (Speaks.trans (.undelivered undelivered) (.release u)) rfl
  | commandEnded ending here =>
    exact turn_of_toil (Or.inr (by rw [here]; rfl)) (Or.inr rfl) (.nothing _) rfl rfl
  | concluded init command orphans o here done =>
    have below := below_of_busy fresh here (Or.inl (by rintro rfl; cases done))
    exact turn_of_toil (Or.inl below.1) (Or.inl rfl) (.nothing _) (List.append_nil _).symm rfl
  | initFailed init command orphans errno here failed =>
    by_cases waits : command = .forked
    · rw [if_pos waits]
      subst waits
      obtain ⟨rfl, rfl⟩ := fresh init orphans here
      obtain ⟨-, hindered⟩ := failed.resolve_left (by simp)
      exact .untried (Or.inr (by rw [here]; rfl)) (Or.inr rfl) errno
        (.looping (InitCalls.interrupts_of_hindrance hindered))
        (Speaks.trans (.release _) (.release _)) _ rfl (Or.inl rfl)
    · rw [if_neg waits]
      have below : s.phase.station = .below := by
        rw [here]
        cases command with
        | forked => exact absurd rfl waits
        | running | ended => rfl
      exact turn_of_toil (Or.inl below) (Or.inr rfl) (.release _) rfl rfl
  | took init command orphans signal next here waits first =>
    have below := below_of_busy fresh here (Or.inl (by rintro rfl; cases first))
    have after : (Phase.supervising next command orphans).station = .below := by
      rw [← below.1, here]
      cases command <;> rfl
    by_cases wake : signal = .chld
    · rw [if_pos wake]
      exact turn_of_toil (Or.inl below.1) (Or.inl after) (.nothing _) (List.append_nil _).symm rfl
    · rw [if_neg wake]
      exact turn_of_toil (Or.inl below.1) (Or.inl after) (.nothing _) rfl rfl
  | orphanEnded init command orphans index ending next here found =>
    have below := below_of_busy fresh here (Or.inr (by rintro rfl; cases found))
    have after : (Phase.supervising next command (orphans.eraseIdx index)).station = .below := by
      rw [← below.1, here]
      cases command <;> rfl
    exact turn_of_toil (Or.inl below.1) (Or.inl after) (.nothing _) (List.append_nil _).symm rfl
  | signalled init signal script ending orphans next here
  | orphaned init orphan script ending orphans here
  | awaited init signal script ending orphans here =>
    exact turn_of_toil (Or.inl (by rw [here]; rfl)) (Or.inl rfl) (.nothing _)
      (List.append_nil _).symm rfl
  | commandEndedBelow init ending orphans next here =>
    exact turn_of_toil (Or.inl (by rw [here]; rfl)) (Or.inl rfl) (.nothing _) rfl rfl

namespace Turn

theorem alive (turn : Turn w s t) : s.phase.station ≠ .ended := by
  cases turn with
  | forked here => simp [here]
  | attempted here | toiled here => rcases here with here | here <;> simp [here]
  | untried here => rcases station_of_forks here with here | here <;> simp [here]
  | _ => simp [*, Phase.station]

theorem preparing (turn : Turn w s t) (after : t.phase.station = .preparing) :
    s.phase.station = .preparing := by
  cases turn with
  | mounted here => rw [here]; rfl
  | _ => simp_all [Phase.station]

theorem exists_speaks (turn : Turn w s t) : ∃ xs, Speaks s.socket xs t.socket := by
  cases turn <;> exact ⟨_, ‹Speaks _ _ _›⟩

/-- A child that ends before it is ready has no mounts, or no one to say so to. -/
theorem of_preparing (turn : Turn w s t) (before : s.phase.station = .preparing)
    (after : t.phase.station = .ended) :
    w.host.mount w.namespaces w.procTarget ≠ .ok () ∨
      s.socket.child.reset = true ∨ s.socket.parent.isOpen = false := by
  cases turn with
  | unmounted here ended failed => exact Or.inl failed
  | unheard here ended lost => exact Or.inr lost
  | mounted here there | announced here there => simp [there, Phase.station] at after
  | released here | refused here | reported o here | unreported o e here =>
    simp [here, Phase.station] at before
  | forked here => simp [here] at before
  | attempted here | toiled here => rcases here with here | here <;> simp [here] at before
  | untried here => rcases station_of_forks here with here | here <;> simp [here] at before

theorem speaks_of_closed (turn : Turn w s t) (closed : s.socket.parent.isOpen = false) :
    Speaks s.socket [] t.socket := by
  cases turn with
  | announced here after heard => cases closed.symm.trans heard
  | reported o here after heard => cases closed.symm.trans heard
  | _ => assumption

/-- A report is lost only where no one listens. -/
theorem loss (turn : Turn w s t) {o : Outcome} {e : Error}
    (member : .diagnostic (.notReported o e) ∈ tidings t.trace) :
    .diagnostic (.notReported o e) ∈ tidings s.trace ∨
      s.socket.child.reset = true ∨ s.socket.parent.isOpen = false := by
  cases turn with
  | mounted here after done ends said | forked here after ends said =>
    exact Or.inl (said ▸ member)
  | attempted here after ends done quiet | toiled here after ends earlier quiet =>
    exact Or.inl (quiet ▸ member)
  | unreported o e here after lost => exact Or.inr lost
  | unmounted here after failed ends d said plain | unheard here after lost ends d said plain
  | refused here after got ends d said plain =>
    rw [said] at member
    exact Or.inl ((mem_tidings_concat member).resolve_right fun ⟨same, tiding⟩ =>
      Bool.false_ne_true (plain.symm.trans tiding))
  | announced here after heard ends said | released here after got ends said
  | reported o here after heard ends said =>
    rw [said] at member
    exact Or.inl ((mem_tidings_concat member).resolve_right nofun)
  | untried here after errno fails ends d said told =>
    rw [said] at member
    refine Or.inl ((mem_tidings_concat member).resolve_right fun ⟨_, tiding⟩ => ?_)
    rcases told with rfl | rfl <;> cases tiding

end Turn

/-! ### Tales -/

/-- The deeds of a child that nobody kills, whose report may come too late. -/
inductive Tale (w : Setting) : Phase → List Event → Prop where
  | told {phase : Phase} {told : List Event} (story : Story w (fun _ => False) phase told) :
      Tale w phase told
  | unreported (o : Outcome) (e : Error) (told : List Event) (below : w.namespaces.pid = true)
      (tale : Told w .ended told) (named : w.forkedEnding.outcome? = some o) :
      Tale w (.ended (.exited o.shellCode)) (told ++ [.diagnostic (.notReported o e)])

theorem not_move_of_ended {ending : Ending} (here : s.phase = .ended ending) : ¬Move w s t := by
  intro move
  have less := rank_lt_of_move move
  rw [here] at less
  exact Nat.not_lt_zero _ less

/-- A child whose report is lost has told all but that. -/
theorem tale_of_lost {o : Outcome} {e : Error} {k : Socket} (here : s.phase = .reporting o)
    (lost : s.socket.report o = (.error e, k))
    (story : Story w (fun _ => False) s.phase (deeds s.trace)) (move : Move w s t) :
    Tale w t.phase (deeds t.trace) := by
  cases move with
  | unreported o e k here =>
    rw [here] at story
    generalize told : deeds s.trace = said at story
    cases story with
    | early place => simp at place
    | reporting _ _ forks tale named =>
      show Tale w (.ended (.exited o.shellCode)) (deeds (s.trace ++ _))
      rw [deeds_append, told]
      exact .unreported o e _ forks.1 tale named
  | reported o' k' here' sent =>
    obtain rfl : o = o' := Phase.reporting.inj (here.symm.trans here')
    cases lost.symm.trans sent
  | _ => simp_all only [reduceCtorEq]

theorem tale_of_move (tale : Tale w s.phase (deeds s.trace)) (tended : s.phase.Tended w)
    (fresh : Fresh s) (move : Move w s t) : Tale w t.phase (deeds t.trace) := by
  generalize place : s.phase = phase at tale
  generalize before : deeds s.trace = said at tale
  cases tale with
  | unreported => exact absurd move (not_move_of_ended place)
  | told story =>
    subst place before
    by_cases late : ∃ o e k, s.phase = .reporting o ∧ s.socket.report o = (.error e, k)
    · obtain ⟨o, e, k, here, lost⟩ := late
      exact tale_of_lost here lost story move
    · refine .told (story_of_move story tended fresh ?_ move)
      intro o e k here failed
      exact late ⟨o, e, k, here, failed⟩

end Child

end NamespaceEntry
