import NamespaceEntry.Proofs.Channel.Ends
import NamespaceEntry.Proofs.Run.Moves

/-!
# Stations of the handshake

To its parent a child looks simpler than it is. Its `Station` words how far it is in the
handshake and which copies of the two ends it holds. `Shift` lists how a station can change;
every move of a child is one of these shifts, and so is the death of a child.
-/

namespace NamespaceEntry

/-! ### What is said -/

def Event.isGate : Event → Bool
  | .readySent | .readyReceived | .mapperCalled .. | .mapped _ | .goSent | .goReceived
  | .execAttempted _ => true
  | _ => false

def Event.report? : Event → Option Outcome
  | .reported o => some o
  | _ => none

def gates (trace : List Event) : List Event := trace.filter Event.isGate

def reports (trace : List Event) : List Outcome := trace.filterMap Event.report?

@[simp] theorem gates_append (xs ys : List Event) : gates (xs ++ ys) = gates xs ++ gates ys :=
  List.filter_append ..

@[simp] theorem reports_append (xs ys : List Event) :
    reports (xs ++ ys) = reports xs ++ reports ys := List.filterMap_append

namespace Child

/-! ### Stations -/

/-- How far a child is in the handshake. -/
inductive Station where
  | unborn
  | inheriting
  | preparing
  | waiting
  | released
  | forked
  | below
  | running
  | ended
  deriving DecidableEq, Repr

/-- Where a child stands. An init stands below as soon as its command has let go of the end. -/
def Phase.station : Phase → Station
  | .unborn => .unborn
  | .inheriting => .inheriting
  | .mounting | .announcing => .preparing
  | .waiting => .waiting
  | .executing | .forking => .released
  | .supervising _ .forked _ => .forked
  | .supervising _ (.running _ _) _ | .supervising _ .ended _ | .reporting _ => .below
  | .running _ => .running
  | .ended _ => .ended

def Station.copies : Station → Side → Nat
  | .inheriting, .parent => 1
  | .inheriting, .child | .preparing, .child | .waiting, .child | .released, .child
  | .below, .child => 1
  | .forked, .child => 2
  | _, _ => 0

def Station.letGo : Station → Socket → Socket
  | .inheriting, k => (k.release .child).release .parent
  | .preparing, k | .waiting, k | .released, k | .below, k => k.release .child
  | .forked, k => (k.release .child).release .child
  | .unborn, k | .running, k | .ended, k => k

theorem holders_letGo (station : Station) (k : Socket) (side : Side) :
    ((station.letGo k).get side).holders = (k.get side).holders - station.copies side := by
  cases station <;> cases side <;>
    simp [Station.letGo, Station.copies, Socket.holders_release, -Socket.get_parent,
      -Socket.get_child, Nat.sub_sub]

/-- A child that has read all that was sent to it lets go without a trace on the other end. -/
theorem letGo_of_read (station : Station) {k : Socket} (read : k.child.queue = [])
    (calm : k.child.reset = false) (unread : station = .inheriting → k.parent.queue = []) :
    (station.letGo k).child.queue = [] ∧ (station.letGo k).child.reset = false ∧
      (station.letGo k).parent.queue = k.parent.queue ∧
      ((station.letGo k).parent.reset = true → k.parent.reset = true) := by
  have once : (k.release .child).child.queue = [] := Socket.queue_release_of_read k .child read
  have calmed : (k.release .child).child.reset = false := Socket.reset_release_of_calm k .child calm
  have kept : (k.release .child).parent = k.parent := Socket.parent_release_child read
  cases station with
  | unborn | running | ended => exact ⟨read, calm, rfl, id⟩
  | preparing | waiting | released | below =>
    exact ⟨once, calmed, by rw [Station.letGo, kept], by rw [Station.letGo, kept]; exact id⟩
  | forked =>
    have again := Socket.parent_release_child once
    refine ⟨Socket.queue_release_of_read _ .child once,
      Socket.reset_release_of_calm _ .child calmed,
      ?_, ?_⟩ <;> rw [Station.letGo, again, kept]
    exact id
  | inheriting =>
    have empty : (k.release .child).parent.queue = [] := by rw [kept, unread rfl]
    have same := Socket.child_release_parent empty
    refine ⟨?_, ?_, ?_, ?_⟩
    · rw [Station.letGo, same, once]
    · rw [Station.letGo, same, calmed]
    · rw [unread rfl]
      exact Socket.queue_release_of_read _ .parent empty
    · intro lost
      cases calm : k.parent.reset with
      | true => rfl
      | false =>
        have still := Socket.reset_release_of_calm (k.release .child) .parent
          ((congrArg Endpoint.reset kept).trans calm)
        cases still.symm.trans lost

/-! ### Shifts -/

variable {w : Setting} {s t : State}

def Adds (s t : State) (said : List Event) (told : List Outcome) : Prop :=
  gates t.trace = gates s.trace ++ said ∧ reports t.trace = reports s.trace ++ told

theorem adds_nothing (same : t.trace = s.trace) : Adds s t [] [] := by simp [Adds, same]

theorem adds_of_log {events said : List Event} {told : List Outcome}
    (same : t.trace = s.trace ++ events) (opened : gates events = said)
    (heard : reports events = told) : Adds s t said told := by
  simp [Adds, same, opened, heard]

inductive Shift (w : Setting) (s t : State) : Prop where
  | quiet (place : t.phase.station = s.phase.station) (ends : t.socket = s.socket)
      (words : Adds s t [] [])
  | inherited (before : s.phase.station = .inheriting) (after : t.phase.station = .preparing)
      (ends : t.socket = s.socket.release .parent) (words : Adds s t [] [])
  | announced (before : s.phase.station = .preparing) (after : t.phase.station = .waiting)
      (sent : s.socket.signal .child .ready = (.ok (), t.socket)) (words : Adds s t [.readySent] [])
  | unheard (e : Error) (k : Socket) (before : s.phase.station = .preparing)
      (after : t.phase.station = .ended) (failed : s.socket.signal .child .ready = (.error e, k))
      (ends : t.socket = k.release .child) (words : Adds s t [] [])
  | released (before : s.phase.station = .waiting) (after : t.phase.station = .released)
      (got : s.socket.await? .child .go = some (.ok (), t.socket))
      (words : Adds s t [.goReceived] [])
  | refused (e : Error) (k : Socket) (before : s.phase.station = .waiting)
      (after : t.phase.station = .ended) (failed : s.socket.await? .child .go = some (.error e, k))
      (ends : t.socket = k.release .child) (words : Adds s t [] [])
  | forked (before : s.phase.station = .released) (after : t.phase.station = .forked)
      (ends : t.socket = s.socket.share .child) (words : Adds s t [] [])
  | executed (before : s.phase.station = .released)
      (after : t.phase.station = .running ∨ t.phase.station = .ended)
      (ends : t.socket = s.socket.release .child)
      (words : Adds s t [.execAttempted w.command.argv] [])
  | executedBelow (before : s.phase.station = .forked) (after : t.phase.station = .below)
      (ends : t.socket = s.socket.release .child)
      (words : Adds s t [.execAttempted w.command.argv] [])
  | unrestored (before : s.phase.station = .forked) (after : t.phase.station = .below)
      (ends : t.socket = s.socket.release .child) (words : Adds s t [] [])
  | reported (o : Outcome) (before : s.phase.station = .below) (after : t.phase.station = .ended)
      (sent : s.socket.report o = (.ok (), t.socket)) (words : Adds s t [] [o])
  | unreported (o : Outcome) (e : Error) (before : s.phase.station = .below)
      (after : t.phase.station = .ended) (failed : s.socket.report o = (.error e, t.socket))
      (words : Adds s t [] [])
  | quit (before : s.phase.station ≠ .unborn) (after : t.phase.station = .ended)
      (ends : t.socket = s.phase.station.letGo s.socket) (words : Adds s t [] [])

/-- A process that has been forked and not yet executed has done nothing to its init. -/
def Fresh (s : State) : Prop :=
  ∀ init orphans, s.phase = .supervising init .forked orphans → init = {} ∧ orphans = []

theorem shift_of_move (fresh : Fresh s) (h : Move w s t) : Shift w s t := by
  cases h with
  | inherited here => exact .inherited (by rw [here]; rfl) rfl rfl (adds_nothing rfl)
  | mounted here =>
    exact .quiet (by rw [here]; rfl) rfl (adds_nothing rfl)
  | unmounted fault here =>
    exact .quit (by simp [here, Phase.station]) rfl (by rw [here]; rfl) (adds_of_log rfl rfl rfl)
  | announced k here sent => exact .announced (by rw [here]; rfl) rfl sent (adds_of_log rfl rfl rfl)
  | unheard e k here failed =>
    exact .unheard e k (by rw [here]; rfl) rfl failed rfl (adds_of_log rfl rfl rfl)
  | released k here got =>
    refine .released (by rw [here]; rfl) ?_ got (adds_of_log rfl rfl rfl)
    simp only [State.goto]
    split <;> rfl
  | refused e k here failed =>
    exact .refused e k (by rw [here]; rfl) rfl failed rfl (adds_of_log rfl rfl rfl)
  | executed program here =>
    exact .executed (by rw [here]; rfl) (Or.inl rfl) rfl
      (adds_of_log (List.append_assoc ..) rfl rfl)
  | unexecuted errno here =>
    exact .executed (by rw [here]; rfl) (Or.inr rfl) rfl
      (adds_of_log (List.append_assoc ..) rfl rfl)
  | forked here => exact .forked (by rw [here]; rfl) rfl rfl (adds_nothing rfl)
  | unforked errno here =>
    exact .quit (by simp [here, Phase.station]) rfl (by rw [here]; rfl) (adds_of_log rfl rfl rfl)
  | concluded init command orphans o here done =>
    have alive : command ≠ .forked := by
      rintro rfl
      obtain ⟨rfl, -⟩ := fresh init orphans here
      cases done
    exact .quiet (by rw [here]; cases command <;> first | rfl | exact absurd rfl alive) rfl
      (adds_nothing rfl)
  | initFailed init command orphans errno here =>
    refine .quit (by cases command <;> simp [here, Phase.station]) rfl ?_ ?_
    · rw [here]
      cases command <;> rfl
    · cases command <;> exact adds_of_log rfl rfl rfl
  | took init command orphans signal next here =>
    refine .quiet (by rw [here]; cases command <;> rfl) ?_ ?_
    · by_cases same : signal = .chld <;> simp [same] <;> rfl
    · by_cases same : signal = .chld
      · simp only [same, if_true]; exact adds_nothing rfl
      · simp only [same, if_false]; exact adds_of_log rfl rfl rfl
  | reported o k here sent =>
    exact .reported o (by rw [here]; rfl) rfl sent (adds_of_log rfl rfl rfl)
  | unreported o e k here failed =>
    exact .unreported o e (by rw [here]; rfl) rfl failed (adds_of_log rfl rfl rfl)
  | commandEnded ending here =>
    exact .quit (by simp [here, Phase.station]) rfl (by rw [here]; rfl) (adds_of_log rfl rfl rfl)
  | executedBelow init orphans program here =>
    exact .executedBelow (by rw [here]; rfl) rfl rfl (adds_of_log (List.append_assoc ..) rfl rfl)
  | unexecutedBelow init orphans errno next here =>
    exact .executedBelow (by rw [here]; rfl) rfl rfl (adds_of_log (List.append_assoc ..) rfl rfl)
  | unrestored init orphans errno next here =>
    exact .unrestored (by rw [here]; rfl) rfl rfl (adds_of_log rfl rfl rfl)
  | signalled init signal script ending orphans next here =>
    exact .quiet (by rw [here]; rfl) rfl (adds_nothing rfl)
  | orphaned init orphan script ending orphans here =>
    exact .quiet (by rw [here]; rfl) rfl (adds_nothing rfl)
  | awaited init signal script ending orphans here =>
    exact .quiet (by rw [here]; rfl) rfl (adds_nothing rfl)
  | commandEndedBelow init ending orphans next here =>
    exact .quiet (by rw [here]; rfl) rfl (adds_of_log rfl rfl rfl)
  | orphanEnded init command orphans index ending next here =>
    exact .quiet (by rw [here]; cases command <;> rfl) rfl (adds_nothing rfl)

theorem killStep_eq_some {signal : Nat} (h : killStep s signal = some t) :
    s.phase.station ≠ .unborn ∧ s.phase.station ≠ .ended ∧
      t = { socket := s.phase.station.letGo s.socket, phase := .ended (.killed signal),
            trace := s.trace } := by
  unfold killStep at h
  cases here : s.phase with
  | unborn | ended => simp [here] at h
  | supervising init command orphans =>
    cases command <;> simp only [here] at h <;> cases h <;> exact ⟨nofun, nofun, rfl⟩
  | _ =>
    simp only [here] at h
    cases h
    exact ⟨nofun, nofun, rfl⟩

theorem fresh_of_move (fresh : Fresh s) (h : Move w s t) : Fresh t := by
  intro init orphans there
  cases h with
  | forked => cases there; exact ⟨rfl, rfl⟩
  | took before command _ signal next here waits first =>
    by_cases same : signal = .chld <;> simp only [same, if_true, if_false] at there <;> cases there
    all_goals
      obtain ⟨rfl, -⟩ := fresh before orphans here
      cases first
  | orphanEnded before command left index ending next here found =>
    cases there
    obtain ⟨-, rfl⟩ := fresh before left here
    cases found
  | released =>
    simp only [State.goto] at there
    split at there <;> cases there
  | _ => cases there

end Child

namespace Run

variable {w : Setting} {s t : State}

theorem trace_asked (w : Setting) (s : State) (kind : IdKind) :
    (asked w s kind).trace = s.trace ++ (.mapperCalled kind w.childId (rangesOf w kind) ::
      ((reply w kind).started.map Event.toolStarted).toList) := by
  obtain ⟨child, rfl | ⟨signal, -, death⟩, eq⟩ := asked_eq w s kind
  · rw [eq]
    rfl
  · obtain ⟨-, -, rfl⟩ := Child.killStep_eq_some death
    rw [eq]
    rfl

/-- A call of the mapper tells of nothing but itself and the tool that it has started. -/
theorem mem_of_asked {kind : IdKind} {event : Event} (said : event ∈ (asked w s kind).trace)
    (call : event ≠ .mapperCalled kind w.childId (rangesOf w kind))
    (tool : ∀ launch, event ≠ .toolStarted launch) : event ∈ s.trace := by
  rw [trace_asked] at said
  rcases List.mem_append.mp said with before | called
  · exact before
  · rcases List.mem_cons.mp called with same | started
    · exact absurd same call
    · obtain ⟨launch, -, rfl⟩ := Option.map_eq_some_iff.mp (Option.mem_toList.mp started)
      exact absurd rfl (tool launch)

theorem gates_call (w : Setting) (kind : IdKind) :
    gates (.mapperCalled kind w.childId (rangesOf w kind) ::
      ((reply w kind).started.map Event.toolStarted).toList) =
      [.mapperCalled kind w.childId (rangesOf w kind)] := by
  cases (reply w kind).started <;> rfl

theorem reports_call (w : Setting) (kind : IdKind) :
    reports (.mapperCalled kind w.childId (rangesOf w kind) ::
      ((reply w kind).started.map Event.toolStarted).toList) = [] := by
  cases (reply w kind).started <;> rfl

theorem trace_of_move (move : Move w s t) : s.trace <+: t.trace := by
  have called : ∀ kind, s.trace <+: (asked w s kind).trace := by
    intro kind
    rw [trace_asked]
    exact List.prefix_append ..
  cases move with
  | inner child move => exact Child.trace_of_move move
  | mapped kind => exact (called kind).trans (List.prefix_append ..)
  | unmapped kind => exact called kind
  | cloned | dropped | unready | allMapped | unsentGo => exact List.prefix_refl _
  | _ => exact List.prefix_append ..

/-- What holds of a child from its birth on, if its own moves keep it and death does not harm it. -/
theorem phase_induction {P : Child.Phase → Prop} (unborn : P .unborn)
    (inheriting : w.host.clone w.namespaces = .ok () → P .inheriting)
    (dead : ∀ phase signal, P phase → phase ≠ .unborn → P (.ended (.killed signal)))
    (moved : ∀ s t, P s.phase → Child.Move w.toSetting s t → P t.phase)
    (reached : Reachable w s) : P s.phase := by
  have killed : ∀ {s t : Child.State} {signal}, P s.phase → Child.killStep s signal = some t →
      P t.phase := by
    intro s t signal here taken
    obtain ⟨born, -, rfl⟩ := Child.killStep_eq_some taken
    exact dead s.phase signal here fun unborn => born (by rw [unborn]; rfl)
  have asked : ∀ {s : State} (kind), P s.phase → P (asked w s kind).phase := by
    intro s kind here
    obtain ⟨child, rfl | ⟨signal, -, death⟩, eq⟩ := asked_eq w s kind <;> rw [eq]
    · exact here
    · show P child.phase
      exact killed here death
  induction reached with
  | start => exact unborn
  | step actor _ taken ih =>
    rcases move_of_step taken with move | ⟨signal, child, -, death, rfl⟩
    · cases move with
      | inner child move => exact moved _ _ ih move
      | cloned _ done => exact inheriting done
      | mapped kind => exact asked kind ih
      | unmapped kind => exact asked kind ih
      | _ => exact ih
    · exact killed ih death

end Run

end NamespaceEntry
