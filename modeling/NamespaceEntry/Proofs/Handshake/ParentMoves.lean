import NamespaceEntry.Proofs.Handshake.ChildShifts

/-!
# Moves of the parent keep a run coherent

With the shifts of the child and its death this makes `Coherent` an invariant: `coherent`
gives it for every state that a run can reach.
-/

namespace NamespaceEntry.Run

open Child (Station Shift)

variable {w : Setting} {s : State} {left : List Event}

namespace Coherent

/-- What a move of the parent has to show, when the child stays where it is. -/
structure ParentKeeps (w : Setting) (s t : State) (left said left' : List Event) : Prop where
  gated : gates t.trace = gates s.trace ++ said
  reported : reports t.trace = reports s.trace
  split : left = said ++ left'
  place : t.phase = s.phase
  held : ∀ side, (t.socket.get side).holders = t.parent.copies side + s.phase.station.copies side
  stage : Leaves w left' s.phase.station
  parent : t.parent.Leaves w left'
  gaveUp : t.parent.gaveUp → s.phase.station.copies .child = 0 ∨
    s.phase.station = .waiting ∧ 3 ≤ left'.length
  cloned : t.parent ≠ .cloning
  unborn : s.phase.station = .unborn → ∃ r, t.parent = .finished r
  inbox : t.socket.parent.queue = Run.inbox w left' (reports s.trace) t.parent
  outbox : t.socket.child.queue = Run.outbox left' s.phase.station
  childCalm : t.socket.child.reset = false
  parentCalm : t.socket.parent.reset = true →
    t.parent = .awaitingReport ∧ s.phase.station = .ended ∧ left'.length = 2
  heard : ∀ report, t.parent = .reaping report → report = (reports s.trace).head?
  answered : ∀ kind, .mapped kind ∈ said → (reply w kind).result = .ok ()

theorem of_parent (c : Coherent w s left) {t : State} {said left' : List Event}
    (kept : ParentKeeps w s t left said left') : Coherent w t left' where
  order := by rw [kept.gated, List.append_assoc, ← kept.split, c.order]
  held := by rw [kept.place]; exact kept.held
  child := by rw [kept.place]; exact kept.stage
  parent := kept.parent
  gaveUp := by rw [kept.place]; exact kept.gaveUp
  cloned := fun there => absurd there kept.cloned
  unborn := by rw [kept.place]; exact fun there => Or.inr (kept.unborn there)
  inbox := by rw [kept.reported]; exact kept.inbox
  outbox := by rw [kept.place]; exact kept.outbox
  childCalm := kept.childCalm
  parentCalm := by rw [kept.place]; exact kept.parentCalm
  told := by
    rw [kept.reported, kept.place]
    intro some
    obtain ⟨few, ended⟩ := c.told some
    rw [kept.split, List.length_append] at few
    exact ⟨by omega, ended⟩
  toldOnce := by rw [kept.reported]; exact c.toldOnce
  heard := by rw [kept.reported]; exact kept.heard
  answered := by
    intro kind member
    rw [kept.gated, List.mem_append] at member
    exact member.elim (c.answered kind) (kept.answered kind)
  fresh := by
    intro init orphans there
    rw [kept.place] at there
    exact c.fresh init orphans there

/-- Only a parent that waits for the report can be behind a lost message. -/
theorem calm_of_parent (c : Coherent w s left) (there : s.parent ≠ .awaitingReport) :
    s.socket.parent.reset = false := by
  cases calm : s.socket.parent.reset with
  | false => rfl
  | true => exact absurd (c.parentCalm calm).1 there

theorem born (c : Coherent w s left) (cloning : s.parent ≠ .cloning)
    (running : ∀ r, s.parent ≠ .finished r) : s.phase.station ≠ .unborn := by
  intro unborn
  rcases c.unborn unborn with there | ⟨r, there⟩
  · exact cloning there
  · exact running r there

theorem move_cloned (c : Coherent w s left) (here : s.parent = .cloning) :
    Coherent w { s with
      socket := (s.socket.share .parent).share .child
      phase := .inheriting
      parent := .dropping } left := by
  have unborn := c.cloned here
  have stage := c.child
  have inbox := c.inbox
  rw [unborn] at stage
  have whole : left = protocol w := stage
  subst whole
  have told := c.untold (by simp [unborn])
  exact {
    order := c.order
    held := by
      intro side
      have held := c.held side
      rw [here, unborn] at held
      show (((s.socket.share .parent).share .child).get side).holders = _
      rw [Socket.holders_share, Socket.holders_share, held]
      cases side <;> rfl
    child := rfl
    parent := Nat.le_succ _
    gaveUp := nofun
    cloned := nofun
    unborn := nofun
    inbox := by
      rw [here] at inbox
      exact inbox
    outbox := c.outbox.trans (outbox_of_place _ (by simp [unborn]))
    childCalm := c.childCalm
    parentCalm := fun lost => by cases (c.parent_calm (by simp [unborn])).symm.trans lost
    told := fun some => absurd told some
    toldOnce := c.toldOnce
    heard := nofun
    answered := c.answered
    fresh := nofun }

theorem move_uncloned (c : Coherent w s left) (errno : Errno) (here : s.parent = .cloning) :
    Coherent w ((((s.drop .child).drop .parent).note [.parentClosed]).next
      (.finished (.error (.resource (.clone errno))))) left := by
  have unborn := c.cloned here
  have stage := c.child
  have inbox := c.inbox
  rw [unborn] at stage
  have whole : left = protocol w := stage
  subst whole
  have alive : s.phase.station ≠ .ended := by simp [unborn]
  have read : s.socket.child.queue = [] := c.outbox.trans (outbox_of_place _ (by simp [unborn]))
  have kept := Socket.parent_release_child read
  have unread : (s.socket.release .child).parent.queue = [] := by
    rw [kept, inbox, here]
    exact if_pos rfl
  have same := Socket.child_release_parent unread
  exact c.of_parent {
    gated := gates_append ..
    reported := (reports_append ..).trans (List.append_nil _)
    split := (List.nil_append _).symm
    place := rfl
    held := by
      intro side
      have held := c.held side
      rw [here, unborn] at held
      show (((s.socket.release .child).release .parent).get side).holders = _
      rw [Socket.holders_release, Socket.holders_release, held, unborn]
      cases side <;> rfl
    stage := c.child
    parent := trivial
    gaveUp := fun _ => Or.inl (by rw [unborn]; rfl)
    cloned := by rintro ⟨⟩
    unborn := fun _ => ⟨_, rfl⟩
    inbox := Socket.queue_release_of_read _ .parent unread
    outbox := by
      show ((s.socket.release .child).release .parent).child.queue = _
      rw [same, outbox_of_place _ (by simp [unborn])]
      exact Socket.queue_release_of_read _ .child read
    childCalm := by
      show ((s.socket.release .child).release .parent).child.reset = _
      rw [same]
      exact Socket.reset_release_of_calm _ .child c.childCalm
    parentCalm := by
      intro lost
      have calm : (s.socket.release .child).parent.reset = false := by
        rw [kept, c.parent_calm alive]
      cases (Socket.reset_release_of_calm _ .parent calm).symm.trans lost
    heard := by rintro _ ⟨⟩
    answered := by rintro _ ⟨⟩ }

theorem move_dropped (c : Coherent w s left) (here : s.parent = .dropping) :
    Coherent w ((s.drop .child).next .awaitingReady) left := by
  have parent := c.parent
  have inbox := c.inbox
  rw [here] at parent inbox
  have many : (protocol w).length ≤ left.length + 1 := parent
  have length := length_protocol w
  have read : s.socket.child.queue = [] := c.outbox.trans (outbox_of_many _ (by omega))
  have kept := Socket.parent_release_child read
  exact c.of_parent {
    gated := (List.append_nil _).symm
    reported := rfl
    split := (List.nil_append _).symm
    place := rfl
    held := by
      intro side
      show ((s.socket.release .child).get side).holders = _
      rw [Socket.holders_release, c.held, here]
      cases side with
      | parent => rfl
      | child => exact (Nat.add_sub_cancel_left 1 _).trans (Nat.zero_add _).symm
    stage := c.child
    parent
    gaveUp := by rintro ⟨⟩
    cloned := by rintro ⟨⟩
    unborn := fun unborn => absurd unborn (c.born (by simp [here]) (by simp [here]))
    inbox := by
      show (s.socket.release .child).parent.queue = _
      rw [kept, inbox]
      rfl
    outbox := by
      show (s.socket.release .child).child.queue = _
      rw [outbox_of_many _ (by omega)]
      exact Socket.queue_release_of_read _ .child read
    childCalm := Socket.reset_release_of_calm _ .child c.childCalm
    parentCalm := by
      intro lost
      have calm := c.calm_of_parent (by simp [here])
      cases ((congrArg Endpoint.reset kept).trans calm).symm.trans lost
    heard := by rintro _ ⟨⟩
    answered := by rintro _ ⟨⟩ }

theorem place_of_mapping (c : Coherent w s left) (early : 3 ≤ left.length)
    (started : left.length < (protocol w).length) :
    s.phase.station = .waiting ∨ s.phase.station = .ended := by
  have stage := c.child
  cases there : s.phase.station <;> rw [there] at stage
  case waiting => exact Or.inl rfl
  case ended => exact Or.inr rfl
  case unborn | inheriting | preparing =>
    have whole : left = protocol w := stage
    rw [whole] at started
    omega
  case released | forked =>
    have few : left.length = 1 := stage
    omega
  case below =>
    have few : left.length ≤ 1 := stage
    omega
  case running =>
    have few : left = [] := stage
    rw [few, List.length_nil] at early
    omega

theorem move_ready (c : Coherent w s left) {k : Socket} (here : s.parent = .awaitingReady)
    (got : s.socket.await? .parent .ready = some (.ok (), k)) :
    Coherent w (({ s with socket := k }.note [.readyReceived]).next (.mapping (kindsToMap w)))
      (calls w (kindsToMap w) ++ closing w) := by
  obtain ⟨calm, bytes, rest, queued, rfl⟩ := Socket.await?_ok got
  have parent := c.parent
  have inbox : bytes :: rest = _ := queued.symm.trans c.inbox
  rw [here] at parent inbox
  have many : (protocol w).length ≤ left.length + 1 := parent
  have length := length_protocol w
  have started : left.length ≠ (protocol w).length := by
    intro whole
    simp [Run.inbox, whole] at inbox
  have empty : rest = [] := by
    rw [Run.inbox, if_neg started] at inbox
    exact (List.cons.inj inbox).2
  have most := c.length_left
  have split : left = [.readyReceived] ++ (calls w (kindsToMap w) ++ closing w) := by
    have whole : [Event.readySent] ++ .readyReceived :: (calls w (kindsToMap w) ++ closing w) =
      protocol w := rfl
    refine left_eq c.order whole ?_
    simp only [List.length_cons, List.length_nil, List.length_append, length_calls,
      length_closing] at many most ⊢
    omega
  have place := c.place_of_mapping (by omega) (by omega)
  exact c.of_parent {
    gated := gates_append ..
    reported := (reports_append ..).trans (List.append_nil _)
    split
    place := rfl
    held := by
      intro side
      have held := c.held side
      rw [here] at held
      cases side <;> exact held
    stage := by
      rcases place with there | there <;> rw [there]
      · simp only [Leaves, List.length_append, length_calls, length_closing]
        omega
      · trivial
    parent := ⟨List.suffix_refl _, rfl⟩
    gaveUp := by rintro ⟨⟩
    cloned := by rintro ⟨⟩
    unborn := by
      intro unborn
      rcases place with there | there <;> cases unborn.symm.trans there
    inbox := empty
    outbox := by
      refine (c.outbox.trans (outbox_of_many _ (by omega))).trans (outbox_of_many _ ?_).symm
      simp only [List.length_append, length_calls, length_closing]
      omega
    childCalm := c.childCalm
    parentCalm := fun lost => by cases calm.symm.trans lost
    heard := by rintro _ ⟨⟩
    answered := by simp [gates, Event.isGate] }

theorem unready_cause (c : Coherent w s left) {e : Error} {k : Socket}
    (here : s.parent = .awaitingReady)
    (failed : s.socket.await? .parent .ready = some (.error e, k)) :
    e = .channelClosed ∧ k = s.socket ∧ s.phase.station.copies .child = 0 ∧
      left = protocol w := by
  have calm := c.calm_of_parent (by simp [here])
  have inbox := c.inbox
  rw [here] at inbox
  rcases Socket.await?_error _ .parent calm failed with
    ⟨empty, closed, rfl, rfl⟩ | ⟨bytes, rest, queued, refused⟩
  · have held := c.held .child
    have none : (s.socket.get .child).holders = 0 := by
      simpa [Endpoint.isOpen, Side.other] using closed
    rw [none, here] at held
    refine ⟨rfl, rfl, (Nat.zero_add _).symm.trans held.symm, ?_⟩
    have whole : left.length = (protocol w).length := by
      apply Classical.byContradiction
      intro started
      rw [Run.inbox, if_neg started] at inbox
      cases empty.symm.trans inbox
    exact left_eq c.order (List.nil_append _) whole
  · have inbox : bytes :: rest = _ := queued.symm.trans inbox
    rw [Run.inbox] at inbox
    split at inbox
    · cases inbox
    · obtain ⟨rfl, -⟩ := List.cons.inj inbox
      rw [Socket.accept_encode] at refused
      cases refused

theorem move_unready (c : Coherent w s left) {e : Error} {k : Socket}
    (here : s.parent = .awaitingReady)
    (failed : s.socket.await? .parent .ready = some (.error e, k)) :
    Coherent w ({ s with socket := k }.next (.abandoning (readyCause e))) left := by
  obtain ⟨rfl, rfl, gone, rfl⟩ := c.unready_cause here failed
  have inbox := c.inbox
  rw [here] at inbox
  rw [Run.inbox, if_pos rfl] at inbox
  exact c.of_parent {
    gated := (List.append_nil _).symm
    reported := rfl
    split := (List.nil_append _).symm
    place := rfl
    held := by
      intro side
      have held := c.held side
      rw [here] at held
      cases side <;> exact held
    stage := c.child
    parent := .early
    gaveUp := fun _ => Or.inl gone
    cloned := by rintro ⟨⟩
    unborn := fun unborn => absurd unborn (c.born (by simp [here]) (by simp [here]))
    inbox
    outbox := c.outbox
    childCalm := c.childCalm
    parentCalm := fun lost => by cases (c.calm_of_parent (by simp [here])).symm.trans lost
    heard := by rintro _ ⟨⟩
    answered := by rintro _ ⟨⟩ }

theorem killed (c : Coherent w s left) {child : Child.State} {signal : Nat}
    (dead : Child.killStep s.toState signal = some child) :
    Coherent w { s with toState := child } left := by
  obtain ⟨alive, -, rfl⟩ := Child.killStep_eq_some dead
  exact c.shift_quit nofun alive rfl rfl (Child.adds_nothing rfl)

theorem asked (c : Coherent w s left) (kind : IdKind) :
    ∃ child : Child.State, Coherent w { s with toState := child } left ∧
      Run.asked w s kind = { s with toState := child }.note
        (.mapperCalled kind w.childId (rangesOf w kind) ::
          ((reply w kind).started.map Event.toolStarted).toList) := by
  obtain ⟨child, rfl | ⟨signal, -, dead⟩, eq⟩ := asked_eq w s kind
  · exact ⟨s.toState, c, eq⟩
  · exact ⟨child, c.killed dead, eq⟩

/-- What is left, and where the child can be, while ids of some kinds are mapped. -/
theorem left_of_mapping (c : Coherent w s left) {kinds : List IdKind}
    (here : s.parent = .mapping kinds) :
    kinds <:+ kindsToMap w ∧ left = calls w kinds ++ closing w ∧
      (s.phase.station = .waiting ∨ s.phase.station = .ended) := by
  have parent := c.parent
  rw [here] at parent
  obtain ⟨suffix, same⟩ := parent
  have bound := suffix.length_le
  have length := length_protocol w
  refine ⟨suffix, same, ?_⟩
  subst same
  apply c.place_of_mapping <;> simp only [List.length_append, length_calls, length_closing] <;>
    omega

theorem left_of_releasing (c : Coherent w s left) (here : s.parent = .releasing) :
    left = closing w ∧ (s.phase.station = .waiting ∨ s.phase.station = .ended) := by
  have same := c.parent
  rw [here] at same
  have same : left = closing w := same
  have length := length_protocol w
  refine ⟨same, ?_⟩
  subst same
  exact c.place_of_mapping (Nat.le_refl _) (by rw [length_closing]; omega)

/-- While the parent is busy the two ends are at rest. -/
theorem resting (c : Coherent w s left) (events : List Event) {next : ParentPhase}
    {left' : List Event} (working : s.parent.busy) (goes : next.busy)
    (place : s.phase.station = .waiting ∨ s.phase.station = .ended)
    (quiet : reports events = []) (split : left = gates events ++ left') (many : 3 ≤ left'.length)
    (parent : next.Leaves w left')
    (answered : ∀ kind, .mapped kind ∈ gates events → (reply w kind).result = .ok ()) :
    Coherent w ((s.note events).next next) left' := by
  have most := c.length_left
  exact c.of_parent {
    gated := gates_append ..
    reported := (reports_append ..).trans (by rw [quiet, List.append_nil])
    split
    place := rfl
    held := by
      intro side
      refine (c.held side).trans ?_
      rw [copies_of_busy working]
      exact congrArg (· + _) (copies_of_busy goes side).symm
    stage := by
      rcases place with there | there <;> rw [there]
      · have stage := c.child
        rw [there] at stage
        have more := congrArg List.length split
        rw [List.length_append] at more
        exact ⟨by omega, by have := stage.2; omega⟩
      · trivial
    parent
    gaveUp := by
      intro _
      rcases place with there | there <;> rw [there]
      · exact Or.inr ⟨rfl, many⟩
      · exact Or.inl rfl
    cloned := by
      intro cloning
      have goes : ParentPhase.cloning.busy := cloning ▸ goes
      cases goes
    unborn := by
      intro unborn
      rcases place with there | there <;> cases unborn.symm.trans there
    inbox := by
      refine c.inbox.trans ?_
      rw [inbox_of_busy working]
      exact (inbox_of_busy goes ..).symm
    outbox := by
      refine (c.outbox.trans (outbox_of_many _ ?_)).trans (outbox_of_many _ (by omega)).symm
      rw [split, List.length_append]
      omega
    childCalm := c.childCalm
    parentCalm := by
      intro lost
      have awaits := (c.parentCalm lost).1
      rw [awaits] at working
      cases working
    heard := by
      intro report reaping
      have goes : (ParentPhase.reaping report).busy := reaping ▸ goes
      cases goes
    answered }

theorem note_nil (s : State) : s.note [] = s := by simp [State.note, Child.State.log]

theorem note_note (s : State) (xs ys : List Event) : (s.note xs).note ys = s.note (xs ++ ys) := by
  simp [State.note, Child.State.log]

theorem move_mapped (c : Coherent w s left) {kind : IdKind} {rest : List IdKind}
    (here : s.parent = .mapping (kind :: rest)) (done : (reply w kind).result = .ok ()) :
    Coherent w (((Run.asked w s kind).note [.mapped kind]).next (.mapping rest))
      (calls w rest ++ closing w) := by
  obtain ⟨child, c, eq⟩ := c.asked kind
  obtain ⟨suffix, rfl, place⟩ := c.left_of_mapping here
  rw [eq, note_note]
  have said : gates (.mapperCalled kind w.childId (rangesOf w kind) ::
      ((reply w kind).started.map Event.toolStarted).toList ++ [.mapped kind]) =
      [.mapperCalled kind w.childId (rangesOf w kind), .mapped kind] := by
    rw [gates_append, gates_call]
    rfl
  refine c.resting _ (by rw [here]; rfl) rfl place
    ((reports_append ..).trans (by rw [reports_call]; rfl)) (by rw [said]; rfl) (by simp)
    ⟨(List.suffix_cons ..).trans suffix, rfl⟩ ?_
  intro other member
  rw [said] at member
  have same : other = kind := by simpa using member
  rw [same, done]

theorem move_unmapped (c : Coherent w s left) {kind : IdKind} {rest : List IdKind} {e : Error}
    (here : s.parent = .mapping (kind :: rest)) (failed : (reply w kind).result = .error e) :
    Coherent w ((Run.asked w s kind).next (.abandoning e))
      (.mapped kind :: (calls w rest ++ closing w)) := by
  obtain ⟨child, c, eq⟩ := c.asked kind
  obtain ⟨suffix, rfl, place⟩ := c.left_of_mapping here
  rw [eq]
  exact c.resting _ (by rw [here]; rfl) rfl place (reports_call ..) (by rw [gates_call]; rfl)
    (by simp) (.unmapped kind rest e suffix failed) (by simp [gates_call])

theorem move_allMapped (c : Coherent w s left) (here : s.parent = .mapping []) :
    Coherent w (s.next .releasing) left := by
  obtain ⟨suffix, rfl, place⟩ := c.left_of_mapping here
  have rested : Coherent w ((s.note []).next .releasing) (closing w) :=
    c.resting [] (by rw [here]; rfl) rfl place rfl rfl (Nat.le_refl _) rfl (by simp [gates])
  rwa [note_nil] at rested

theorem move_sentGo (c : Coherent w s left) {k : Socket} (here : s.parent = .releasing)
    (sent : s.socket.signal .parent .go = (.ok (), k)) :
    Coherent w (({ s with socket := k }.note [.goSent]).next .awaitingReport)
      [.goReceived, .execAttempted w.command.argv] := by
  obtain ⟨rfl, place⟩ := c.left_of_releasing here
  obtain ⟨calm, open_, rfl⟩ := Socket.deliver_ok sent
  have held := c.held .child
  have waiting : s.phase.station = .waiting := by
    refine place.resolve_right fun ended => ?_
    rw [ended, here] at held
    rw [Socket.isOpen_iff] at open_
    exact open_ held
  have told := c.untold (by simp [waiting])
  exact c.of_parent {
    gated := gates_append ..
    reported := (reports_append ..).trans (List.append_nil _)
    split := rfl
    place := rfl
    held := by
      intro side
      have held := c.held side
      rw [here] at held
      cases side <;> exact held
    stage := by
      have length := length_protocol w
      rw [waiting]
      exact ⟨Nat.le_refl _, by simp only [List.length_cons, List.length_nil]; omega⟩
    parent := Nat.le_refl _
    gaveUp := by rintro ⟨⟩
    cloned := by rintro ⟨⟩
    unborn := fun unborn => by cases unborn.symm.trans waiting
    inbox := by
      rw [told]
      exact c.inbox.trans (by rw [here]; rfl)
    outbox := by
      show s.socket.child.queue ++ [_] = _
      rw [c.outbox, waiting]
      rfl
    childCalm := c.childCalm
    parentCalm := fun lost => by cases calm.symm.trans lost
    heard := by rintro _ ⟨⟩
    answered := by simp [gates, Event.isGate] }

theorem move_unsentGo (c : Coherent w s left) {e : Error} {k : Socket}
    (here : s.parent = .releasing)
    (failed : s.socket.signal .parent .go = (.error e, k)) :
    Coherent w ({ s with socket := k }.next (.abandoning e)) left := by
  obtain ⟨rfl, place⟩ := c.left_of_releasing here
  obtain ⟨rfl, rfl, -⟩ := Socket.deliver_error failed
  have calm := c.calm_of_parent (by simp [here])
  have same : s.socket.set .parent { s.socket.get .parent with reset := false } = s.socket := by
    rw [← calm]
    exact Socket.get_set_self s.socket .parent
  rw [same]
  have rested : Coherent w ((s.note []).next (.abandoning .channelClosed)) (closing w) :=
    c.resting [] (by rw [here]; rfl) rfl place rfl rfl (Nat.le_refl _) .lost (by simp [gates])
  rwa [note_nil] at rested

theorem eq_of_idle {e : Endpoint} (empty : e.queue = []) (calm : e.reset = false) :
    e = { holders := e.holders } := by
  cases e
  cases empty
  cases calm
  rfl

/-- A parent that waits for the report hears the first outcome that has been told, or that the
child has ended. -/
theorem hears (c : Coherent w s left) {result : Except Error (Option Outcome)} {k : Socket}
    (here : s.parent = .awaitingReport) (got : s.socket.awaitReport? = some (result, k)) :
    result = .ok (reports s.trace).head? ∧ s.phase.station.copies .child = 0 ∧
      k = (s.socket.set .parent { holders := s.socket.parent.holders }).release .parent := by
  have inbox := c.inbox
  rw [here] at inbox
  have inbox : s.socket.parent.queue = (reports s.trace).map Outcome.encode := inbox
  cases calm : s.socket.parent.reset with
  | true =>
    obtain ⟨-, ended, few⟩ := c.parentCalm calm
    have untold : reports s.trace = [] := by
      apply Classical.byContradiction
      intro some
      have fewer := (c.told some).1
      omega
    rw [untold] at inbox ⊢
    have idle := eq_of_idle (e := { s.socket.parent with reset := false }) inbox rfl
    rw [Socket.awaitReport?_of_reset calm, idle] at got
    obtain ⟨rfl, rfl⟩ := Prod.mk.inj (Option.some.inj got)
    exact ⟨rfl, by rw [ended]; rfl, rfl⟩
  | false =>
    cases told : reports s.trace with
    | nil =>
      rw [told] at inbox
      rw [Socket.awaitReport?_of_nil calm inbox] at got
      split at got
      · cases got
      · rename_i closed
        obtain ⟨rfl, rfl⟩ := Prod.mk.inj (Option.some.inj got)
        have held := c.held .child
        have none : (s.socket.get .child).holders = 0 := by simpa [Endpoint.isOpen] using closed
        rw [none, here] at held
        refine ⟨rfl, (Nat.zero_add _).symm.trans held.symm, ?_⟩
        rw [← eq_of_idle inbox calm, ← Socket.get_parent, Socket.get_set_self]
    | cons o rest =>
      have once := c.toldOnce
      obtain ⟨-, ended⟩ := c.told (by simp [told])
      rw [told] at inbox once
      have last : rest = [] := by
        rw [List.length_cons] at once
        exact List.length_eq_zero_iff.mp (by omega)
      subst last
      have idle := eq_of_idle (e := { s.socket.parent with queue := [] }) rfl calm
      rw [Socket.awaitReport?_of_cons calm inbox, Socket.decode_encode, List.map_nil, idle] at got
      obtain ⟨rfl, rfl⟩ := Prod.mk.inj (Option.some.inj got)
      exact ⟨rfl, by rw [ended]; rfl, rfl⟩

theorem move_heard (c : Coherent w s left) {report : Option Outcome} {k : Socket}
    (here : s.parent = .awaitingReport) (got : s.socket.awaitReport? = some (.ok report, k)) :
    Coherent w (({ s with socket := k }.note [.parentClosed]).next (.reaping report)) left := by
  obtain ⟨same, gone, rfl⟩ := c.hears here got
  have parent := c.parent
  rw [here] at parent
  exact c.of_parent {
    gated := gates_append ..
    reported := (reports_append ..).trans (List.append_nil _)
    split := (List.nil_append _).symm
    place := rfl
    held := by
      intro side
      have held := c.held side
      rw [here] at held
      show (((s.socket.set .parent _).release .parent).get side).holders = _
      rw [Socket.holders_release]
      cases side with
      | parent =>
        rw [Socket.get_set]
        exact (congrArg (· - 1) held).trans
          ((Nat.add_sub_cancel_left ..).trans (Nat.zero_add _).symm)
      | child => exact held
    stage := c.child
    parent
    gaveUp := fun _ => Or.inl gone
    cloned := by rintro ⟨⟩
    unborn := fun unborn => absurd unborn (c.born (by simp [here]) (by simp [here]))
    inbox := Socket.queue_release_of_read _ .parent rfl
    outbox := by
      show ((s.socket.set .parent _).release .parent).child.queue = _
      rw [Socket.child_release_parent rfl]
      exact c.outbox
    childCalm := by
      show ((s.socket.set .parent _).release .parent).child.reset = _
      rw [Socket.child_release_parent rfl]
      exact c.childCalm
    parentCalm := by
      intro lost
      have still := Socket.reset_release_of_calm
        (s.socket.set .parent { holders := s.socket.parent.holders }) .parent rfl
      cases still.symm.trans lost
    heard := by
      rintro _ ⟨⟩
      exact Except.ok.inj same
    answered := by rintro _ ⟨⟩ }

theorem move_abandoned (c : Coherent w s left) {cause : Error}
    (here : s.parent = .abandoning cause) :
    Coherent w (((s.drop .parent).note [.parentClosed]).next (.aborting cause)) left := by
  have inbox := c.inbox
  have gaveUp := c.gaveUp
  have parent := c.parent
  rw [here] at inbox gaveUp parent
  have read : s.socket.parent.queue = [] := inbox
  exact c.of_parent {
    gated := gates_append ..
    reported := (reports_append ..).trans (List.append_nil _)
    split := (List.nil_append _).symm
    place := rfl
    held := by
      intro side
      show ((s.socket.release .parent).get side).holders = _
      rw [Socket.holders_release, c.held, here]
      cases side with
      | parent => exact (Nat.add_sub_cancel_left 1 _).trans (Nat.zero_add _).symm
      | child => rfl
    stage := c.child
    parent
    gaveUp := fun _ => gaveUp rfl
    cloned := by rintro ⟨⟩
    unborn := fun unborn => absurd unborn (c.born (by simp [here]) (by simp [here]))
    inbox := Socket.queue_release_of_read _ .parent read
    outbox := by
      show (s.socket.release .parent).child.queue = _
      rw [Socket.child_release_parent read]
      exact c.outbox
    childCalm := by
      show (s.socket.release .parent).child.reset = _
      rw [Socket.child_release_parent read]
      exact c.childCalm
    parentCalm := by
      intro lost
      have calm := c.calm_of_parent (by simp [here])
      cases (Socket.reset_release_of_calm s.socket .parent calm).symm.trans lost
    heard := by rintro _ ⟨⟩
    answered := by rintro _ ⟨⟩ }

theorem move_waited (c : Coherent w s left) {ending : Ending} (result : Except Error Outcome)
    (here : (∃ report, s.parent = .reaping report) ∨ ∃ cause, s.parent = .aborting cause)
    (ended : s.phase = .ended ending) :
    Coherent w ((s.note [.reaped ending]).next (.finished result)) left := by
  have inbox := c.inbox
  have quiet : s.parent ≠ .awaitingReport := by
    rcases here with ⟨_, here⟩ | ⟨_, here⟩ <;> simp [here]
  exact c.of_parent {
    gated := gates_append ..
    reported := (reports_append ..).trans (List.append_nil _)
    split := (List.nil_append _).symm
    place := rfl
    held := by
      intro side
      have held := c.held side
      rcases here with ⟨_, here⟩ | ⟨_, here⟩ <;> rw [here] at held <;> cases side <;> exact held
    stage := c.child
    parent := trivial
    gaveUp := fun _ => Or.inl (by rw [ended]; rfl)
    cloned := by rintro ⟨⟩
    unborn := fun _ => ⟨_, rfl⟩
    inbox := by rcases here with ⟨_, here⟩ | ⟨_, here⟩ <;> rw [here] at inbox <;> exact inbox
    outbox := c.outbox
    childCalm := c.childCalm
    parentCalm := fun lost => by cases (c.calm_of_parent quiet).symm.trans lost
    heard := by rintro _ ⟨⟩
    answered := by rintro _ ⟨⟩ }

end Coherent

open Coherent in
theorem coherent_of_move (c : Coherent w s left) {t : State} (move : Move w s t) :
    ∃ left', Coherent w t left' := by
  cases move with
  | inner child move =>
    exact c.shift (Child.fresh_of_move c.fresh move) (Child.shift_of_move c.fresh move)
  | cloned here => exact ⟨_, c.move_cloned here⟩
  | uncloned errno here => exact ⟨_, c.move_uncloned errno here⟩
  | dropped here => exact ⟨_, c.move_dropped here⟩
  | ready k here got => exact ⟨_, c.move_ready here got⟩
  | unready e k here failed => exact ⟨_, c.move_unready here failed⟩
  | mapped kind rest here done => exact ⟨_, c.move_mapped here done⟩
  | unmapped kind rest e here failed => exact ⟨_, c.move_unmapped here failed⟩
  | allMapped here => exact ⟨_, c.move_allMapped here⟩
  | sentGo k here sent => exact ⟨_, c.move_sentGo here sent⟩
  | unsentGo e k here failed => exact ⟨_, c.move_unsentGo here failed⟩
  | heard report k here got => exact ⟨_, c.move_heard here got⟩
  | misheard e k here failed => cases (c.hears here failed).1
  | reaped report ending here ended => exact ⟨_, c.move_waited _ (Or.inl ⟨report, here⟩) ended⟩
  | abandoned cause here => exact ⟨_, c.move_abandoned here⟩
  | aborted cause ending here ended => exact ⟨_, c.move_waited _ (Or.inr ⟨cause, here⟩) ended⟩

theorem coherent (reached : Reachable w s) : ∃ left, Coherent w s left := by
  induction reached with
  | start => exact ⟨_, coherent_start w⟩
  | step actor reached taken ih =>
    obtain ⟨left, c⟩ := ih
    rcases move_of_step taken with move | ⟨signal, child, -, dead, rfl⟩
    · exact coherent_of_move c move
    · exact ⟨left, c.killed dead⟩

end NamespaceEntry.Run
