import NamespaceEntry.Proofs.Handshake.Coherent

/-!
# Shifts of the child keep a run coherent

Each shift is looked at once. Two of them cannot happen: while a child is preparing or below,
its parent listens, so neither its first nor its last message is lost.
-/

namespace NamespaceEntry.Run.Coherent

open Child (Station Shift)

variable {w : Setting} {s : State} {left : List Event}

/-- What a shift has to show, when no outcome is told. -/
structure ShiftKeeps (w : Setting) (s : State) (child : Child.State)
    (left said left' : List Event) : Prop where
  words : Child.Adds s.toState child said []
  split : left = said ++ left'
  unanswered : ∀ kind, .mapped kind ∉ said
  alive : s.phase.station ≠ .unborn
  born : child.phase.station ≠ .unborn
  held : ∀ side, (child.socket.get side).holders =
    s.parent.copies side + child.phase.station.copies side
  stage : Leaves w left' child.phase.station
  parent : s.parent.Leaves w left'
  gaveUp : s.parent.gaveUp → child.phase.station.copies .child = 0
  inbox : child.socket.parent.queue = Run.inbox w left' (reports s.trace) s.parent
  outbox : child.socket.child.queue = Run.outbox left' child.phase.station
  childCalm : child.socket.child.reset = false
  parentCalm : child.socket.parent.reset = true →
    s.parent = .awaitingReport ∧ child.phase.station = .ended ∧ left'.length = 2
  told : reports s.trace ≠ [] → left'.length ≤ 1 ∧ child.phase.station = .ended
  fresh : Child.Fresh child

theorem of_shift (c : Coherent w s left) {child : Child.State} {said left' : List Event}
    (kept : ShiftKeeps w s child left said left') :
    Coherent w { s with toState := child } left' := by
  obtain ⟨gated, reported⟩ := kept.words
  rw [List.append_nil] at reported
  exact {
    order := by
      show gates child.trace ++ left' = _
      rw [gated, List.append_assoc, ← kept.split, c.order]
    held := kept.held
    child := kept.stage
    parent := kept.parent
    gaveUp := fun ended => Or.inl (kept.gaveUp ended)
    cloned := fun there => absurd (c.cloned there) kept.alive
    unborn := fun there => absurd there kept.born
    inbox := by rw [reported]; exact kept.inbox
    outbox := kept.outbox
    childCalm := kept.childCalm
    parentCalm := kept.parentCalm
    told := by rw [reported]; exact kept.told
    toldOnce := by rw [reported]; exact c.toldOnce
    heard := by rw [reported]; exact c.heard
    answered := by
      intro kind member
      rw [gated, List.mem_append] at member
      exact c.answered kind (member.resolve_right (kept.unanswered kind))
    fresh := kept.fresh }

theorem shift_quiet (c : Coherent w s left) {child : Child.State} (fresh : Child.Fresh child)
    (place : child.phase.station = s.phase.station) (ends : child.socket = s.socket)
    (words : Child.Adds s.toState child [] []) : Coherent w { s with toState := child } left := by
  obtain ⟨gated, reported⟩ := words
  rw [List.append_nil] at gated reported
  obtain ⟨⟩ := c
  constructor <;> simp only [gated, reported, place, ends] <;> assumption

theorem shift_inherited (c : Coherent w s left) {child : Child.State} (fresh : Child.Fresh child)
    (before : s.phase.station = .inheriting) (after : child.phase.station = .preparing)
    (ends : child.socket = s.socket.release .parent) (words : Child.Adds s.toState child [] []) :
    Coherent w { s with toState := child } left := by
  obtain ⟨early, rfl⟩ := c.parent_of_preparing (Or.inl before)
  have alive : s.phase.station ≠ .ended := by simp [before]
  have read : s.socket.parent.queue = [] := by
    rw [c.inbox]
    rcases early with here | here <;> simp [here, Run.inbox]
  exact c.of_shift {
    words, split := rfl, unanswered := by simp, alive := by simp [before], born := by simp [after]
    held := by
      intro side
      rw [ends, Socket.holders_release, c.held, before, after]
      cases side <;> simp [Station.copies]
    stage := by rw [after]; rfl
    parent := c.parent
    gaveUp := by rcases early with here | here <;> simp [here, ParentPhase.gaveUp]
    inbox := by
      rw [ends]
      refine (Socket.queue_release_of_read _ .parent read).trans ?_
      rcases early with here | here <;> simp [here, Run.inbox]
    outbox := by
      rw [ends, Socket.child_release_parent read, c.outbox, outbox_of_place _ (by simp [before]),
        outbox_of_place _ (by simp [after])]
    childCalm := by rw [ends, Socket.child_release_parent read, c.childCalm]
    parentCalm := by
      intro lost
      have calm := Socket.reset_release_of_calm _ .parent (c.parent_calm alive)
      rw [ends] at lost
      cases calm.symm.trans lost
    told := fun some => absurd (c.untold alive) some
    fresh }

theorem shift_announced (c : Coherent w s left) {child : Child.State} (fresh : Child.Fresh child)
    (before : s.phase.station = .preparing) (after : child.phase.station = .waiting)
    (sent : s.socket.signal .child .ready = (.ok (), child.socket))
    (words : Child.Adds s.toState child [.readySent] []) :
    ∃ left', Coherent w { s with toState := child } left' := by
  obtain ⟨early, rfl⟩ := c.parent_of_preparing (Or.inr before)
  have alive : s.phase.station ≠ .ended := by simp [before]
  obtain ⟨-, -, ends⟩ := Socket.deliver_ok sent
  have length := length_protocol w
  refine ⟨_, c.of_shift {
    words, split := rfl, unanswered := by simp, alive := by simp [before], born := by simp [after]
    held := by
      intro side
      have held := c.held side
      rw [before] at held
      rw [ends, after]
      cases side <;> exact held
    stage := by
      rw [after]
      simp only [protocol, List.length_cons] at length ⊢
      exact ⟨by simp only [List.length_cons]; omega, Nat.lt_succ_self _⟩
    parent := by rcases early with here | here <;> rw [here] <;> exact Nat.le_refl _
    gaveUp := by rcases early with here | here <;> simp [here, ParentPhase.gaveUp]
    inbox := by
      rw [ends]
      show s.socket.parent.queue ++ [_] = _
      rw [c.inbox]
      rcases early with here | here <;> simp [here, Run.inbox, protocol]
    outbox := by
      rw [ends]
      show s.socket.child.queue = _
      rw [c.outbox, outbox_of_many _ (by omega), outbox_of_many]
      simp only [protocol, List.length_cons] at length ⊢
      omega
    childCalm := by rw [ends]; exact c.childCalm
    parentCalm := by
      intro lost
      rw [ends] at lost
      cases (c.parent_calm alive).symm.trans lost
    told := fun some => absurd (c.untold alive) some
    fresh }⟩

/-- A child that was let go has read the one message that was queued for it. -/
theorem shift_released (c : Coherent w s left) {child : Child.State} (fresh : Child.Fresh child)
    (before : s.phase.station = .waiting) (after : child.phase.station = .released)
    (got : s.socket.await? .child .go = some (.ok (), child.socket))
    (words : Child.Adds s.toState child [.goReceived] []) :
    ∃ left', Coherent w { s with toState := child } left' := by
  have alive : s.phase.station ≠ .ended := by simp [before]
  obtain ⟨-, bytes, rest, queued, ends⟩ := Socket.await?_ok got
  have outbox : s.socket.child.queue = bytes :: rest := queued
  rw [c.outbox, Run.outbox, before] at outbox
  have few : left.length = 2 := by
    apply Classical.byContradiction
    intro many
    simp [many] at outbox
  have empty : rest = [] := by
    simp only [few, and_self, if_true, List.cons.injEq] at outbox
    exact outbox.2.symm
  have there := c.parent_of_let_go (Nat.le_of_eq few) (by simp [before, Station.copies])
  have same := left_eq c.order (protocol_let_go w) few
  subst same
  refine ⟨_, c.of_shift {
    words, split := rfl, unanswered := by simp, alive := by simp [before], born := by simp [after]
    held := by
      intro side
      have held := c.held side
      rw [before] at held
      rw [ends, after]
      cases side <;> exact held
    stage := by rw [after]; rfl
    parent := by rw [there]; exact Nat.le_succ _
    gaveUp := by simp [there, ParentPhase.gaveUp]
    inbox := by
      rw [ends]
      show s.socket.parent.queue = _
      rw [c.inbox, there]
      rfl
    outbox := by rw [ends, after, empty]; rfl
    childCalm := by rw [ends]; exact c.childCalm
    parentCalm := by
      intro lost
      rw [ends] at lost
      cases (c.parent_calm alive).symm.trans lost
    told := fun some => absurd (c.untold alive) some
    fresh }⟩

theorem shift_forked (c : Coherent w s left) {child : Child.State} (fresh : Child.Fresh child)
    (before : s.phase.station = .released) (after : child.phase.station = .forked)
    (ends : child.socket = s.socket.share .child) (words : Child.Adds s.toState child [] []) :
    Coherent w { s with toState := child } left := by
  have alive : s.phase.station ≠ .ended := by simp [before]
  have few : left.length = 1 := by
    have stage := c.child
    rw [before] at stage
    exact stage
  have there := c.parent_of_let_go (by omega) (by simp [before, Station.copies])
  exact c.of_shift {
    words, split := rfl, unanswered := by simp, alive := by simp [before], born := by simp [after]
    held := by
      intro side
      rw [ends, Socket.holders_share, c.held, before, after]
      cases side <;> simp [Station.copies]
    stage := by rw [after]; exact few
    parent := c.parent
    gaveUp := by simp [there, ParentPhase.gaveUp]
    inbox := by rw [ends]; exact c.inbox
    outbox := by
      rw [ends, outbox_of_place _ (by simp [after])]
      exact c.outbox.trans (outbox_of_place _ (by simp [before]))
    childCalm := by rw [ends]; exact c.childCalm
    parentCalm := by
      intro lost
      rw [ends] at lost
      cases (c.parent_calm alive).symm.trans lost
    told := fun some => absurd (c.untold alive) some
    fresh }

theorem shift_executed (c : Coherent w s left) {child : Child.State} (fresh : Child.Fresh child)
    (before : s.phase.station = .released ∧
        (child.phase.station = .running ∨ child.phase.station = .ended) ∨
      s.phase.station = .forked ∧ child.phase.station = .below)
    (ends : child.socket = s.socket.release .child)
    (words : Child.Adds s.toState child [.execAttempted w.command.argv] []) :
    ∃ left', Coherent w { s with toState := child } left' := by
  have alive : s.phase.station ≠ .ended := by
    rcases before with ⟨here, -⟩ | ⟨here, -⟩ <;> simp [here]
  have few : left.length = 1 := by
    have stage := c.child
    rcases before with ⟨here, -⟩ | ⟨here, -⟩ <;> rw [here] at stage <;> exact stage
  have there := c.parent_of_let_go (by omega)
    (by rcases before with ⟨here, -⟩ | ⟨here, -⟩ <;> simp [here, Station.copies])
  have same := left_eq c.order (protocol_released w) few
  subst same
  have read : s.socket.child.queue = [] := c.outbox.trans (outbox_of_many _ (by simp))
  have kept := Socket.parent_release_child read
  refine ⟨_, c.of_shift {
    words, split := rfl, unanswered := by simp
    alive := by rcases before with ⟨here, -⟩ | ⟨here, -⟩ <;> simp [here]
    born := by rcases before with ⟨-, after | after⟩ | ⟨-, after⟩ <;> simp [after]
    held := by
      intro side
      rw [ends, Socket.holders_release, c.held]
      rcases before with ⟨here, after | after⟩ | ⟨here, after⟩ <;> rw [here, after] <;>
        cases side <;> simp [Station.copies]
    stage := by
      rcases before with ⟨-, after | after⟩ | ⟨-, after⟩ <;> rw [after]
      · rfl
      · trivial
      · exact Nat.zero_le _
    parent := by rw [there]; exact Nat.zero_le _
    gaveUp := by simp [there, ParentPhase.gaveUp]
    inbox := by rw [ends, kept, c.inbox, there]; rfl
    outbox := by
      rw [ends, outbox_of_many _ (by simp)]
      exact Socket.queue_release_of_read _ .child read
    childCalm := by rw [ends]; exact Socket.reset_release_of_calm _ .child c.childCalm
    parentCalm := by
      intro lost
      rw [ends, kept] at lost
      cases (c.parent_calm alive).symm.trans lost
    told := fun some => absurd (c.untold alive) some
    fresh }⟩

/-- A forked process that cannot even try the command lets go of its copy all the same. -/
theorem shift_unrestored (c : Coherent w s left) {child : Child.State} (fresh : Child.Fresh child)
    (before : s.phase.station = .forked) (after : child.phase.station = .below)
    (ends : child.socket = s.socket.release .child) (words : Child.Adds s.toState child [] []) :
    Coherent w { s with toState := child } left := by
  have alive : s.phase.station ≠ .ended := by simp [before]
  have few : left.length = 1 := by
    have stage := c.child
    rw [before] at stage
    exact stage
  have there := c.parent_of_let_go (by omega) (by simp [before, Station.copies])
  have read : s.socket.child.queue = [] := c.outbox.trans (outbox_of_many _ (by omega))
  have kept := Socket.parent_release_child read
  exact c.of_shift {
    words, split := rfl, unanswered := by simp, alive := by simp [before], born := by simp [after]
    held := by
      intro side
      rw [ends, Socket.holders_release, c.held, before, after]
      cases side <;> simp [Station.copies]
    stage := by rw [after]; exact Nat.le_of_eq few
    parent := c.parent
    gaveUp := by simp [there, ParentPhase.gaveUp]
    inbox := by rw [ends, kept]; exact c.inbox
    outbox := by
      rw [ends, outbox_of_place _ (by simp [after])]
      exact Socket.queue_release_of_read _ .child read
    childCalm := by rw [ends]; exact Socket.reset_release_of_calm _ .child c.childCalm
    parentCalm := by
      intro lost
      rw [ends, kept] at lost
      cases (c.parent_calm alive).symm.trans lost
    told := fun some => absurd (c.untold alive) some
    fresh }

/-- A child that ends lets go of all its copies. Only one that has not read the message to go
leaves a reset behind. -/
theorem shift_quit (c : Coherent w s left) {child : Child.State} (fresh : Child.Fresh child)
    (before : s.phase.station ≠ .unborn) (after : child.phase.station = .ended)
    (ends : child.socket = s.phase.station.letGo s.socket)
    (words : Child.Adds s.toState child [] []) : Coherent w { s with toState := child } left := by
  have held : ∀ side, (child.socket.get side).holders =
      s.parent.copies side + child.phase.station.copies side := by
    intro side
    rw [ends, Child.holders_letGo, c.held, after]
    cases side <;> simp [Station.copies]
  have told : reports s.trace ≠ [] → left.length ≤ 1 ∧ child.phase.station = .ended :=
    fun some => ⟨(c.told some).1, after⟩
  by_cases unread : s.phase.station = .waiting ∧ left.length = 2
  · obtain ⟨here, few⟩ := unread
    have there := c.parent_of_let_go (by omega) (by simp [here, Station.copies])
    have last : (s.socket.get .child).holders ≤ 1 := by
      rw [c.held, there, here]
      decide
    rw [here] at ends
    exact c.of_shift {
      words, split := rfl, unanswered := by simp, alive := before, born := by simp [after], held
      stage := by rw [after]; trivial
      parent := c.parent
      gaveUp := by simp [there, ParentPhase.gaveUp]
      inbox := by
        rw [ends]
        exact (Socket.queue_release_other s.socket .child).trans c.inbox
      outbox := by
        rw [ends, outbox_of_place _ (by simp [after])]
        exact (Socket.queue_release s.socket .child).trans (if_pos last)
      childCalm := by
        rw [ends]
        exact Socket.reset_release_of_calm s.socket .child c.childCalm
      parentCalm := fun _ => ⟨there, after, few⟩
      told, fresh }
  · have read : s.socket.child.queue = [] := c.outbox.trans (if_neg unread)
    have unread : s.phase.station = .inheriting → s.socket.parent.queue = [] := by
      intro here
      obtain ⟨early, rfl⟩ := c.parent_of_preparing (Or.inl here)
      rw [c.inbox]
      rcases early with there | there <;> simp [there, Run.inbox]
    obtain ⟨empty, calm, kept, lost⟩ :=
      Child.letGo_of_read s.phase.station read c.childCalm unread
    exact c.of_shift {
      words, split := rfl, unanswered := by simp, alive := before, born := by simp [after], held
      stage := by rw [after]; trivial
      parent := c.parent
      gaveUp := fun _ => by rw [after]; rfl
      inbox := by rw [ends, kept, c.inbox]
      outbox := by rw [ends, empty, outbox_of_place _ (by simp [after])]
      childCalm := by rw [ends, calm]
      parentCalm := by
        intro reset
        rw [ends] at reset
        obtain ⟨there, -, few⟩ := c.parentCalm (lost reset)
        exact ⟨there, after, few⟩
      told, fresh }

theorem closed_of_refused (c : Coherent w s left) {e : Error} {k : Socket}
    (failed : s.socket.await? .child .go = some (.error e, k)) :
    s.socket.parent.isOpen = false ∧ k = s.socket := by
  rcases Socket.await?_error _ .child c.childCalm failed with
    ⟨-, closed, -, same⟩ | ⟨bytes, rest, queued, refused⟩
  · exact ⟨closed, same⟩
  · have outbox : s.socket.child.queue = bytes :: rest := queued
    rw [c.outbox, Run.outbox] at outbox
    split at outbox
    · obtain ⟨rfl, -⟩ := List.cons.inj outbox
      rw [Socket.accept_encode] at refused
      cases refused
    · cases outbox

theorem shift_refused (c : Coherent w s left) {child : Child.State} (fresh : Child.Fresh child)
    {e : Error} {k : Socket} (before : s.phase.station = .waiting)
    (after : child.phase.station = .ended)
    (failed : s.socket.await? .child .go = some (.error e, k))
    (ends : child.socket = k.release .child) (words : Child.Adds s.toState child [] []) :
    Coherent w { s with toState := child } left := by
  obtain ⟨-, rfl⟩ := c.closed_of_refused failed
  exact c.shift_quit fresh (by simp [before]) after (by rw [before]; exact ends) words

/-- The parent listens until the child is ready. -/
theorem heard_of_preparing (c : Coherent w s left) {e : Error} {k : Socket}
    (before : s.phase.station = .preparing) :
    s.socket.signal .child .ready ≠ (.error e, k) := by
  intro failed
  obtain ⟨early, -⟩ := c.parent_of_preparing (Or.inr before)
  obtain ⟨-, -, lost | closed⟩ := Socket.deliver_error failed
  · cases c.childCalm.symm.trans lost
  · have held := c.held .parent
    have open_ : (s.socket.get .parent).isOpen = true := by
      rw [Socket.isOpen_iff, held]
      rcases early with there | there <;> rw [there, before] <;> decide
    cases open_.symm.trans closed

/-- The parent listens until an outcome is reported. -/
theorem parent_of_below (c : Coherent w s left) (before : s.phase.station = .below) :
    s.parent = .awaitingReport ∧ left.length ≤ 1 := by
  have stage := c.child
  rw [before] at stage
  have few : left.length ≤ 1 := stage
  exact ⟨c.parent_of_let_go (by omega) (by simp [before, Station.copies]), few⟩

theorem deliver_of_below (c : Coherent w s left) (before : s.phase.station = .below)
    (bytes : Bytes) :
    s.socket.deliver .child bytes = (.ok (), s.socket.set .parent
      { s.socket.parent with queue := s.socket.parent.queue ++ [bytes] }) := by
  obtain ⟨there, -⟩ := c.parent_of_below before
  refine Socket.deliver_of_open _ .child c.childCalm ?_ bytes
  have held := c.held .parent
  rw [there, before] at held
  exact Socket.isOpen_iff.mpr (by rw [Side.other, held]; decide)

theorem shift_reported (c : Coherent w s left) {child : Child.State} (fresh : Child.Fresh child)
    {o : Outcome} (before : s.phase.station = .below) (after : child.phase.station = .ended)
    (sent : s.socket.report o = (.ok (), child.socket))
    (words : Child.Adds s.toState child [] [o]) :
    Coherent w { s with toState := child } left := by
  have told := c.untold (by simp [before])
  obtain ⟨there, few⟩ := c.parent_of_below before
  obtain ⟨gated, reported⟩ := words
  rw [List.append_nil] at gated
  rw [told] at reported
  unfold Socket.report at sent
  rw [c.deliver_of_below before] at sent
  have ends := (Prod.mk.inj sent).2
  have read : s.socket.child.queue = [] := c.outbox.trans (outbox_of_many _ (by omega))
  have kept : child.socket.parent =
      { s.socket.parent with queue := s.socket.parent.queue ++ [o.encode] } := by
    rw [← ends]
    exact Socket.parent_release_child read
  have calm : s.socket.parent.reset = false := c.parent_calm (by simp [before])
  exact {
    order := by rw [gated]; exact c.order
    held := by
      intro side
      have held := c.held side
      show (child.socket.get side).holders = _
      rw [← ends, Socket.holders_release, after]
      rw [before] at held
      cases side <;> simp_all [Station.copies, Socket.set]
    child := by rw [after]; trivial
    parent := c.parent
    gaveUp := fun _ => Or.inl (by rw [after]; rfl)
    cloned := fun cloning => by cases there.symm.trans cloning
    unborn := fun unborn => by cases after.symm.trans unborn
    inbox := by
      rw [kept, reported, c.inbox, told, there]
      rfl
    outbox := by
      rw [outbox_of_many _ (by omega), ← ends]
      exact Socket.queue_release_of_read _ .child read
    childCalm := by
      rw [← ends]
      exact Socket.reset_release_of_calm _ .child c.childCalm
    parentCalm := by
      intro lost
      rw [kept] at lost
      cases calm.symm.trans lost
    told := fun _ => ⟨few, after⟩
    toldOnce := by rw [reported]; exact Nat.le_refl 1
    heard := fun report reaping => by cases there.symm.trans reaping
    answered := by rw [gated]; exact c.answered
    fresh }

theorem shift (c : Coherent w s left) {child : Child.State} (fresh : Child.Fresh child)
    (h : Shift w.toSetting s.toState child) :
    ∃ left', Coherent w { s with toState := child } left' := by
  cases h with
  | quiet place ends words => exact ⟨left, c.shift_quiet fresh place ends words⟩
  | inherited before after ends words =>
    exact ⟨left, c.shift_inherited fresh before after ends words⟩
  | announced before after sent words => exact c.shift_announced fresh before after sent words
  | unheard e k before after failed => exact (c.heard_of_preparing before failed).elim
  | released before after got words => exact c.shift_released fresh before after got words
  | refused e k before after failed ends words =>
    exact ⟨left, c.shift_refused fresh before after failed ends words⟩
  | forked before after ends words => exact ⟨left, c.shift_forked fresh before after ends words⟩
  | executed before after ends words =>
    exact c.shift_executed fresh (Or.inl ⟨before, after⟩) ends words
  | executedBelow before after ends words =>
    exact c.shift_executed fresh (Or.inr ⟨before, after⟩) ends words
  | unrestored before after ends words =>
    exact ⟨left, c.shift_unrestored fresh before after ends words⟩
  | reported o before after sent words =>
    exact ⟨left, c.shift_reported fresh before after sent words⟩
  | unreported o e before after failed =>
    unfold Socket.report at failed
    rw [c.deliver_of_below before] at failed
    cases (Prod.mk.inj failed).1
  | quit before after ends words => exact ⟨left, c.shift_quit fresh before after ends words⟩

end NamespaceEntry.Run.Coherent
