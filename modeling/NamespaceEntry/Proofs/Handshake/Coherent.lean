import NamespaceEntry.Proofs.Run.Stations

/-!
# The handshake as an invariant

`Coherent` ties together where the parent and the child are, who holds which end, what is
queued, and which steps of the handshake are left. It holds in every state that a run can
reach, also when the child is killed between any two steps.
-/

namespace NamespaceEntry.Run

open Child (Station Shift)

/-! ### The steps of the handshake -/

/-- What is heard of the mapper while it maps ids of some kinds. -/
def calls (w : Setting) (kinds : List IdKind) : List Event :=
  kinds.flatMap fun kind => [.mapperCalled kind w.childId (rangesOf w kind), .mapped kind]

def closing (w : Setting) : List Event :=
  [.goSent, .goReceived, .execAttempted w.command.argv]

/-- The steps of a handshake that goes well, the attempt to execute the command last. -/
def protocol (w : Setting) : List Event :=
  .readySent :: .readyReceived :: (calls w (kindsToMap w) ++ closing w)

@[simp] theorem length_calls (w : Setting) (kinds : List IdKind) :
    (calls w kinds).length = 2 * kinds.length := by
  induction kinds with
  | nil => rfl
  | cons kind rest ih =>
    simp only [calls, List.flatMap_cons, List.length_append, List.length_cons] at ih ⊢
    rw [ih]
    simp only [List.length_nil]
    omega

@[simp] theorem length_closing (w : Setting) : (closing w).length = 3 := rfl

theorem length_protocol (w : Setting) :
    (protocol w).length = 2 * (kindsToMap w).length + 5 := by
  simp [protocol, closing]

/-- How many steps are left is enough to know which they are. -/
theorem left_eq {said left first last : List Event} {w : Setting}
    (order : said ++ left = protocol w) (split : first ++ last = protocol w)
    (same : left.length = last.length) : left = last :=
  (List.append_inj' (order.trans split.symm) same).2

theorem protocol_let_go (w : Setting) :
    (.readySent :: .readyReceived :: calls w (kindsToMap w)) ++ [.goSent] ++
      [.goReceived, .execAttempted w.command.argv] = protocol w := by
  simp [protocol, closing]

theorem protocol_released (w : Setting) :
    (.readySent :: .readyReceived :: calls w (kindsToMap w)) ++ [.goSent, .goReceived] ++
      [.execAttempted w.command.argv] = protocol w := by
  simp [protocol, closing]

/-! ### Copies and queues -/

/-- How many copies of an end the parent holds. -/
def ParentPhase.copies : ParentPhase → Side → Nat
  | .cloning, _ | .dropping, _ => 1
  | .awaitingReady, .parent | .mapping _, .parent | .releasing, .parent
  | .awaitingReport, .parent | .abandoning _, .parent => 1
  | _, _ => 0

/-- Whether the parent only waits for the end of the child, or is about to. -/
def ParentPhase.gaveUp : ParentPhase → Bool
  | .reaping _ | .abandoning _ | .aborting _ | .finished _ => true
  | _ => false

def ParentPhase.busy : ParentPhase → Bool
  | .mapping _ | .releasing | .abandoning _ => true
  | _ => false

theorem copies_of_busy {p : ParentPhase} (working : p.busy) (side : Side) :
    p.copies side = if side = .parent then 1 else 0 := by
  cases p <;> cases working <;> cases side <;> rfl

/-- Why a parent gives up, and which steps are left then. -/
inductive Cause (w : Setting) : List Event → Error → Prop where
  | early : Cause w (protocol w) (.protocol .endedEarly)
  | unmapped (kind : IdKind) (rest : List IdKind) (e : Error)
      (due : kind :: rest <:+ kindsToMap w) (failed : (reply w kind).result = .error e) :
      Cause w (.mapped kind :: (calls w rest ++ closing w)) e
  | lost : Cause w (closing w) .channelClosed

theorem Cause.many {w : Setting} {left : List Event} {cause : Error} (h : Cause w left cause) :
    3 ≤ left.length := by
  have length := length_protocol w
  cases h with
  | early => omega
  | unmapped => simp
  | lost => exact Nat.le_refl _

def ParentPhase.Leaves (w : Setting) (left : List Event) : ParentPhase → Prop
  | .cloning | .dropping | .awaitingReady => (protocol w).length ≤ left.length + 1
  | .mapping kinds => kinds <:+ kindsToMap w ∧ left = calls w kinds ++ closing w
  | .releasing => left = closing w
  | .awaitingReport | .reaping _ => left.length ≤ 2
  | .abandoning cause | .aborting cause => Cause w left cause
  | .finished _ => True

def Leaves (w : Setting) (left : List Event) : Station → Prop
  | .unborn | .inheriting | .preparing => left = protocol w
  | .waiting => 2 ≤ left.length ∧ left.length < (protocol w).length
  | .released | .forked => left.length = 1
  | .below => left.length ≤ 1
  | .running => left = []
  | .ended => True

def inbox (w : Setting) (left : List Event) (told : List Outcome) : ParentPhase → List Bytes
  | .cloning | .dropping | .awaitingReady =>
    if left.length = (protocol w).length then [] else [Handshake.ready.encode]
  | .awaitingReport => told.map Outcome.encode
  | _ => []

theorem inbox_of_busy {p : ParentPhase} (working : p.busy) (w : Setting) (left : List Event)
    (told : List Outcome) : inbox w left told p = [] := by
  cases p <;> cases working <;> rfl

def outbox (left : List Event) (station : Station) : List Bytes :=
  if station = .waiting ∧ left.length = 2 then [Handshake.go.encode] else []

theorem outbox_of_many {left : List Event} (station : Station) (many : left.length ≠ 2) :
    outbox left station = [] := if_neg fun both => many both.2

theorem outbox_of_place {station : Station} (left : List Event) (place : station ≠ .waiting) :
    outbox left station = [] := if_neg fun both => place both.1

/-! ### The invariant -/

/-- What holds between the parent, the child and the pair, with the steps that are left. -/
structure Coherent (w : Setting) (s : State) (left : List Event) : Prop where
  order : gates s.trace ++ left = protocol w
  held : ∀ side, (s.socket.get side).holders = s.parent.copies side + s.phase.station.copies side
  child : Leaves w left s.phase.station
  parent : s.parent.Leaves w left
  /-- A child that outlives the parent's interest is one that was never let go. -/
  gaveUp : s.parent.gaveUp → s.phase.station.copies .child = 0 ∨
    s.phase.station = .waiting ∧ 3 ≤ left.length
  cloned : s.parent = .cloning → s.phase.station = .unborn
  unborn : s.phase.station = .unborn → s.parent = .cloning ∨ ∃ r, s.parent = .finished r
  inbox : s.socket.parent.queue = inbox w left (reports s.trace) s.parent
  outbox : s.socket.child.queue = outbox left s.phase.station
  childCalm : s.socket.child.reset = false
  parentCalm : s.socket.parent.reset = true →
    s.parent = .awaitingReport ∧ s.phase.station = .ended ∧ left.length = 2
  told : reports s.trace ≠ [] → left.length ≤ 1 ∧ s.phase.station = .ended
  toldOnce : (reports s.trace).length ≤ 1
  heard : ∀ report, s.parent = .reaping report → report = (reports s.trace).head?
  answered : ∀ kind, .mapped kind ∈ gates s.trace → (reply w kind).result = .ok ()
  fresh : Child.Fresh s.toState

theorem coherent_start (w : Setting) : Coherent w {} (protocol w) where
  order := rfl
  held side := by cases side <;> rfl
  child := rfl
  parent := Nat.le_succ _
  gaveUp := nofun
  cloned _ := rfl
  unborn _ := Or.inl rfl
  inbox := by simp [Run.inbox]
  outbox := rfl
  childCalm := rfl
  parentCalm := nofun
  told := nofun
  toldOnce := Nat.zero_le _
  heard := nofun
  answered := nofun
  fresh := nofun

namespace Coherent

variable {w : Setting} {s : State} {left : List Event}

theorem length_left (c : Coherent w s left) : left.length ≤ (protocol w).length := by
  rw [← c.order, List.length_append]
  omega

theorem parent_of_preparing (c : Coherent w s left)
    (early : s.phase.station = .inheriting ∨ s.phase.station = .preparing) :
    (s.parent = .dropping ∨ s.parent = .awaitingReady) ∧ left = protocol w := by
  have whole : left = protocol w := by
    have child := c.child
    rcases early with here | here <;> rw [here] at child <;> exact child
  have parent := c.parent
  have gaveUp := c.gaveUp
  have cloned := c.cloned
  have length := length_protocol w
  refine ⟨?_, whole⟩
  rw [whole] at parent gaveUp
  cases there : s.parent <;> rw [there] at parent gaveUp cloned
  case dropping => exact Or.inl rfl
  case awaitingReady => exact Or.inr rfl
  case cloning => rcases early with here | here <;> rw [cloned rfl] at here <;> cases here
  case mapping kinds =>
    obtain ⟨suffix, same⟩ := parent
    have bound := suffix.length_le
    have lengths := congrArg List.length same
    simp only [List.length_append, length_calls, closing, List.length_cons,
      List.length_nil] at lengths
    omega
  case releasing =>
    have lengths := congrArg List.length parent
    simp only [closing, List.length_cons, List.length_nil] at lengths
    omega
  case awaitingReport | reaping =>
    simp only [ParentPhase.Leaves] at parent
    omega
  all_goals
    rcases early with here | here <;> rw [here] at gaveUp <;>
      simp [ParentPhase.gaveUp, Station.copies] at gaveUp

/-- Once the child may go, and while it holds its end, the parent waits for the report. -/
theorem parent_of_let_go (c : Coherent w s left) (few : left.length ≤ 2)
    (holds : s.phase.station.copies .child ≠ 0) : s.parent = .awaitingReport := by
  have parent := c.parent
  have gaveUp := c.gaveUp
  have length := length_protocol w
  cases there : s.parent <;> rw [there] at parent gaveUp
  case cloning | dropping | awaitingReady =>
    simp only [ParentPhase.Leaves] at parent
    omega
  case mapping kinds =>
    have lengths := congrArg List.length parent.2
    simp only [List.length_append, closing, List.length_cons, List.length_nil] at lengths
    omega
  case releasing =>
    have lengths := congrArg List.length parent
    simp only [closing, List.length_cons, List.length_nil] at lengths
    omega
  all_goals
    rcases gaveUp rfl with gone | ⟨-, many⟩
    · exact absurd gone holds
    · omega

theorem untold (c : Coherent w s left) (alive : s.phase.station ≠ .ended) :
    reports s.trace = [] := by
  apply Classical.byContradiction
  intro some
  exact alive (c.told some).2

/-- The parent's end is calm unless its child died with the message to go unread. -/
theorem parent_calm (c : Coherent w s left) (alive : s.phase.station ≠ .ended) :
    s.socket.parent.reset = false := by
  cases calm : s.socket.parent.reset with
  | false => rfl
  | true => exact absurd (c.parentCalm calm).2.1 alive

end Coherent

end NamespaceEntry.Run
