import NamespaceEntry.Mapper
import NamespaceEntry.Run.Child

/-!
# Runs

A run is a parent and a child that talk over a pair of sockets. The parent creates the
child, waits until it is ready, has its ids mapped, lets it go, and waits for the report
and for the end of the child. On every failure it closes its end before it waits.
`State.step` lets any process take its next step; `run` is the run in which the parent
always goes first.
-/

namespace NamespaceEntry.Run

structure Setting extends Child.Setting where
  isolation : Isolation
  mapper : Mapper
  childId : ProcessId

inductive ParentPhase where
  | cloning
  /-- It still holds a copy of the child's end. -/
  | dropping
  | awaitingReady
  | mapping (kinds : List IdKind)
  | releasing
  | awaitingReport
  | reaping (reported : Option Outcome)
  | abandoning (cause : Error)
  | aborting (cause : Error)
  | finished (result : Except Error Outcome)

structure State extends Child.State where
  parent : ParentPhase := .cloning

namespace State

def note (s : State) (events : List Event) : State :=
  { s with toState := s.toState.log events }

def next (s : State) (parent : ParentPhase) : State := { s with parent }

def drop (s : State) (side : Side) : State := { s with socket := s.socket.release side }

end State

/-- Creates the child, which gets copies of both ends. -/
def clone (w : Setting) (s : State) : State :=
  match w.host.clone w.namespaces with
  | .ok () =>
    { s with
      socket := (s.socket.share .parent).share .child
      phase := .inheriting
      parent := .dropping }
  | .error errno =>
    (((s.drop .child).drop .parent).note [.parentClosed]).next
      (.finished (.error (.resource (.clone errno))))

def kindsToMap (w : Setting) : List IdKind :=
  match w.isolation.mapping? with
  | none => []
  | some m => [IdKind.uid, IdKind.gid].filter fun kind => !(m.ranges kind).isEmpty

/-- A channel that closes before the child is ready means that the child ended early. -/
def readyCause : Error → Error
  | .channelClosed => .protocol .endedEarly
  | e => e

def awaitReady? (w : Setting) (s : State) : Option State :=
  (s.socket.await? .parent .ready).map fun (result, socket) =>
    let s := { s with socket }
    match result with
    | .ok () => (s.note [.readyReceived]).next (.mapping (kindsToMap w))
    | .error e => s.next (.abandoning (readyCause e))

def killed (s : State) (signal : Nat) : State :=
  match Child.killStep s.toState signal with
  | some child => { s with toState := child }
  | none => s

def mapKind (w : Setting) (s : State) (kind : IdKind) (rest : List IdKind) : State :=
  let ranges := (w.isolation.mapping?.map fun m => m.ranges kind).getD []
  let reply := w.mapper kind w.childId ranges
  let s := s.note (.mapperCalled kind w.childId ranges :: (reply.started.map .toolStarted).toList)
  let s := (reply.kill.map (killed s)).getD s
  match reply.result with
  | .ok () => (s.note [.mapped kind]).next (.mapping rest)
  | .error e => s.next (.abandoning e)

def release (s : State) : State :=
  let (result, socket) := s.socket.signal .parent .go
  let s := { s with socket }
  match result with
  | .ok () => (s.note [.goSent]).next .awaitingReport
  | .error e => s.next (.abandoning e)

/-- Waits for the report, and closes the parent's end. -/
def awaitReport? (s : State) : Option State :=
  s.socket.awaitReport?.map fun (result, socket) =>
    let s := { s with socket }.note [.parentClosed]
    match result with
    | .ok reported => s.next (.reaping reported)
    | .error e => s.next (.aborting e)

/-- Waits for the end of the child; a child that has no outcome cannot be waited for. -/
def reap? (w : Setting) (s : State) : Option (Except WaitFault Outcome × State) :=
  match s.phase with
  | .ended ending =>
    let result := match ending.outcome? with
      | some o => .ok o
      | none => .error (.failed w.childId .invalidArgument)
    some (result, s.note [.reaped ending])
  | _ => none

/-- The result of a run whose child reported `reported` and ended with `status`. -/
def resultOf (reported : Option Outcome) : Except WaitFault Outcome → Except Error Outcome
  | .ok status => .ok (reported.getD status)
  | .error fault => .error (.wait fault)

/-- The error of a run that was given up for a cause. -/
def abortError (cause : Error) : Except WaitFault Outcome → Error
  | .ok _ => cause
  | .error fault => .waitInAbort fault cause

def parentStep (w : Setting) (s : State) : Option State :=
  match s.parent with
  | .cloning => some (clone w s)
  | .dropping => some ((s.drop .child).next .awaitingReady)
  | .awaitingReady => awaitReady? w s
  | .mapping (kind :: rest) => some (mapKind w s kind rest)
  | .mapping [] => some (s.next .releasing)
  | .releasing => some (release s)
  | .awaitingReport => awaitReport? s
  | .reaping reported =>
    (reap? w s).map fun (result, s) => s.next (.finished (resultOf reported result))
  | .abandoning cause => some (((s.drop .parent).note [.parentClosed]).next (.aborting cause))
  | .aborting cause =>
    (reap? w s).map fun (result, s) => s.next (.finished (.error (abortError cause result)))
  | .finished _ => none

/-- A process of a run, or someone who kills the child. -/
inductive Actor where
  | parent
  | inner (actor : Child.Actor)
  | killer (signal : Nat)
  deriving DecidableEq, Repr

/-- A process takes a step, if it is not blocked. -/
def step (w : Setting) (s : State) : Actor → Option State
  | .parent => parentStep w s
  | .inner actor =>
    (Child.stepOf w.toSetting s.toState actor).map fun child => { s with toState := child }
  | .killer signal =>
    (Child.killStep s.toState signal).map fun child => { s with toState := child }

/-- The states that a run can reach, whatever the order of the steps. -/
inductive Reachable (w : Setting) : State → Prop where
  | start : Reachable w {}
  | step {s t : State} (actor : Actor) (reached : Reachable w s) (taken : step w s actor = some t) :
      Reachable w t

/-- The parent takes a step, or if it is blocked the first process that is not. -/
def advance (w : Setting) (s : State) : Option State :=
  parentStep w s <|>
    (Child.advance w.toSetting s.toState).map fun child => { s with toState := child }

/-- Why a run cannot even begin, if it cannot: its parent and its child need a pair of sockets. -/
def unopened? (w : Setting) : Option Error :=
  w.host.channel.map fun errno => .resource (.channel errno)

/-- Steps until every process is blocked or has ended. -/
def complete (w : Setting) : Nat → State → State
  | 0, s => s
  | fuel + 1, s =>
    match advance w s with
    | some s => complete w fuel s
    | none => s

/-- The end of the run in which the parent always goes first, once there is a pair of sockets. -/
def run (w : Setting) : State := complete w (w.toSetting.bound + 16) {}

def State.result? (s : State) : Option (Except Error Outcome) :=
  match s.parent with
  | .finished result => some result
  | _ => none

end NamespaceEntry.Run
