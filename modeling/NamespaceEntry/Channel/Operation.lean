import NamespaceEntry.Channel.Message

/-!
# Operations on a channel

`run` applies operations of either side in any order, each by the process that holds the
end. An operation on an end that is closed is not carried out, and neither is a wait for
which nothing has arrived.
-/

namespace NamespaceEntry.Channel

inductive Operation where
  | signal (side : Side) (message : Handshake)
  | await (side : Side) (message : Handshake)
  | report (outcome : Outcome)
  | awaitReport
  | close (side : Side)
  | send (side : Side) (bytes : Bytes)
  | receive (side : Side)
  deriving DecidableEq, Repr

inductive Answer where
  | done
  | failed (error : Error)
  | report (outcome : Option Outcome)
  | received (bytes : Bytes)
  | ended
  | reset
  | partnerClosed
  | ownEndClosed
  | wouldBlock
  deriving DecidableEq, Repr

def Operation.side : Operation → Side
  | .signal side _ | .await side _ | .close side | .send side _ | .receive side => side
  | .report _ => .child
  | .awaitReport => .parent

def Answer.ofUnit : Except Error Unit → Answer
  | .ok () => .done
  | .error e => .failed e

def Answer.ofReport : Except Error (Option Outcome) → Answer
  | .ok o => .report o
  | .error e => .failed e

/-- The size of the buffer that datagrams of any form are received into. -/
def rawLimit : Nat := 64

/-- Carries out an operation on an end that is open. -/
def perform (s : Socket) : Operation → Answer × Socket
  | .signal side m =>
    let (result, s) := s.signal side m
    (.ofUnit result, s)
  | .await side m =>
    match s.await? side m with
    | some (result, s) => (.ofUnit result, s)
    | none => (.wouldBlock, s)
  | .report o =>
    let (result, s) := s.report o
    (.ofUnit result, s)
  | .awaitReport =>
    match s.awaitReport? with
    | some (result, s) => (.ofReport result, s)
    | none => (.wouldBlock, s)
  | .close side => (.done, s.release side)
  | .send side bytes =>
    let (result, s) := s.send side bytes
    (if result = .sent then .done else .partnerClosed, s)
  | .receive side =>
    let (received, s) := s.receive side rawLimit
    (match received with
      | .datagram [] | .ended => .ended
      | .datagram bytes => .received bytes
      | .reset => .reset
      | .nothing => .wouldBlock, s)

def step (s : Socket) (op : Operation) : Answer × Socket :=
  if (s.get op.side).isOpen then perform s op else (.ownEndClosed, s)

def run (s : Socket) : List Operation → List Answer × Socket
  | [] => ([], s)
  | op :: rest =>
    let (answer, s) := step s op
    let (answers, s) := run s rest
    (answer :: answers, s)

/-- What a side receives until it is at the end of the channel or would block. -/
def receiveAll (side : Side) : Nat → Socket → List Answer
  | 0, _ => []
  | fuel + 1, s =>
    match step s (.receive side) with
    | (.ownEndClosed, _) => []
    | (.ended, _) => [.ended]
    | (.wouldBlock, _) => [.wouldBlock]
    | (answer, s) => answer :: receiveAll side fuel s

/-- All that a side can still receive. A reset and the end each count as one more. -/
def remaining (s : Socket) (side : Side) : List Answer :=
  receiveAll side ((s.get side).queue.length + 2) s

end NamespaceEntry.Channel
