import NamespaceEntry.Text.Bytes

/-!
# A connected pair of sockets

Each end holds the datagrams that have been sent to it, whole and in order. An end is
closed when no process holds it any more. If datagrams were still unread then, the other
end is reset: its next call fails once, before it sees what is queued for it.
-/

namespace NamespaceEntry

inductive Side where
  | parent
  | child
  deriving DecidableEq, Repr

def Side.other : Side → Side
  | .parent => .child
  | .child => .parent

@[simp] theorem Side.other_other (side : Side) : side.other.other = side := by
  cases side <;> rfl

theorem Side.other_ne (side : Side) : side.other ≠ side := by
  cases side <;> decide

structure Endpoint where
  /-- How many processes hold the end open. -/
  holders : Nat := 1
  /-- The datagrams that have not been received yet. -/
  queue : List Bytes := []
  /-- Whether the next call fails because the other end left datagrams unread. -/
  reset : Bool := false
  deriving DecidableEq, Repr

namespace Endpoint

def isOpen (e : Endpoint) : Bool := e.holders != 0

def closed : Endpoint := { holders := 0 }

end Endpoint

/-- A connected pair. -/
structure Socket where
  parent : Endpoint := {}
  child : Endpoint := {}
  deriving DecidableEq, Repr

inductive Sent where
  | sent
  | reset
  | closed
  deriving DecidableEq, Repr

inductive Received where
  | datagram (bytes : Bytes)
  | reset
  | ended
  /-- There is nothing to receive yet. -/
  | nothing
  deriving DecidableEq, Repr

namespace Socket

def get (s : Socket) : Side → Endpoint
  | .parent => s.parent
  | .child => s.child

def set (s : Socket) (side : Side) (e : Endpoint) : Socket :=
  match side with
  | .parent => { s with parent := e }
  | .child => { s with child := e }

@[simp] theorem get_set (s : Socket) (side : Side) (e : Endpoint) :
    (s.set side e).get side = e := by
  cases side <;> rfl

@[simp] theorem get_other_set (s : Socket) (side : Side) (e : Endpoint) :
    (s.set side e).get side.other = s.get side.other := by
  cases side <;> rfl

/-- Sends a datagram from a side. A reset is seen before anything else. -/
def send (s : Socket) (side : Side) (bytes : Bytes) : Sent × Socket :=
  let own := s.get side
  let peer := s.get side.other
  if own.reset then (.reset, s.set side { own with reset := false })
  else if peer.isOpen then
    (.sent, s.set side.other { peer with queue := peer.queue ++ [bytes] })
  else (.closed, s)

/-- Receives a datagram on a side, cut to a number of bytes. A reset is seen before the
queue, and the queue before the end of the other side. -/
def receive (s : Socket) (side : Side) (limit : Nat) : Received × Socket :=
  let own := s.get side
  if own.reset then (.reset, s.set side { own with reset := false })
  else
    match own.queue with
    | bytes :: rest => (.datagram (bytes.take limit), s.set side { own with queue := rest })
    | [] => (if (s.get side.other).isOpen then .nothing else .ended, s)

def share (s : Socket) (side : Side) : Socket :=
  let own := s.get side
  s.set side { own with holders := own.holders + 1 }

def close (s : Socket) (side : Side) : Socket :=
  let own := s.get side
  let peer := s.get side.other
  let s := s.set side .closed
  if own.queue.isEmpty then s else s.set side.other { peer with reset := true }

/-- One process lets go of the end of a side; with the last one the end is closed. -/
def release (s : Socket) (side : Side) : Socket :=
  let own := s.get side
  if own.holders ≤ 1 then s.close side else s.set side { own with holders := own.holders - 1 }

end Socket

end NamespaceEntry
