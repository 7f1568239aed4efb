import NamespaceEntry.Error
import NamespaceEntry.Channel.Socket

/-!
# Messages between parent and child

The child says that it is ready, the parent lets it go, and the child reports how its
command ended. The first two are one byte each, a report is two, so that no datagram is
taken for two different messages.
-/

namespace NamespaceEntry

namespace Handshake

def byte : Handshake → UInt8
  | .ready => Bytes.ascii 'R'
  | .go => Bytes.ascii 'G'

def ofByte? (b : UInt8) : Option Handshake :=
  if b = byte .ready then some .ready else if b = byte .go then some .go else none

def encode (m : Handshake) : Bytes := [m.byte]

/-- Checks that a received datagram is the expected message. An empty one is what a closed
channel delivers. -/
def accept (expected : Handshake) : Bytes → Except Error Unit
  | [] => .error .channelClosed
  | [b] =>
    match ofByte? b with
    | some m => if m = expected then .ok () else .error (.protocol (.unexpected expected m))
    | none => .error (.protocol (.malformed expected 1))
  | bytes => .error (.protocol (.malformed expected bytes.length))

end Handshake

namespace Outcome

/-- The first byte of a report of an exit code. -/
def exitedTag : UInt8 := Bytes.ascii 'X'

/-- The first byte of a report of a death by a signal. -/
def signaledTag : UInt8 := Bytes.ascii 'S'

def encode : Outcome → Bytes
  | .exited code => [exitedTag, code]
  | .signaled signal => [signaledTag, signal.number.toUInt8]

/-- The outcome that a received datagram reports; an empty one reports none. -/
def decode : Bytes → Except Error (Option Outcome)
  | [] => .ok none
  | [tag, b] =>
    if tag = exitedTag then .ok (some (.exited b))
    else if tag = signaledTag then
      match Signal.ofNumber? b.toNat with
      | some signal => .ok (some (.signaled signal))
      | none => .error (.protocol (.unknownSignal b.toNat))
    else .error (.protocol (.malformedReport 2))
  | bytes => .error (.protocol (.malformedReport bytes.length))

end Outcome

/-- What a receiver that takes a reset for the end of the channel gets, or nothing yet. -/
def Received.bytes? : Received → Option Bytes
  | .datagram bytes => some bytes
  | .reset | .ended => some []
  | .nothing => none

namespace Socket

/-- The size of the buffer that messages are received into. It is larger than any message,
so that a longer datagram is not cut to one. -/
def messageLimit : Nat := 8

/-- Sends one whole datagram; a partner that is gone closes the channel. -/
def deliver (s : Socket) (side : Side) (bytes : Bytes) : Except Error Unit × Socket :=
  match s.send side bytes with
  | (.sent, s) => (.ok (), s)
  | (_, s) => (.error .channelClosed, s)

def signal (s : Socket) (side : Side) (m : Handshake) : Except Error Unit × Socket :=
  s.deliver side m.encode

/-- Waits for a message of the handshake; there is no result while nothing has arrived. -/
def await? (s : Socket) (side : Side) (m : Handshake) : Option (Except Error Unit × Socket) :=
  let (received, s) := s.receive side messageLimit
  received.bytes?.map fun bytes => (m.accept bytes, s)

/-- The child reports an outcome and lets go of its end. -/
def report (s : Socket) (o : Outcome) : Except Error Unit × Socket :=
  let (result, s) := s.deliver .child o.encode
  (result, s.release .child)

/-- The parent waits for a report and lets go of its end. -/
def awaitReport? (s : Socket) : Option (Except Error (Option Outcome) × Socket) :=
  let (received, s) := s.receive .parent messageLimit
  received.bytes?.map fun bytes => (Outcome.decode bytes, s.release .parent)

end Socket

end NamespaceEntry
