import Mathlib.Data.List.Induction
import Mathlib.Logic.Function.Basic
import NamespaceEntry.Channel.Operation
import NamespaceEntry.Proofs.Channel.Recognition

/-!
# The books of a channel

Operations and their answers say which datagrams each side has sent and which calls have taken
one. `Ledger` keeps these books, without a look at the two ends.
-/

namespace NamespaceEntry.Channel

abbrev Entry := Operation × Answer

namespace Operation

/-- Whether an operation is a call of the handshake. The others pass on datagrams of any form. -/
def isTyped : Operation → Bool
  | .send .. | .receive _ => false
  | _ => true

def receives : Operation → Bool
  | .await .. | .awaitReport => true
  | _ => false

def datagram? : Operation → Option Bytes
  | .signal _ m => some m.encode
  | .report o => some o.encode
  | _ => none

def closes : Operation → Bool
  | .report _ | .awaitReport | .close _ => true
  | _ => false

/-- What a call that waits for a message makes of a whole datagram. A closed channel gives it
none. -/
def verdict (d : Bytes) : Operation → Answer
  | .await _ m => .ofUnit (m.accept d)
  | .awaitReport => .ofReport (Outcome.decode d)
  | _ => .wouldBlock

end Operation

namespace Answer

/-- Whether a call that waited for a message has taken a datagram, accepted or not. -/
def took : Answer → Bool
  | .done | .failed (.protocol _) | .report (some _) => true
  | _ => false

def saysClosed : Answer → Bool
  | .failed .channelClosed | .report none => true
  | _ => false

def carriedOut : Answer → Bool
  | .ownEndClosed | .wouldBlock => false
  | _ => true

end Answer

/-! ### Ledgers -/

/-- What the answers to operations say of each side. -/
structure Ledger where
  /-- The datagrams that it has sent. -/
  sent : Side → List Bytes := fun _ => []
  /-- Its calls that have taken a datagram. -/
  taken : Side → List Entry := fun _ => []
  /-- Whether it has closed its end. -/
  closed : Side → Bool := fun _ => false
  /-- Whether it has called nothing since the other side closed its end. -/
  unaware : Side → Bool := fun _ => false

namespace Ledger

open Function (update)

variable (l : Ledger) (side : Side)

def call : Ledger := { l with unaware := update l.unaware side false }

def send (d : Bytes) : Ledger := { l with sent := update l.sent side (l.sent side ++ [d]) }

def take (p : Entry) : Ledger := { l with taken := update l.taken side (l.taken side ++ [p]) }

def close : Ledger :=
  { l with closed := update l.closed side true, unaware := update l.unaware side.other true }

def post (p : Entry) : Ledger :=
  match p.1.datagram? with
  | some d => if p.2 = .done then l.send p.1.side d else l
  | none => l

def enter (p : Entry) : Ledger :=
  let l := (l.call p.1.side).post p
  let l := if p.1.receives && p.2.took then l.take p.1.side p else l
  if p.1.closes && p.2.carriedOut then l.close p.1.side else l

/-- What has been sent to a side and it has not taken. -/
def unread : List Bytes := (l.sent side.other).drop (l.taken side).length

/-- Whether the next call of a side is lost, because the other side has closed its end with
datagrams unread. -/
def cutOff : Bool := l.unaware side && !(l.unread side.other).isEmpty

variable {l : Ledger} {side : Side} {d : Bytes} {p : Entry}

@[simp] theorem call_sent : (l.call side).sent = l.sent := rfl

@[simp] theorem call_taken : (l.call side).taken = l.taken := rfl

@[simp] theorem call_closed : (l.call side).closed = l.closed := rfl

@[simp] theorem call_unaware : (l.call side).unaware side = false := Function.update_self ..

@[simp] theorem call_unaware_other : (l.call side).unaware side.other = l.unaware side.other :=
  Function.update_of_ne (Side.other_ne side) ..

@[simp] theorem send_sent : (l.send side d).sent side = l.sent side ++ [d] :=
  Function.update_self ..

@[simp] theorem send_sent_other : (l.send side d).sent side.other = l.sent side.other :=
  Function.update_of_ne (Side.other_ne side) ..

@[simp] theorem send_taken : (l.send side d).taken = l.taken := rfl

@[simp] theorem send_closed : (l.send side d).closed = l.closed := rfl

@[simp] theorem send_unaware : (l.send side d).unaware = l.unaware := rfl

@[simp] theorem post_taken : (l.post p).taken = l.taken := by
  unfold post
  split <;> (try split) <;> rfl

@[simp] theorem post_closed : (l.post p).closed = l.closed := by
  unfold post
  split <;> (try split) <;> rfl

@[simp] theorem post_unaware : (l.post p).unaware = l.unaware := by
  unfold post
  split <;> (try split) <;> rfl

@[simp] theorem take_sent : (l.take side p).sent = l.sent := rfl

@[simp] theorem take_taken : (l.take side p).taken side = l.taken side ++ [p] :=
  Function.update_self ..

@[simp] theorem take_taken_other : (l.take side p).taken side.other = l.taken side.other :=
  Function.update_of_ne (Side.other_ne side) ..

@[simp] theorem take_closed : (l.take side p).closed = l.closed := rfl

@[simp] theorem take_unaware : (l.take side p).unaware = l.unaware := rfl

@[simp] theorem close_sent : (l.close side).sent = l.sent := rfl

@[simp] theorem close_taken : (l.close side).taken = l.taken := rfl

@[simp] theorem close_closed : (l.close side).closed side = true := Function.update_self ..

@[simp] theorem close_closed_other : (l.close side).closed side.other = l.closed side.other :=
  Function.update_of_ne (Side.other_ne side) ..

@[simp] theorem close_unaware : (l.close side).unaware side = l.unaware side :=
  Function.update_of_ne (Side.other_ne side).symm ..

@[simp] theorem close_unaware_other : (l.close side).unaware side.other = true :=
  Function.update_self ..

end Ledger

def after (ops : List Operation) : Socket := (run {} ops).2

def answer (ops : List Operation) (op : Operation) : Answer := (step (after ops) op).1

def history (ops : List Operation) : List Entry := ops.zip (run {} ops).1

def ledger (ops : List Operation) : Ledger := (history ops).foldl Ledger.enter {}

variable {ops : List Operation} {op : Operation}

theorem run_append (s : Socket) (xs ys : List Operation) :
    run s (xs ++ ys) =
      ((run s xs).1 ++ (run (run s xs).2 ys).1, (run (run s xs).2 ys).2) := by
  induction xs generalizing s with
  | nil => rfl
  | cons x xs ih => simp only [List.cons_append, run, ih]

theorem length_run (s : Socket) (ops : List Operation) : (run s ops).1.length = ops.length := by
  induction ops generalizing s with
  | nil => rfl
  | cons op rest ih => simp only [run, List.length_cons, ih]

theorem after_concat (ops : List Operation) (op : Operation) :
    after (ops ++ [op]) = (step (after ops) op).2 := by
  rw [after, run_append]
  rfl

theorem history_concat (ops : List Operation) (op : Operation) :
    history (ops ++ [op]) = history ops ++ [(op, answer ops op)] := by
  rw [history, run_append, List.zip_append (length_run _ _).symm]
  rfl

theorem ledger_concat (ops : List Operation) (op : Operation) :
    ledger (ops ++ [op]) = (ledger ops).enter (op, answer ops op) := by
  rw [ledger, history_concat, List.foldl_append]
  rfl

/-! ### Sums over a history -/

namespace Entry

variable (side : Side) (p : Entry)

def sends : List Bytes := if p.1.side = side ∧ p.2 = .done then p.1.datagram?.toList else []

def takes : Bool := p.1.side = side && p.1.receives && p.2.took

def closes : Bool := p.1.side = side && p.1.closes && p.2.carriedOut

end Entry

theorem Side.eq_or_eq_other (x side : Side) : x = side ∨ x = side.other := by
  cases x <;> cases side <;> simp [Side.other]

namespace Ledger

variable (l : Ledger) (side : Side) (p : Entry)

theorem sent_enter : (l.enter p).sent side = l.sent side ++ p.sends side := by
  simp only [enter, apply_ite sent, close_sent, take_sent, ite_self, post, Entry.sends]
  rcases Side.eq_or_eq_other side p.1.side with rfl | rfl
  · cases p.1.datagram? <;> by_cases done : p.2 = .done <;> simp [done]
  · cases p.1.datagram? <;> by_cases done : p.2 = .done <;> simp [done, (Side.other_ne _).symm]

theorem taken_enter :
    (l.enter p).taken side = l.taken side ++ if p.takes side then [p] else [] := by
  simp only [enter, apply_ite taken, close_taken, ite_self, Entry.takes, Bool.and_assoc]
  rcases Side.eq_or_eq_other side p.1.side with rfl | rfl
  · by_cases took : (p.1.receives && p.2.took) = true <;> simp [took]
  · by_cases took : (p.1.receives && p.2.took) = true <;> simp [took, (Side.other_ne _).symm]

theorem closed_enter : (l.enter p).closed side = (l.closed side || p.closes side) := by
  simp only [enter, apply_ite closed, Entry.closes, Bool.and_assoc]
  rcases Side.eq_or_eq_other side p.1.side with rfl | rfl
  · by_cases done : (p.1.closes && p.2.carriedOut) = true <;> simp [done]
  · by_cases done : (p.1.closes && p.2.carriedOut) = true <;>
      simp [done, apply_ite closed, (Side.other_ne _).symm]

theorem unaware_enter : (l.enter p).unaware p.1.side = false := by
  simp only [enter]
  split <;> split <;> simp

theorem enter_of_refused (op : Operation) : l.enter (op, .ownEndClosed) = l.call op.side := by
  cases op <;> rfl

end Ledger

theorem sent_ledger (side : Side) :
    (ledger ops).sent side = (history ops).flatMap (Entry.sends side) := by
  rw [ledger]
  induction history ops using List.reverseRecOn with
  | nil => rfl
  | append_singleton h p ih =>
    rw [List.foldl_append, List.foldl_cons, List.foldl_nil, Ledger.sent_enter, ih]
    simp

theorem taken_ledger (side : Side) :
    (ledger ops).taken side = (history ops).filter (Entry.takes side) := by
  rw [ledger]
  induction history ops using List.reverseRecOn with
  | nil => rfl
  | append_singleton h p ih =>
    rw [List.foldl_append, List.foldl_cons, List.foldl_nil, Ledger.taken_enter, ih,
      List.filter_append]
    cases takes : p.takes side <;> simp [takes]

theorem closed_ledger (side : Side) :
    (ledger ops).closed side = (history ops).any (Entry.closes side) := by
  rw [ledger]
  induction history ops using List.reverseRecOn with
  | nil => rfl
  | append_singleton h p ih =>
    rw [List.foldl_append, List.foldl_cons, List.foldl_nil, Ledger.closed_enter, ih,
      List.any_append]
    simp

/-! ### Answers -/

theorem Operation.isTyped_of_receives (waits : op.receives = true) : op.isTyped = true := by
  cases op with
  | await | awaitReport => rfl
  | _ => cases waits

theorem Answer.carriedOut_of_took {a : Answer} (took : a.took = true) : a.carriedOut = true := by
  cases a <;> first | rfl | cases took

theorem Answer.carriedOut_of_saysClosed {a : Answer} (told : a.saysClosed = true) :
    a.carriedOut = true := by
  cases a <;> first | rfl | cases told

theorem Answer.took_of_saysClosed {a : Answer} (told : a.saysClosed = true) : a.took = false := by
  cases a with
  | failed e => cases e <;> first | rfl | cases told
  | report o => cases o <;> first | rfl | cases told
  | _ => cases told

theorem accept_took {m : Handshake} {d : Bytes} :
    (Answer.ofUnit (m.accept d)).took = true ↔ d ≠ [] := by
  by_cases empty : d = []
  · subst empty
    simp [Handshake.accept, Answer.ofUnit, Answer.took]
  · rcases answer : m.accept d with e | ⟨⟩
    · obtain rfl | ⟨fault, rfl⟩ := Socket.accept_error answer
      · exact absurd (Handshake.accept_eq_closed_iff.mp answer) empty
      · simp [empty, Answer.ofUnit, Answer.took]
    · simp [empty, Answer.ofUnit, Answer.took]

theorem decode_took {d : Bytes} :
    (Answer.ofReport (Outcome.decode d)).took = true ↔ d ≠ [] := by
  rw [ne_eq, ← Outcome.decode_eq_none_iff]
  rcases answer : Outcome.decode d with e | _ | o
  · obtain ⟨fault, rfl⟩ := Socket.decode_error answer
    simp [Answer.ofReport, Answer.took]
  · simp [Answer.ofReport, Answer.took]
  · simp [Answer.ofReport, Answer.took]

/-- A call that waits takes every datagram that is not empty, whether or not it accepts it. -/
theorem took_verdict {d : Bytes} (waits : op.receives = true) :
    (op.verdict d).took = true ↔ d ≠ [] := by
  cases op with
  | await side m => exact accept_took
  | awaitReport => exact decode_took
  | _ => cases waits

theorem saysClosed_verdict {d : Bytes} (waits : op.receives = true) :
    (op.verdict d).saysClosed = true ↔ d = [] := by
  cases op with
  | await side m =>
    rw [← Handshake.accept_eq_closed_iff (m := m)]
    rcases answer : m.accept d with e | ⟨⟩
    · cases e <;> simp [Operation.verdict, answer, Answer.ofUnit, Answer.saysClosed]
    · simp [Operation.verdict, answer, Answer.ofUnit, Answer.saysClosed]
  | awaitReport =>
    rw [← Outcome.decode_eq_none_iff]
    rcases answer : Outcome.decode d with e | _ | o
    · obtain ⟨fault, rfl⟩ := Socket.decode_error answer
      simp [Operation.verdict, answer, Answer.ofReport, Answer.saysClosed]
    · simp [Operation.verdict, answer, Answer.ofReport, Answer.saysClosed]
    · simp [Operation.verdict, answer, Answer.ofReport, Answer.saysClosed]
  | _ => cases waits

theorem carriedOut_verdict (d : Bytes) (waits : op.receives = true) :
    (op.verdict d).carriedOut = true := by
  cases op with
  | await side m => rcases answer : m.accept d with e | ⟨⟩ <;> simp [Operation.verdict, answer] <;> rfl
  | awaitReport =>
    rcases answer : Outcome.decode d with e | o <;> simp [Operation.verdict, answer] <;> rfl
  | _ => cases waits

theorem perform_of_receives (s : Socket) (waits : op.receives = true) :
    perform s op = match (s.receive op.side Socket.messageLimit).1.bytes? with
      | some bytes => (op.verdict bytes,
          if op.closes then (s.receive op.side Socket.messageLimit).2.release op.side
          else (s.receive op.side Socket.messageLimit).2)
      | none => (.wouldBlock, s) := by
  cases op with
  | await side m =>
    simp only [perform, Socket.await?, Operation.side]
    cases (s.receive side Socket.messageLimit).1.bytes? <;> rfl
  | awaitReport =>
    simp only [perform, Socket.awaitReport?, Operation.side]
    cases (s.receive .parent Socket.messageLimit).1.bytes? <;> rfl
  | _ => cases waits

theorem perform_of_datagram {d : Bytes} (s : Socket) (sends : op.datagram? = some d) :
    (perform s op).1 = .ofUnit (s.deliver op.side d).1 := by
  cases op with
  | signal side m => cases sends; rfl
  | report o => cases sends; rfl
  | _ => cases sends

end NamespaceEntry.Channel
