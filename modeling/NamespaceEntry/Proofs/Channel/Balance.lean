import Mathlib.Data.List.Forall2
import NamespaceEntry.Proofs.Channel.Histories

/-!
# Balanced books

After any calls the two ends hold what the books of the channel say: what has been sent and not
taken waits whole and in order, and a reset waits for a side that has not called since the other
left datagrams unread. So the books decide how a call is answered.
-/

namespace NamespaceEntry.Channel

variable {ops : List Operation} {op : Operation}

/-- An entry answers a call that waited for a message by what the whole datagram is. -/
def Answers (p : Entry) (d : Bytes) : Prop := p.2 = p.1.verdict d

/-- The ends hold what the books say. -/
structure Balanced (l : Ledger) (s : Socket) : Prop where
  holders : ∀ side, (s.get side).holders = (!l.closed side).toNat
  /-- What was sent has been taken in order, or it still waits unless its end is closed. -/
  queue : ∀ side, ∃ read rest, l.sent side.other = read ++ rest ∧
    List.Forall₂ Answers (l.taken side) read ∧
    (s.get side).queue = bif l.closed side then [] else rest
  messages : ∀ side, ∀ d ∈ l.sent side, d ≠ [] ∧ d.length < Socket.messageLimit
  reset : ∀ side, l.closed side = false → ((s.get side).reset = true ↔
    l.unaware side = true ∧ (l.taken side.other).length < (l.sent side).length)
  unaware : ∀ side, l.unaware side = true → l.closed side.other = true

@[simp] theorem Socket.get_set_of_other (s : Socket) (side : Side) (e : Endpoint) :
    (s.set side.other e).get side = s.get side := by
  cases side <;> rfl

namespace Balanced

variable {l : Ledger} {s : Socket} {side : Side} {d : Bytes} {p : Entry}

theorem start : Balanced {} {} where
  holders side := by cases side <;> rfl
  queue side := ⟨[], [], rfl, .nil, by cases side <;> rfl⟩
  messages _ _ member := by cases member
  reset side _ := by cases side <;> simp [Socket.get]
  unaware _ alone := by cases alone

theorem isOpen (b : Balanced l s) (side : Side) : (s.get side).isOpen = !l.closed side := by
  rw [Endpoint.isOpen, b.holders side]
  cases l.closed side <;> rfl

theorem call (b : Balanced l s) (side : Side) :
    Balanced (l.call side) (s.set side { s.get side with reset := false }) where
  holders x := by
    rcases Side.eq_or_eq_other x side with rfl | rfl <;> simpa using b.holders _
  queue x := by
    rcases Side.eq_or_eq_other x side with rfl | rfl
    · simpa using b.queue x
    · simpa using b.queue side.other
  messages := b.messages
  reset x opened := by
    rcases Side.eq_or_eq_other x side with rfl | rfl
    · simp
    · simpa using b.reset _ opened
  unaware x alone := by
    rcases Side.eq_or_eq_other x side with rfl | rfl
    · simp at alone
    · exact b.unaware _ (by simpa using alone)

theorem called (b : Balanced l s) (calm : l.closed side = true ∨ (s.get side).reset = false) :
    Balanced (l.call side) s where
  holders := b.holders
  queue := b.queue
  messages := b.messages
  reset x opened := by
    rcases Side.eq_or_eq_other x side with rfl | rfl
    · rcases calm with closed | calm
      · cases opened.symm.trans closed
      · simp [calm]
    · simpa using b.reset _ opened
  unaware := (b.call side).unaware

theorem send (b : Balanced l s) (message : d ≠ [] ∧ d.length < Socket.messageLimit)
    (aware : l.unaware side = false) (peer : l.closed side.other = false) :
    Balanced (l.send side d) (s.set side.other
      { s.get side.other with queue := (s.get side.other).queue ++ [d] }) where
  holders x := by
    rcases Side.eq_or_eq_other x side with rfl | rfl <;> simpa using b.holders _
  queue x := by
    obtain ⟨read, rest, sent, taken, queued⟩ := b.queue x
    rcases Side.eq_or_eq_other x side with rfl | rfl
    · exact ⟨read, rest, by simpa using sent, taken, by simpa using queued⟩
    · rw [Side.other_other] at sent
      refine ⟨read, rest ++ [d], ?_, taken, ?_⟩
      · rw [Side.other_other, Ledger.send_sent, sent, List.append_assoc]
      · rw [Socket.get_set, queued, Ledger.send_closed, peer]
        rfl
  messages x e member := by
    rcases Side.eq_or_eq_other x side with rfl | rfl
    · rw [Ledger.send_sent, List.mem_append, List.mem_singleton] at member
      rcases member with before | rfl
      · exact b.messages _ e before
      · exact message
    · rw [Ledger.send_sent_other] at member
      exact b.messages _ e member
  reset x opened := by
    rcases Side.eq_or_eq_other x side with rfl | rfl
    · have calm := b.reset x opened
      simpa [aware] using calm
    · simpa using b.reset _ opened
  unaware := b.unaware

theorem take (b : Balanced l s) {rest : List Bytes} (opened : l.closed side = false)
    (queued : (s.get side).queue = d :: rest) (answers : Answers p d) :
    Balanced (l.take side p) (s.set side { s.get side with queue := rest }) where
  holders x := by
    rcases Side.eq_or_eq_other x side with rfl | rfl <;> simpa using b.holders _
  queue x := by
    obtain ⟨read, left, sent, taken, waits⟩ := b.queue x
    rcases Side.eq_or_eq_other x side with rfl | rfl
    · obtain rfl : d :: rest = left := by rw [← queued, waits, opened]; rfl
      refine ⟨read ++ [d], rest, ?_, ?_, ?_⟩
      · rw [Ledger.take_sent, sent, List.append_assoc]
        rfl
      · rw [Ledger.take_taken]
        exact List.rel_append taken (.cons answers .nil)
      · rw [Socket.get_set, Ledger.take_closed, opened]
        rfl
    · exact ⟨read, left, sent, by simpa using taken, by simpa using waits⟩
  messages := b.messages
  reset x there := by
    rcases Side.eq_or_eq_other x side with rfl | rfl
    · simpa using b.reset _ there
    · have aware : l.unaware side.other = false := by
        apply Bool.eq_false_iff.mpr
        intro alone
        have closed := b.unaware _ alone
        rw [Side.other_other, opened] at closed
        cases closed
      have calm := b.reset _ there
      simpa [aware] using calm
  unaware := b.unaware

/-- A side that closes its end leaves a reset behind if it leaves datagrams unread. -/
theorem close (b : Balanced l s) (opened : l.closed side = false) :
    Balanced (l.close side) (s.release side) where
  holders x := by
    have held := b.holders x
    rw [Socket.holders_release]
    rcases Side.eq_or_eq_other x side with rfl | rfl
    · simp [held, opened]
    · simpa [Side.other_ne] using held
  queue x := by
    obtain ⟨read, rest, sent, taken, waits⟩ := b.queue x
    rcases Side.eq_or_eq_other x side with rfl | rfl
    · have last : (s.get x).holders ≤ 1 := by rw [b.holders x, opened]; decide
      refine ⟨read, rest, sent, taken, ?_⟩
      rw [Socket.queue_release, if_pos last, Ledger.close_closed]
      rfl
    · exact ⟨read, rest, sent, taken, by simpa using waits⟩
  messages := b.messages
  reset x there := by
    rcases Side.eq_or_eq_other x side with rfl | rfl
    · simp at there
    · rw [Ledger.close_closed_other] at there
      have last : (s.get side).holders ≤ 1 := by rw [b.holders side, opened]; decide
      obtain ⟨read, rest, sent, taken, waits⟩ := b.queue side
      have calm : (s.get side.other).reset = false := by
        apply Bool.eq_false_iff.mpr
        intro lost
        have closed := b.unaware _ ((b.reset _ there).mp lost).1
        rw [Side.other_other, opened] at closed
        cases closed
      have unread : (l.taken side).length < (l.sent side.other).length ↔ rest ≠ [] := by
        rw [sent, List.length_append, taken.length_eq, ← List.length_pos_iff]
        omega
      rw [Socket.get_release_other]
      simp only [opened] at waits
      by_cases some : rest = [] <;> simp [last, waits, some, calm, unread]
  unaware x alone := by
    rcases Side.eq_or_eq_other x side with rfl | rfl
    · exact (Ledger.close_closed_other).trans (b.unaware _ (by simpa using alone))
    · simp

/-! ### Every call -/

theorem deliver (b : Balanced l s) {k : Socket} {result : Except Error Unit}
    (message : d ≠ [] ∧ d.length < Socket.messageLimit)
    (sent : s.deliver side d = (result, k)) :
    Balanced (if result = .ok () then (l.call side).send side d else l.call side) k := by
  rcases result with e | ⟨⟩
  · obtain ⟨-, rfl, -⟩ := Socket.deliver_error sent
    exact b.call side
  · obtain ⟨calm, peer, rfl⟩ := Socket.deliver_ok sent
    rw [b.isOpen, Bool.not_eq_true'] at peer
    exact (b.called (Or.inr calm)).send message Ledger.call_unaware peer

inductive Receives (l : Ledger) (s : Socket) (side : Side) : Received → Socket → Prop where
  | lost (reset : (s.get side).reset = true) :
      Receives l s side .reset (s.set side { s.get side with reset := false })
  | datagram (d : Bytes) (rest : List Bytes) (calm : (s.get side).reset = false)
      (queued : (s.get side).queue = d :: rest) (whole : d.take Socket.messageLimit = d)
      (filled : d ≠ []) :
      Receives l s side (.datagram d) (s.set side { s.get side with queue := rest })
  | ended (calm : (s.get side).reset = false) (empty : (s.get side).queue = [])
      (gone : l.closed side.other = true) : Receives l s side .ended s
  | nothing (calm : (s.get side).reset = false) (empty : (s.get side).queue = [])
      (there : l.closed side.other = false) : Receives l s side .nothing s

theorem message_of_queued (b : Balanced l s) (waits : d ∈ (s.get side).queue) :
    d ≠ [] ∧ d.length < Socket.messageLimit := by
  obtain ⟨read, rest, sent, -, queued⟩ := b.queue side
  rw [queued] at waits
  cases closed : l.closed side <;> rw [closed] at waits
  · exact b.messages _ d (sent ▸ List.mem_append_right _ waits)
  · cases waits

theorem receives (b : Balanced l s) (side : Side) :
    Receives l s side (s.receive side Socket.messageLimit).1
      (s.receive side Socket.messageLimit).2 := by
  cases calm : (s.get side).reset with
  | true =>
    rw [Socket.receive_of_reset calm]
    exact .lost calm
  | false =>
    cases queued : (s.get side).queue with
    | cons d rest =>
      obtain ⟨filled, short⟩ := b.message_of_queued (queued ▸ List.mem_cons_self)
      have whole := List.take_of_length_le (Nat.le_of_lt short)
      rw [Socket.receive_of_cons calm queued]
      dsimp only
      rw [whole]
      exact .datagram d rest calm queued whole filled
    | nil =>
      rw [Socket.receive_of_nil calm queued, b.isOpen]
      cases gone : l.closed side.other
      · exact .nothing calm queued gone
      · exact .ended calm queued gone

theorem enter_of_receives {a : Answer} (waits : op.receives = true) :
    l.enter (op, a) =
      let k := if a.took then (l.call op.side).take op.side (op, a) else l.call op.side
      if op.closes && a.carriedOut then k.close op.side else k := by
  cases op with
  | await | awaitReport => rfl
  | _ => cases waits

theorem close_if (b : Balanced l s) (opened : l.closed side = false) (c : Bool) :
    Balanced (if c then l.close side else l) (if c then s.release side else s) := by
  cases c
  · exact b
  · exact b.close opened

theorem perform_receives (b : Balanced l s) (opened : l.closed op.side = false)
    (waits : op.receives = true) :
    Balanced (l.enter (op, (perform s op).1)) (perform s op).2 := by
  rw [perform_of_receives s waits, enter_of_receives waits]
  have took (d : Bytes) := took_verdict (d := d) waits
  have done (d : Bytes) := carriedOut_verdict d waits
  have got := b.receives op.side
  revert got
  generalize (s.receive op.side Socket.messageLimit).1 = received
  generalize (s.receive op.side Socket.messageLimit).2 = k
  intro got
  cases got with
  | lost reset =>
    have refused : (op.verdict []).took = false := by simpa using took []
    simp only [Received.bytes?, refused, done, Bool.and_true]
    exact (b.call op.side).close_if opened op.closes
  | datagram d rest calm queued whole filled =>
    simp only [Received.bytes?, (took d).mpr filled, done, Bool.and_true]
    have answers : Answers (op, op.verdict d) d := rfl
    exact ((b.called (Or.inr calm)).take opened queued answers).close_if opened op.closes
  | ended calm empty gone =>
    have refused : (op.verdict []).took = false := by simpa using took []
    simp only [Received.bytes?, refused, done, Bool.and_true]
    exact (b.called (Or.inr calm)).close_if opened op.closes
  | nothing calm empty there =>
    simp only [Received.bytes?, Answer.took, Answer.carriedOut, Bool.and_false]
    exact b.called (Or.inr calm)

theorem encode_message (m : Handshake) :
    m.encode ≠ [] ∧ m.encode.length < Socket.messageLimit := by
  cases m <;> decide

theorem encode_report (o : Outcome) : o.encode ≠ [] ∧ o.encode.length < Socket.messageLimit := by
  refine ⟨by cases o <;> exact List.cons_ne_nil _ _, ?_⟩
  rw [Socket.length_encode_outcome]
  decide

theorem step (b : Balanced l s) (typed : op.isTyped = true) :
    Balanced (l.enter (op, (Channel.step s op).1)) (Channel.step s op).2 := by
  unfold Channel.step
  cases opened : l.closed op.side with
  | true =>
    rw [b.isOpen, opened]
    rw [Bool.not_true, if_neg Bool.false_ne_true, Ledger.enter_of_refused]
    exact b.called (Or.inl opened)
  | false =>
    rw [b.isOpen, opened, Bool.not_false, if_pos rfl]
    cases op with
    | signal side m =>
      rcases sent : s.deliver side m.encode with ⟨result, k⟩
      have after := b.deliver (encode_message m) sent
      simp only [perform, Socket.signal, sent]
      cases result with
      | error e => exact after
      | ok => exact after
    | report o =>
      rcases sent : s.deliver .child o.encode with ⟨result, k⟩
      have after := b.deliver (encode_report o) sent
      simp only [perform, Socket.report, sent]
      cases result with
      | error e => exact after.close opened
      | ok => exact after.close opened
    | close side =>
      have same : (l.close side).call side = (l.call side).close side := by
        simp only [Ledger.call, Ledger.close, Function.update_comm (Side.other_ne side)]
      show Balanced ((l.call side).close side) (s.release side)
      rw [← same]
      exact (b.close opened).called (Or.inl Ledger.close_closed)
    | await | awaitReport => exact b.perform_receives opened rfl
    | send | receive => cases typed

end Balanced

theorem balanced (typed : ∀ op ∈ ops, op.isTyped = true) : Balanced (ledger ops) (after ops) := by
  induction ops using List.reverseRecOn with
  | nil => exact .start
  | append_singleton ops op ih =>
    rw [ledger_concat, after_concat]
    exact (ih fun x member => typed x (List.mem_append_left _ member)).step
      (typed op (by simp))

/-! ### What the books say of an answer -/

namespace Balanced

variable {l : Ledger} {s : Socket}

/-- What the k-th call has taken is the k-th datagram that was sent. -/
theorem datagram_of_taken (b : Balanced l s) {side : Side} {k : Nat} {p : Entry}
    (entry : (l.taken side)[k]? = some p) :
    ∃ d, (l.sent side.other)[k]? = some d ∧ Answers p d := by
  obtain ⟨read, rest, sent, taken, -⟩ := b.queue side
  obtain ⟨within, rfl⟩ := List.getElem?_eq_some_iff.mp entry
  have reads : k < read.length := taken.length_eq ▸ within
  refine ⟨read[k], ?_, taken.get within reads⟩
  rw [sent, List.getElem?_append_left reads, List.getElem?_eq_getElem reads]

theorem queued (b : Balanced l s) (side : Side) :
    (s.get side).queue = bif l.closed side then [] else l.unread side := by
  obtain ⟨read, rest, sent, taken, queued⟩ := b.queue side
  rw [queued, Ledger.unread, sent, taken.length_eq, List.drop_left]

theorem lost (b : Balanced l s) {side : Side} (opened : l.closed side = false) :
    (s.get side).reset = l.cutOff side := by
  rw [Bool.eq_iff_iff, b.reset side opened, Ledger.cutOff, Ledger.unread, Side.other_other]
  simp

theorem cutOff_closed (b : Balanced l s) {side : Side} (lost : l.cutOff side = true) :
    l.closed side.other = true :=
  b.unaware side (Bool.and_eq_true_iff.mp lost).1

end Balanced

/-- A call that waits is answered by the first datagram that it has not taken. It is told that
the channel is closed when there is none and none can come, or when it is cut off. -/
theorem answer_of_receives (typed : ∀ op ∈ ops, op.isTyped = true)
    (opened : (ledger ops).closed op.side = false) (waits : op.receives = true) :
    answer ops op =
      if (ledger ops).cutOff op.side then op.verdict []
      else match (ledger ops).unread op.side with
        | d :: _ => op.verdict d
        | [] => if (ledger ops).closed op.side.other then op.verdict [] else .wouldBlock := by
  have b := balanced typed
  have queued := b.queued op.side
  rw [answer, step, b.isOpen, opened, Bool.not_false, if_pos rfl, perform_of_receives _ waits,
    ← b.lost opened]
  rw [opened, cond_false] at queued
  have got := b.receives op.side
  revert got
  generalize (Socket.receive _ op.side Socket.messageLimit).1 = received
  generalize (Socket.receive _ op.side Socket.messageLimit).2 = k
  intro got
  cases got with
  | lost reset => simp [reset, Received.bytes?]
  | datagram d rest calm waiting => simp [calm, ← queued, waiting, Received.bytes?]
  | ended calm empty gone => simp [calm, ← queued, empty, gone, Received.bytes?]
  | nothing calm empty there => simp [calm, ← queued, empty, there, Received.bytes?]

/-- A call that sends fails when the other side has closed its end, and then only. -/
theorem answer_of_sends (typed : ∀ op ∈ ops, op.isTyped = true)
    (opened : (ledger ops).closed op.side = false) (sends : op.datagram?.isSome = true) :
    answer ops op =
      if (ledger ops).closed op.side.other then .failed .channelClosed else .done := by
  have b := balanced typed
  obtain ⟨d, sends⟩ := Option.isSome_iff_exists.mp sends
  rw [answer, step, b.isOpen, opened, Bool.not_false, if_pos rfl, perform_of_datagram _ sends]
  rcases sent : (after ops).deliver op.side d with ⟨e | ⟨⟩, k⟩
  · obtain ⟨rfl, -, lost | gone⟩ := Socket.deliver_error sent
    · rw [b.lost opened] at lost
      rw [if_pos (b.cutOff_closed lost)]
      rfl
    · rw [b.isOpen, Bool.not_eq_false'] at gone
      rw [if_pos gone]
      rfl
  · obtain ⟨-, peer, -⟩ := Socket.deliver_ok sent
    rw [b.isOpen, Bool.not_eq_true'] at peer
    rw [peer]
    rfl

/-! ### One more call -/

variable {side : Side}

theorem typed_concat (typed : ∀ op ∈ ops, op.isTyped = true) (last : op.isTyped = true) :
    ∀ x ∈ ops ++ [op], x.isTyped = true := by
  simpa [or_imp, forall_and] using ⟨typed, last⟩

theorem closed_concat (kept : op.closes = false) (side : Side) :
    (ledger (ops ++ [op])).closed side = (ledger ops).closed side := by
  rw [ledger_concat, Ledger.closed_enter, Entry.closes, kept, Bool.and_false, Bool.false_and,
    Bool.or_false]

/-- What waits for a side is not empty, so that it is not taken for the end of the channel. -/
theorem filled_of_unread (typed : ∀ op ∈ ops, op.isTyped = true) {d : Bytes}
    (waiting : d ∈ (ledger ops).unread side) : d ≠ [] :=
  ((balanced typed).messages _ d (List.mem_of_mem_drop waiting)).1

theorem closed_concat_of_closed (closed : (ledger ops).closed side = true) (op : Operation) :
    (ledger (ops ++ [op])).closed side = true := by
  rw [ledger_concat, Ledger.closed_enter, closed, Bool.true_or]

theorem unread_concat (ops : List Operation) (op : Operation) :
    (ledger (ops ++ [op])).unread op.side =
      if op.receives && (answer ops op).took then ((ledger ops).unread op.side).tail
      else (ledger ops).unread op.side := by
  have sends : Entry.sends op.side.other (op, answer ops op) = [] :=
    if_neg fun same => Side.other_ne _ same.1.symm
  have takes : Entry.takes op.side (op, answer ops op) = (op.receives && (answer ops op).took) := by
    simp [Entry.takes]
  rw [Ledger.unread, ledger_concat, Ledger.sent_enter, Ledger.taken_enter, sends, takes,
    List.append_nil]
  split
  · rw [Ledger.unread, List.tail_drop, List.length_append, List.length_singleton]
  · rw [List.append_nil, Ledger.unread]

theorem cutOff_concat (ops : List Operation) (op : Operation) :
    (ledger (ops ++ [op])).cutOff op.side = false := by
  rw [ledger_concat, Ledger.cutOff, Ledger.unaware_enter, Bool.false_and]

theorem answer_of_closed (typed : ∀ op ∈ ops, op.isTyped = true)
    (closed : (ledger ops).closed op.side = true) : answer ops op = .ownEndClosed := by
  rw [answer, step, (balanced typed).isOpen, closed]
  rfl

theorem ledger_of_closed (typed : ∀ op ∈ ops, op.isTyped = true)
    (closed : (ledger ops).closed op.side = true) :
    ledger (ops ++ [op]) = (ledger ops).call op.side := by
  rw [ledger_concat, answer_of_closed typed closed, Ledger.enter_of_refused]

end NamespaceEntry.Channel
