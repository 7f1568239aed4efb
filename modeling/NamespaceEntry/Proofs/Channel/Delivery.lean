import NamespaceEntry.Proofs.Channel.Balance

/-!
# Delivery

Each side receives what the other has sent: every datagram whole, in order and once, whether or
not the call that takes it accepts it. While both ends are open, what goes the other way makes no
difference.
-/

namespace NamespaceEntry.Channel

/-- Whether an operation is about what goes to a side: the side waits for a message, or the other
side sends one. -/
def Operation.toward (side : Side) (op : Operation) : Bool :=
  if op.side = side then op.receives else op.datagram?.isSome

variable {ops : List Operation} {op : Operation} {side : Side}

/-! ### Taking a datagram -/

theorem unread_of_took (typed : ∀ op ∈ ops, op.isTyped = true)
    (opened : (ledger ops).closed op.side = false) (waits : op.receives = true)
    (took : (answer ops op).took = true) :
    ∃ d rest, (ledger ops).unread op.side = d :: rest ∧ answer ops op = op.verdict d := by
  have nothing : (op.verdict []).took = false := by simpa using took_verdict (d := []) waits
  rw [answer_of_receives typed opened waits] at took ⊢
  cases lost : (ledger ops).cutOff op.side with
  | true =>
    rw [if_pos lost, nothing] at took
    cases took
  | false =>
    rw [if_neg (by simp [lost])] at took ⊢
    cases waiting : (ledger ops).unread op.side with
    | cons d rest => exact ⟨d, rest, rfl, rfl⟩
    | nil =>
      simp only [waiting] at took
      split at took
      · rw [nothing] at took
        cases took
      · cases took

theorem isOpen_of_carriedOut (done : (answer ops op).carriedOut = true) :
    ((after ops).get op.side).isOpen = true := by
  apply Bool.of_not_eq_false
  intro closed
  rw [answer, step, closed] at done
  cases done

theorem gone_of_saysClosed (typed : ∀ op ∈ ops, op.isTyped = true)
    (opened : (ledger ops).closed op.side = false) (waits : op.receives = true)
    (told : (answer ops op).saysClosed = true) : (ledger ops).closed op.side.other = true := by
  rw [answer_of_receives typed opened waits] at told
  split at told
  case isTrue lost => exact (balanced typed).cutOff_closed lost
  case isFalse =>
    split at told
    case h_1 d _ waiting =>
      have filled := filled_of_unread typed (waiting ▸ List.mem_cons_self)
      exact absurd ((saysClosed_verdict waits).mp told) filled
    case h_2 =>
      split at told
      case isTrue gone => exact gone
      case isFalse => cases told

/-! ### Two ways that do not meet -/

namespace Entry

variable (h : List Entry)

theorem toward_of_sends {p : Entry} (sends : p.sends side.other ≠ []) :
    p.1.toward side = true := by
  unfold Entry.sends at sends
  split at sends
  case isTrue own =>
    rw [Operation.toward, own.1, if_neg (Side.other_ne side)]
    cases datagram : p.1.datagram? with
    | none => exact absurd (by rw [datagram]; rfl) sends
    | some => rfl
  case isFalse => exact absurd rfl sends

theorem toward_of_takes {p : Entry} (takes : p.takes side = true) : p.1.toward side = true := by
  simp only [Entry.takes, Bool.and_eq_true, decide_eq_true_eq] at takes
  rw [Operation.toward, if_pos takes.1.1, takes.1.2]

theorem sends_toward :
    (h.filter (·.1.toward side)).flatMap (sends side.other) = h.flatMap (sends side.other) := by
  induction h with
  | nil => rfl
  | cons p h ih =>
    rw [List.filter_cons, List.flatMap_cons]
    split
    case isTrue => rw [List.flatMap_cons, ih]
    case isFalse away =>
      have none : p.sends side.other = [] := not_not.mp fun sends => away (toward_of_sends sends)
      rw [none, ih, List.nil_append]

theorem takes_toward :
    (h.filter (·.1.toward side)).filter (takes side) = h.filter (takes side) := by
  rw [List.filter_filter]
  apply List.filter_congr
  intro p _
  cases takes : p.takes side with
  | false => rfl
  | true => rw [toward_of_takes takes]; rfl

end Entry

/-- While both ends are open, a call is answered by what has gone its own way. -/
theorem answer_of_open (typed : ∀ op ∈ ops, op.isTyped = true)
    (both : ∀ x, (ledger ops).closed x = false) (toward : op.toward side = true) :
    answer ops op =
      if op.side = side then
        match (ledger ops).unread side with
        | d :: _ => op.verdict d
        | [] => .wouldBlock
      else .done := by
  unfold Operation.toward at toward
  split at toward
  case isTrue own =>
    subst own
    have calm : (ledger ops).cutOff op.side ≠ true := by
      intro lost
      have gone := (balanced typed).cutOff_closed lost
      rw [both] at gone
      cases gone
    rw [answer_of_receives typed (both _) toward, if_neg calm, both, if_pos rfl]
    rfl
  case isFalse other =>
    rw [answer_of_sends typed (both _) toward, both, if_neg other]
    rfl

/-- What a side takes and what is sent to it is the same without what goes the other way. -/
theorem answer_filter (typed : ∀ op ∈ ops, op.isTyped = true)
    (both : ∀ x, (ledger ops).closed x = false) (toward : op.toward side = true)
    (apart : history (ops.filter (·.toward side)) = (history ops).filter (·.1.toward side)) :
    answer (ops.filter (·.toward side)) op = answer ops op := by
  have same : (ledger (ops.filter (·.toward side))).unread side = (ledger ops).unread side := by
    simp only [Ledger.unread, sent_ledger, taken_ledger, apart, Entry.sends_toward,
      Entry.takes_toward]
  have still : ∀ x, (ledger (ops.filter (·.toward side))).closed x = false := by
    intro x
    have opened := both x
    rw [closed_ledger, List.any_eq_false] at opened ⊢
    rw [apart]
    exact fun p member => opened p (List.mem_filter.mp member).1
  have kept : ∀ x ∈ ops.filter (·.toward side), x.isTyped = true :=
    fun x member => typed x (List.mem_filter.mp member).1
  rw [answer_of_open kept still toward, answer_of_open typed both toward, same]

theorem history_filter (typed : ∀ op ∈ ops, op.isTyped = true)
    (both : ∀ x, (ledger ops).closed x = false) :
    history (ops.filter (·.toward side)) = (history ops).filter (·.1.toward side) := by
  induction ops using List.reverseRecOn with
  | nil => rfl
  | append_singleton ops op ih =>
    have before : ∀ x, (ledger ops).closed x = false := by
      intro x
      have opened := both x
      rw [ledger_concat, Ledger.closed_enter, Bool.or_eq_false_iff] at opened
      exact opened.1
    have typed' : ∀ x ∈ ops, x.isTyped = true :=
      fun x member => typed x (List.mem_append_left _ member)
    have apart := ih typed' before
    rw [List.filter_append, history_concat, List.filter_append, List.filter_singleton,
      List.filter_singleton]
    cases toward : op.toward side with
    | false => simpa using apart
    | true =>
      simp only [cond_true]
      rw [history_concat, answer_filter typed' before toward apart, apart]

/-! ### Queues -/

theorem isOpen_iff_closed (typed : ∀ op ∈ ops, op.isTyped = true) :
    ((after ops).get side).isOpen = true ↔ (ledger ops).closed side = false := by
  rw [(balanced typed).isOpen, Bool.not_eq_true']

theorem queue_of_open (typed : ∀ op ∈ ops, op.isTyped = true)
    (opened : (ledger ops).closed side = false) :
    ((after ops).get side).queue = (ledger ops).unread side := by
  rw [(balanced typed).queued, opened, cond_false]

theorem taken_of_took (typed : ∀ op ∈ ops, op.isTyped = true) (waits : op.receives = true)
    (took : (answer ops op).took = true) : ∃ d rest,
      ((after ops).get op.side).queue = d :: rest ∧ answer ops op = op.verdict d ∧
        (op.closes = false → ((after (ops ++ [op])).get op.side).queue = rest) ∧
        ∀ m, op = .await op.side m → d ≠ m.encode →
          ∃ fault, answer ops op = .failed (.protocol fault) := by
  have opened := (isOpen_iff_closed typed).mp
    (isOpen_of_carriedOut (Answer.carriedOut_of_took took))
  have typed' := typed_concat typed (Operation.isTyped_of_receives waits)
  obtain ⟨d, rest, first, answer⟩ := unread_of_took typed opened waits took
  refine ⟨d, rest, (queue_of_open typed opened).trans first, answer, ?_, ?_⟩
  · intro kept
    rw [queue_of_open typed' ((closed_concat kept _).trans opened), unread_concat, waits, took,
      first]
    rfl
  · intro m awaits other
    have filled := filled_of_unread typed (first ▸ List.mem_cons_self)
    obtain ⟨fault, refused⟩ := Handshake.accept_of_other filled other
    exact ⟨fault, by rw [answer, awaits, Operation.verdict, refused]; rfl⟩

theorem took_of_queued (typed : ∀ op ∈ ops, op.isTyped = true)
    (both : ∀ x, (ledger ops).closed x = false) (waits : op.receives = true)
    (some : (ledger ops).unread op.side ≠ []) : (answer ops op).took = true := by
  have toward : op.toward op.side = true := by rw [Operation.toward, if_pos rfl, waits]
  rw [answer_of_open typed both toward, if_pos rfl]
  cases waiting : (ledger ops).unread op.side with
  | nil => exact absurd waiting some
  | cons d rest =>
    exact (took_verdict waits).mpr (filled_of_unread typed (waiting ▸ List.mem_cons_self))

/-! ### Every side, every call -/

structure Delivers (ops : List Operation) : Prop where
  /-- The k-th call that takes a datagram is answered by the k-th datagram that the other side has
  sent, whole. -/
  order : ∀ side (k : Nat) p, ((ledger ops).taken side)[k]? = some p →
    ∃ d, ((ledger ops).sent side.other)[k]? = some d ∧ p.2 = p.1.verdict d
  /-- What has been sent to an open end and not been taken from it waits there, and nothing
  else. -/
  waiting : ∀ side, ((after ops).get side).isOpen = true →
    ((after ops).get side).queue =
      ((ledger ops).sent side.other).drop ((ledger ops).taken side).length
  /-- A call takes the datagram that waits first and leaves the others. It is taken also when it
  is not the message that was waited for, which is a breach of the protocol. -/
  taken : ∀ op, op.receives = true → (answer ops op).took = true → ∃ d rest,
    ((after ops).get op.side).queue = d :: rest ∧ answer ops op = op.verdict d ∧
      (op.closes = false → ((after (ops ++ [op])).get op.side).queue = rest) ∧
      ∀ m, op = .await op.side m → d ≠ m.encode →
        ∃ fault, answer ops op = .failed (.protocol fault)
  /-- While both ends are open, a datagram that waits is taken. -/
  ready : (∀ x, ((after ops).get x).isOpen = true) → ∀ op, op.receives = true →
    ((after ops).get op.side).queue ≠ [] → (answer ops op).took = true
  /-- While both ends are open, a side receives the same if nothing goes the other way. -/
  apart : (∀ x, ((after ops).get x).isOpen = true) → ∀ side op, op.isTyped = true →
    op.toward side = true →
      history (ops.filter (·.toward side) ++ [op]) =
        (history (ops ++ [op])).filter (·.1.toward side)
  /-- A call that waits is told that the channel is closed only if the other end is. -/
  closed : ∀ op, op.receives = true → (answer ops op).saysClosed = true →
    ((after ops).get op.side.other).isOpen = false
  /-- A datagram is sent unless the other end is closed. -/
  sent : ∀ op, op.datagram?.isSome = true → ((after ops).get op.side).isOpen = true →
    answer ops op =
      if ((after ops).get op.side.other).isOpen then .done else .failed .channelClosed

/-- For any calls of both sides, in any order. -/
theorem delivered_in_order (ops : List Operation) (typed : ∀ op ∈ ops, op.isTyped = true) :
    Delivers ops := by
  have b := balanced typed
  have stands (x : Side) : ((after ops).get x).isOpen = true ↔ (ledger ops).closed x = false :=
    isOpen_iff_closed typed
  exact
    { order := fun side k p entry => b.datagram_of_taken entry
      waiting := fun side opened => queue_of_open typed ((stands side).mp opened)
      taken := fun op waits took => taken_of_took typed waits took
      ready := by
        intro both op waits some
        rw [queue_of_open typed ((stands _).mp (both _))] at some
        exact took_of_queued typed (fun x => (stands x).mp (both x)) waits some
      apart := by
        intro both side op last toward
        have closed x := (stands x).mp (both x)
        have apart : history (ops.filter (·.toward side)) = (history ops).filter (·.1.toward side) :=
          history_filter typed closed
        rw [history_concat, history_concat, List.filter_append, List.filter_singleton, toward,
          answer_filter typed closed toward apart, apart]
        rfl
      closed := by
        intro op waits told
        have opened := isOpen_of_carriedOut (Answer.carriedOut_of_saysClosed told)
        rw [b.isOpen, gone_of_saysClosed typed ((stands _).mp opened) waits told]
        rfl
      sent := by
        intro op sends opened
        rw [answer_of_sends typed ((stands _).mp opened) sends, b.isOpen]
        cases (ledger ops).closed op.side.other <;> rfl }

/-- A message that is refused is gone from the queue, the report behind it arrives, and the wait
of the child is not touched by either. -/
theorem delivered_in_order_refused :
    let ops := [.signal .child .ready, .signal .parent .go, .await .parent .go, .await .child .go,
      .report (.exited 3), .signal .parent .go, .awaitReport]
    (∀ op ∈ ops, op.isTyped = true) ∧
      (run {} ops).1 = [.done, .done, .failed (.protocol (.unexpected .go .ready)), .done, .done,
        .failed .channelClosed, .report (some (.exited 3))] ∧
      Delivers ops :=
  ⟨by decide, rfl, delivered_in_order _ (by decide)⟩

end NamespaceEntry.Channel
