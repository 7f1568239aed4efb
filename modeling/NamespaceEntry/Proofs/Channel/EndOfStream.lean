import NamespaceEntry.Proofs.Channel.Balance

/-!
# The end of a stream

A side whose partner has closed its end still takes all that was sent to it, and is then told
that the channel is closed, for good. The exception is a side that the partner left with
datagrams unread: its next call is told so at once, and what waits for it comes behind, or is
lost with a call that closes the end.
-/

namespace NamespaceEntry.Channel

def Entry.hears (side : Side) (p : Entry) : Bool :=
  p.1.side = side && p.1.receives && p.2 != .ownEndClosed

/-- What the calls of a side that wait for messages come to in operations that follow others. -/
def heard (side : Side) (ops later : List Operation) : List Entry :=
  (later.zip (run (after ops) later).1).filter (Entry.hears side)

variable {ops later : List Operation} {op : Operation} {side : Side}

theorem heard_cons (side : Side) (ops later : List Operation) (op : Operation) :
    heard side ops (op :: later) =
      if Entry.hears side (op, answer ops op) then
        (op, answer ops op) :: heard side (ops ++ [op]) later
      else heard side (ops ++ [op]) later := by
  rw [heard, heard, after_concat]
  exact List.filter_cons

/-- Once the other end is closed no call that waits blocks. -/
theorem hears_iff (typed : ∀ op ∈ ops, op.isTyped = true)
    (gone : (ledger ops).closed op.side.other = true) :
    Entry.hears op.side (op, answer ops op) = true ↔
      (ledger ops).closed op.side = false ∧ op.receives = true := by
  cases closed : (ledger ops).closed op.side with
  | true => simp [Entry.hears, answer_of_closed typed closed]
  | false =>
    simp only [Entry.hears, decide_true, Bool.true_and, Bool.and_eq_true, bne_iff_ne, true_and,
      and_iff_left_iff_imp]
    intro waits refused
    have done : (answer ops op).carriedOut = true := by
      rw [answer_of_receives typed closed waits, gone]
      split
      · exact carriedOut_verdict _ waits
      · split <;> exact carriedOut_verdict _ waits
    rw [refused] at done
    cases done

theorem heard_singleton (typed : ∀ op ∈ ops, op.isTyped = true)
    (gone : (ledger ops).closed op.side.other = true)
    (opened : (ledger ops).closed op.side = false) (waits : op.receives = true) :
    heard op.side ops [op] = [(op, answer ops op)] := by
  rw [heard_cons, if_pos ((hears_iff typed gone).mpr ⟨opened, waits⟩)]
  rfl

/-! ### A side that is not cut off -/

/-- A side is left with datagrams, and nothing is to come before them. -/
structure Left (side : Side) (rest : List Bytes) (ops : List Operation) : Prop where
  typed : ∀ op ∈ ops, op.isTyped = true
  gone : (ledger ops).closed side.other = true
  unread : (ledger ops).unread side = rest
  calm : (ledger ops).cutOff side = true → rest = []

namespace Left

variable {rest : List Bytes}

theorem answer (l : Left op.side rest ops) (opened : (ledger ops).closed op.side = false)
    (waits : op.receives = true) : answer ops op = op.verdict (rest.headD []) := by
  rw [answer_of_receives l.typed opened waits, l.gone, l.unread, if_pos rfl]
  cases lost : (ledger ops).cutOff op.side with
  | true => rw [l.calm lost]; rfl
  | false => cases rest <;> rfl

theorem took (l : Left op.side rest ops) (opened : (ledger ops).closed op.side = false)
    (waits : op.receives = true) : (Channel.answer ops op).took = true ↔ rest ≠ [] := by
  rw [l.answer opened waits, took_verdict waits]
  cases waiting : rest with
  | nil => simp
  | cons d rest =>
    have filled : d ≠ [] := filled_of_unread l.typed (l.unread ▸ waiting ▸ List.mem_cons_self)
    simpa using filled

/-- Each call that waits takes one datagram, while there are some. -/
theorem step_own (l : Left op.side rest ops) (typed : op.isTyped = true) :
    Left op.side (if Entry.hears op.side (op, Channel.answer ops op) then rest.tail else rest)
      (ops ++ [op]) where
  typed := typed_concat l.typed typed
  gone := closed_concat_of_closed l.gone op
  unread := by
    cases closed : (ledger ops).closed op.side with
    | true =>
      have hears := mt (hears_iff l.typed l.gone).mp fun h =>
        Bool.false_ne_true (h.1.symm.trans closed)
      rw [if_neg hears, ← l.unread, ledger_of_closed l.typed closed]
      rfl
    | false =>
      rw [unread_concat, l.unread]
      cases waits : op.receives with
      | false =>
        have hears := mt (hears_iff l.typed l.gone).mp fun h =>
          Bool.false_ne_true (waits.symm.trans h.2)
        rw [if_neg hears]
        rfl
      | true =>
        rw [if_pos ((hears_iff l.typed l.gone).mpr ⟨closed, waits⟩)]
        split
        case isTrue => rfl
        case isFalse missed =>
          have empty : rest = [] := by simpa [l.took closed waits] using missed
          rw [empty]
          rfl
  calm lost := absurd ((cutOff_concat ops op).symm.trans lost) Bool.false_ne_true

theorem step (l : Left side rest ops) (typed : op.isTyped = true) :
    Left side (if Entry.hears side (op, Channel.answer ops op) then rest.tail else rest)
      (ops ++ [op]) := by
  rcases Side.eq_or_eq_other side op.side with rfl | rfl
  · exact l.step_own typed
  · have closed := l.gone
    rw [Side.other_other] at closed
    have away : Entry.hears op.side.other (op, Channel.answer ops op) ≠ true := by
      simp [Entry.hears, (Side.other_ne op.side).symm]
    have same := ledger_of_closed l.typed closed
    rw [if_neg away]
    exact
      { typed := typed_concat l.typed typed
        gone := closed_concat_of_closed l.gone op
        unread := by rw [same, ← l.unread]; rfl
        calm := fun lost => l.calm (by simpa [same, Ledger.cutOff, Ledger.unread] using lost) }

theorem heard (l : Left side rest ops) (typed : ∀ op ∈ later, op.isTyped = true) {k : Nat}
    {p : Entry} (entry : (heard side ops later)[k]? = some p) :
    p.2 = p.1.verdict (rest[k]?.getD []) := by
  induction later generalizing ops rest k with
  | nil => cases entry
  | cons op later ih =>
    obtain ⟨first, others⟩ := List.forall_mem_cons.mp typed
    have next := l.step first
    rw [heard_cons] at entry
    split at entry
    case isTrue hears =>
      rw [if_pos hears] at next
      cases k with
      | zero =>
        obtain rfl := Option.some.inj entry
        have own : op.side = side := by
          simp only [Entry.hears, Bool.and_eq_true, decide_eq_true_eq] at hears
          exact hears.1.1
        subst own
        obtain ⟨opened, waits⟩ := (hears_iff l.typed l.gone).mp hears
        rw [l.answer opened waits]
        cases rest <;> rfl
      | succ k =>
        rw [ih next others entry, List.getElem?_tail]
    case isFalse hears =>
      rw [if_neg hears] at next
      exact ih next others entry

end Left

/-! ### A side whose partner is gone -/

structure Survives (side : Side) (ops : List Operation) : Prop where
  typed : ∀ op ∈ ops, op.isTyped = true
  opened : (ledger ops).closed side = false
  gone : (ledger ops).closed side.other = true

/-- A wait that is put in to see what a side hears next. -/
def probe (side : Side) : Operation := .await side .ready

theorem isTyped_probe : ∀ op ∈ [probe side], op.isTyped = true := by
  simp [probe, Operation.isTyped]

namespace Survives

theorem filled (v : Survives side ops) {d : Bytes} {rest : List Bytes}
    (waiting : (ledger ops).unread side = d :: rest) : d ≠ [] :=
  filled_of_unread v.typed (waiting ▸ List.mem_cons_self)

theorem left (v : Survives side ops)
    (calm : (ledger ops).cutOff side = true → (ledger ops).unread side = []) :
    Left side ((ledger ops).unread side) ops :=
  ⟨v.typed, v.gone, rfl, calm⟩

theorem told (v : Survives op.side ops) (waits : op.receives = true) :
    (answer ops op).saysClosed = true ↔
      ((ledger ops).cutOff op.side = true ∨ (ledger ops).unread op.side = []) := by
  rw [answer_of_receives v.typed v.opened waits, v.gone]
  cases lost : (ledger ops).cutOff op.side with
  | true => simp [saysClosed_verdict waits]
  | false =>
    cases waiting : (ledger ops).unread op.side with
    | nil => simp [saysClosed_verdict waits]
    | cons d rest => simpa [saysClosed_verdict waits] using v.filled waiting

theorem heard_probe (v : Survives side ops) :
    heard side ops [probe side] = [(probe side, answer ops (probe side))] := by
  have asks : Survives (probe side).side ops := v
  exact heard_singleton asks.typed asks.gone asks.opened rfl

theorem drained (v : Survives side ops) :
    (∀ later : List Operation, (∀ op ∈ later, op.isTyped = true) →
      ∀ (k : Nat) p, (heard side ops later)[k]? = some p →
        p.2 = p.1.verdict (((ledger ops).unread side)[k]?.getD [])) ↔
      ((ledger ops).cutOff side = true → (ledger ops).unread side = []) := by
  constructor
  · intro all lost
    have asks : Survives (probe side).side ops := v
    have closed := (asks.told rfl).mpr (Or.inl lost)
    have first := all [probe side] isTyped_probe 0 (probe side, answer ops (probe side))
      (by rw [v.heard_probe]; rfl)
    apply Classical.byContradiction
    intro some
    obtain ⟨d, rest, waiting⟩ := List.exists_cons_of_ne_nil some
    rw [waiting] at first
    rw [show answer ops (probe side) = (probe side).verdict d from first] at closed
    exact v.filled waiting ((saysClosed_verdict rfl).mp closed)
  · intro calm later others k p entry
    exact (v.left calm).heard others entry

/-- What waits for a side that has been told of the end still comes. -/
theorem left_of_closed (v : Survives op.side ops) (waits : op.receives = true)
    (closed : (answer ops op).saysClosed = true) :
    Left op.side ((ledger ops).unread op.side) (ops ++ [op]) where
  typed := typed_concat v.typed (Operation.isTyped_of_receives waits)
  gone := closed_concat_of_closed v.gone op
  unread := by
    rw [unread_concat, Answer.took_of_saysClosed closed, Bool.and_false]
    rfl
  calm lost := absurd ((cutOff_concat ops op).symm.trans lost) Bool.false_ne_true

theorem final (v : Survives op.side ops) (waits : op.receives = true) (kept : op.closes = false)
    (closed : (answer ops op).saysClosed = true) :
    (∀ later : List Operation, (∀ op ∈ later, op.isTyped = true) →
      ∀ p ∈ heard op.side (ops ++ [op]) later, p.2.took = false) ↔
        (ledger ops).unread op.side = [] := by
  have last := Operation.isTyped_of_receives waits
  constructor
  · intro silent
    apply Classical.byContradiction
    intro some
    have behind : Left (probe op.side).side ((ledger ops).unread op.side) (ops ++ [op]) :=
      v.left_of_closed waits closed
    have still : (ledger (ops ++ [op])).closed op.side = false :=
      (closed_concat kept op.side).trans v.opened
    have next : Survives op.side (ops ++ [op]) := ⟨behind.typed, still, behind.gone⟩
    have refused := silent [probe op.side] isTyped_probe
      (probe op.side, answer (ops ++ [op]) (probe op.side)) (by simp [next.heard_probe])
    exact Bool.false_ne_true (refused.symm.trans ((behind.took still rfl).mpr some))
  · intro empty later others p member
    have nothing := (v.left fun _ => empty).step last
    rw [empty, List.tail_nil, ite_self] at nothing
    obtain ⟨k, entry⟩ := List.getElem?_of_mem member
    have hears := (List.mem_filter.mp member).2
    simp only [Entry.hears, Bool.and_eq_true] at hears
    rw [nothing.heard others entry]
    simpa using took_verdict (d := []) hears.1.2

theorem answer_of_cutOff (v : Survives op.side ops) (lost : (ledger ops).cutOff op.side = true)
    (last : op.isTyped = true) (other : op ≠ .close op.side) :
    answer ops op = if op.receives then op.verdict [] else .failed .channelClosed := by
  cases waits : op.receives with
  | true =>
    rw [answer_of_receives v.typed v.opened waits, if_pos lost]
    rfl
  | false =>
    have sends : op.datagram?.isSome = true := by
      cases op with
      | signal | report => rfl
      | await | awaitReport => cases waits
      | close => exact absurd rfl other
      | send | receive => cases last
    rw [answer_of_sends v.typed v.opened sends, v.gone]
    rfl

theorem unread_of_cutOff (v : Survives op.side ops) (lost : (ledger ops).cutOff op.side = true)
    (last : op.isTyped = true) (other : op ≠ .close op.side) :
    (ledger (ops ++ [op])).unread op.side = (ledger ops).unread op.side := by
  rw [unread_concat, v.answer_of_cutOff lost last other]
  cases waits : op.receives with
  | false => rfl
  | true =>
    have nothing : (op.verdict []).took = false := by simpa using took_verdict (d := []) waits
    simp [nothing]

end Survives

/-! ### Every history -/

structure Drains (side : Side) (ops : List Operation) : Prop where
  /-- Its calls return all that was sent to it, in order, and only then the end of the channel,
  unless it is cut off while datagrams wait for it. -/
  drained :
    (∀ later : List Operation, (∀ op ∈ later, op.isTyped = true) →
      ∀ (k : Nat) p, (heard side ops later)[k]? = some p →
        p.2 = p.1.verdict (((ledger ops).unread side)[k]?.getD [])) ↔
      ((ledger ops).cutOff side = true → (ledger ops).unread side = [])
  /-- It is told of the end when nothing waits for it or it is cut off. -/
  told : ∀ op, op.side = side → op.receives = true →
    ((answer ops op).saysClosed = true ↔
      ((ledger ops).cutOff side = true ∨ (ledger ops).unread side = []))
  /-- A side that has been told of the end hears nothing more, unless datagrams wait for it. -/
  final : ∀ op, op.side = side → op.receives = true → op.closes = false →
    (answer ops op).saysClosed = true →
      ((∀ later : List Operation, (∀ op ∈ later, op.isTyped = true) →
        ∀ p ∈ heard side (ops ++ [op]) later, p.2.took = false) ↔ (ledger ops).unread side = [])
  /-- A side that is cut off loses one call, as if there were nothing more to come. -/
  once : (ledger ops).cutOff side = true → ∀ op, op.side = side → op.isTyped = true →
    op ≠ .close side →
      answer ops op = (if op.receives then op.verdict [] else .failed .channelClosed) ∧
        (ledger (ops ++ [op])).cutOff side = false ∧
        (ledger (ops ++ [op])).unread side = (ledger ops).unread side

/-- What any side hears once its partner is gone, after any calls of both. -/
theorem end_of_stream (typed : ∀ op ∈ ops, op.isTyped = true)
    (own : ((after ops).get side).isOpen = true)
    (peer : ((after ops).get side.other).isOpen = false) : Drains side ops := by
  have b := balanced typed
  have opened : (ledger ops).closed side = false := by rwa [b.isOpen, Bool.not_eq_true'] at own
  have gone : (ledger ops).closed side.other = true := by rwa [b.isOpen, Bool.not_eq_false'] at peer
  have v : Survives side ops := ⟨typed, opened, gone⟩
  exact
    { drained := v.drained
      told := by
        rintro op rfl waits
        exact v.told waits
      final := by
        rintro op rfl waits kept closed
        exact v.final waits kept closed
      once := by
        rintro lost op rfl last other
        exact ⟨v.answer_of_cutOff lost last other, cutOff_concat ops op,
          v.unread_of_cutOff lost last other⟩ }

/-- The child goes with the signal of the parent unread, so the parent is cut off from the signal
of the child. -/
theorem end_of_stream_cut_off :
    let ops := [.signal .parent .go, .signal .child .ready, .close .child]
    (∀ op ∈ ops, op.isTyped = true) ∧ ((after ops).get .parent).isOpen = true ∧
      ((after ops).get .child).isOpen = false ∧ (ledger ops).cutOff .parent = true ∧
      (ledger ops).unread .parent = [Handshake.encode .ready] ∧ Drains .parent ops :=
  ⟨by decide, rfl, rfl, rfl, rfl, end_of_stream (by decide) rfl rfl⟩

/-- A side is told of the end and then takes a message, and a report that was sent is none. -/
theorem message_behind_end :
    (run {} [.signal .parent .go, .signal .child .ready, .close .child, .await .parent .ready,
      .await .parent .ready]).1 = [.done, .done, .done, .failed .channelClosed, .done] ∧
    (run {} [.signal .parent .go, .report (.exited 3), .awaitReport]).1 =
      [.done, .done, .report none] :=
  ⟨rfl, rfl⟩

end NamespaceEntry.Channel
