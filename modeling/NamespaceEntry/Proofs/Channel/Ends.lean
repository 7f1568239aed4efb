import NamespaceEntry.Channel.Message

/-!
# What each call does to the two ends

Holders are counted, queues grow at their tail and shrink at their head, and a reset is
cleared by the call that sees it. Every call of the handshake is decided by the caller's
reset, its queue and whether the other side is open.
-/

namespace NamespaceEntry.Socket

variable {s k : Socket} {side : Side}

@[simp] theorem get_parent (s : Socket) : s.get .parent = s.parent := rfl

@[simp] theorem get_child (s : Socket) : s.get .child = s.child := rfl

@[simp] theorem get_set_self (s : Socket) (side : Side) : s.set side (s.get side) = s := by
  cases side <;> rfl

theorem isOpen_iff {e : Endpoint} : e.isOpen = true ↔ e.holders ≠ 0 := by
  simp [Endpoint.isOpen]

theorem isOpen_eq_false {e : Endpoint} : e.isOpen = false ↔ e.holders = 0 := by
  simp [Endpoint.isOpen]

/-! ### Sharing and releasing -/

theorem holders_share (s : Socket) (side other : Side) :
    ((s.share side).get other).holders =
      (s.get other).holders + if other = side then 1 else 0 := by
  cases side <;> cases other <;> rfl

theorem get_release_self (s : Socket) (side : Side) :
    (s.release side).get side =
      if (s.get side).holders ≤ 1 then .closed
      else { s.get side with holders := (s.get side).holders - 1 } := by
  by_cases last : (s.get side).holders ≤ 1
  · cases read : (s.get side).queue.isEmpty <;> cases side <;>
      simp_all [release, close, set, get, Side.other]
  · simp [release, last]

/-- The other end only notices that datagrams were left unread. -/
theorem get_release_other (s : Socket) (side : Side) :
    (s.release side).get side.other =
      if (s.get side).holders ≤ 1 ∧ (s.get side).queue ≠ [] then
        { s.get side.other with reset := true }
      else s.get side.other := by
  by_cases last : (s.get side).holders ≤ 1
  · cases read : (s.get side).queue <;> simp [release, close, last, read]
  · simp [release, last]

theorem holders_release (s : Socket) (side other : Side) :
    ((s.release side).get other).holders =
      (s.get other).holders - if other = side then 1 else 0 := by
  by_cases same : other = side
  · subst other
    rw [get_release_self]
    split
    · simp only [Endpoint.closed, if_true]; omega
    · simp
  · have opposite : other = side.other := by cases side <;> cases other <;> simp_all [Side.other]
    subst other
    rw [get_release_other]
    split <;> simp

theorem queue_release (s : Socket) (side : Side) :
    ((s.release side).get side).queue =
      if (s.get side).holders ≤ 1 then [] else (s.get side).queue := by
  rw [get_release_self]
  split <;> rfl

@[simp] theorem queue_release_other (s : Socket) (side : Side) :
    ((s.release side).get side.other).queue = (s.get side.other).queue := by
  rw [get_release_other]
  split <;> rfl

theorem reset_release (s : Socket) (side : Side) :
    ((s.release side).get side).reset =
      if (s.get side).holders ≤ 1 then false else (s.get side).reset := by
  rw [get_release_self]
  split <;> rfl

theorem queue_release_of_read (s : Socket) (side : Side) (read : (s.get side).queue = []) :
    ((s.release side).get side).queue = [] := by
  rw [queue_release, read, ite_self]

theorem reset_release_of_calm (s : Socket) (side : Side) (calm : (s.get side).reset = false) :
    ((s.release side).get side).reset = false := by
  rw [reset_release, calm, ite_self]

/-- An end whose queue is empty is released without a trace on the other end. -/
theorem get_release_other_of_read (s : Socket) (side : Side) (read : (s.get side).queue = []) :
    (s.release side).get side.other = s.get side.other := by
  rw [get_release_other]
  simp [read]

theorem parent_release_child (read : s.child.queue = []) : (s.release .child).parent = s.parent :=
  get_release_other_of_read s .child read

theorem child_release_parent (read : s.parent.queue = []) : (s.release .parent).child = s.child :=
  get_release_other_of_read s .parent read

/-! ### Sending -/

/-- A message arrives when no reset is pending and the other side is open. -/
theorem deliver_of_open (s : Socket) (side : Side) (calm : (s.get side).reset = false)
    (peer : (s.get side.other).isOpen = true) (bytes : Bytes) :
    s.deliver side bytes =
      (.ok (), s.set side.other
        { s.get side.other with queue := (s.get side.other).queue ++ [bytes] }) := by
  simp [deliver, send, calm, peer]

theorem deliver_ok {bytes : Bytes} (h : s.deliver side bytes = (.ok (), k)) :
    (s.get side).reset = false ∧ (s.get side.other).isOpen = true ∧
      k = s.set side.other
        { s.get side.other with queue := (s.get side.other).queue ++ [bytes] } := by
  cases calm : (s.get side).reset <;> cases peer : (s.get side.other).isOpen <;>
    simp [deliver, send, calm, peer] at h
  exact ⟨rfl, rfl, h.symm⟩

/-- A failed call only clears the reset of the caller. -/
theorem deliver_error {bytes : Bytes} {e : Error} (h : s.deliver side bytes = (.error e, k)) :
    e = .channelClosed ∧ k = s.set side { s.get side with reset := false } ∧
      ((s.get side).reset = true ∨ (s.get side.other).isOpen = false) := by
  cases calm : (s.get side).reset <;> cases peer : (s.get side.other).isOpen <;>
    simp [deliver, send, calm, peer] at h <;> obtain ⟨rfl, rfl⟩ := h
  · refine ⟨rfl, ?_, Or.inr rfl⟩
    rw [← calm]
    exact (get_set_self s side).symm
  all_goals exact ⟨rfl, rfl, Or.inl rfl⟩

/-! ### Receiving -/

theorem receive_of_reset {limit : Nat} (lost : (s.get side).reset = true) :
    s.receive side limit = (.reset, s.set side { s.get side with reset := false }) := by
  simp [receive, lost]

theorem receive_of_cons {limit : Nat} {bytes : Bytes} {rest : List Bytes}
    (calm : (s.get side).reset = false) (queued : (s.get side).queue = bytes :: rest) :
    s.receive side limit =
      (.datagram (bytes.take limit), s.set side { s.get side with queue := rest }) := by
  simp [receive, calm, queued]

theorem receive_of_nil {limit : Nat} (calm : (s.get side).reset = false)
    (empty : (s.get side).queue = []) :
    s.receive side limit =
      (if (s.get side.other).isOpen then .nothing else .ended, s) := by
  simp [receive, calm, empty]

/-- A caller is blocked exactly while nothing has come and something still can. -/
theorem receive_eq_nothing {limit : Nat} {s k : Socket} :
    s.receive side limit = (.nothing, k) ↔
      k = s ∧ (s.get side).reset = false ∧ (s.get side).queue = [] ∧
        (s.get side.other).isOpen = true := by
  cases calm : (s.get side).reset with
  | true => simp [receive_of_reset calm]
  | false =>
    cases queued : (s.get side).queue with
    | cons bytes rest => simp [receive_of_cons calm queued]
    | nil =>
      rw [receive_of_nil calm queued]
      cases peer : (s.get side.other).isOpen <;> simp [eq_comm]

/-! ### Waiting for messages -/

theorem accept_encode (m : Handshake) : m.accept (m.encode.take messageLimit) = .ok () := by
  cases m <;> rfl

/-- A datagram that is not the expected message breaks the protocol, unless it is empty. -/
theorem accept_error {m : Handshake} {bytes : Bytes} {e : Error} (h : m.accept bytes = .error e) :
    e = .channelClosed ∨ ∃ fault, e = .protocol fault := by
  unfold Handshake.accept at h
  split at h
  · exact Or.inl (Except.error.inj h).symm
  · split at h
    · split at h
      · cases h
      · exact Or.inr ⟨_, (Except.error.inj h).symm⟩
    · exact Or.inr ⟨_, (Except.error.inj h).symm⟩
  · exact Or.inr ⟨_, (Except.error.inj h).symm⟩

theorem await?_fault {m : Handshake} {e : Error} (h : s.await? side m = some (.error e, k)) :
    e = .channelClosed ∨ ∃ fault, e = .protocol fault := by
  obtain ⟨bytes, -, answer⟩ := Option.map_eq_some_iff.mp h
  exact accept_error (congrArg Prod.fst answer)

theorem await?_ok {m : Handshake} (h : s.await? side m = some (.ok (), k)) :
    (s.get side).reset = false ∧ ∃ bytes rest, (s.get side).queue = bytes :: rest ∧
      k = s.set side { s.get side with queue := rest } := by
  unfold await? at h
  cases calm : (s.get side).reset with
  | true =>
    rw [receive_of_reset calm] at h
    cases h
  | false =>
    cases queued : (s.get side).queue with
    | nil =>
      rw [receive_of_nil calm queued] at h
      cases peer : (s.get side.other).isOpen <;> rw [peer] at h <;> cases h
    | cons bytes rest =>
      rw [receive_of_cons calm queued] at h
      simp only [Received.bytes?, Option.map_some, Option.some.injEq, Prod.mk.injEq] at h
      exact ⟨rfl, bytes, rest, rfl, h.2.symm⟩

theorem await?_error (s : Socket) (side : Side) {m : Handshake} {e : Error}
    (calm : (s.get side).reset = false) (h : s.await? side m = some (.error e, k)) :
    ((s.get side).queue = [] ∧ (s.get side.other).isOpen = false ∧ e = .channelClosed ∧ k = s) ∨
      ∃ bytes rest, (s.get side).queue = bytes :: rest ∧
        m.accept (bytes.take messageLimit) = .error e := by
  unfold await? at h
  cases queued : (s.get side).queue with
  | nil =>
    rw [receive_of_nil calm queued] at h
    cases peer : (s.get side.other).isOpen <;> rw [peer] at h <;> cases h
    exact Or.inl ⟨rfl, rfl, rfl, rfl⟩
  | cons bytes rest =>
    rw [receive_of_cons calm queued] at h
    simp only [Received.bytes?, Option.map_some, Option.some.injEq, Prod.mk.injEq] at h
    exact Or.inr ⟨bytes, rest, rfl, h.1⟩

theorem await?_eq_none {m : Handshake} :
    s.await? side m = none ↔ (s.get side).reset = false ∧ (s.get side).queue = [] ∧
      (s.get side.other).isOpen = true := by
  unfold await?
  rcases got : s.receive side messageLimit with ⟨received, k⟩
  cases received with
  | nothing => simpa [Received.bytes?] using (receive_eq_nothing.mp got).2
  | _ =>
    simp only [Received.bytes?, Option.map_some, reduceCtorEq, false_iff]
    intro blocked
    have nothing : s.receive side messageLimit = (.nothing, s) :=
      receive_eq_nothing.mpr ⟨rfl, blocked⟩
    rw [got] at nothing
    cases nothing

/-! ### Waiting for a report -/

theorem ofNumber?_number (signal : Signal) :
    Signal.ofNumber? signal.number.toUInt8.toNat = some signal := by
  cases signal <;> rfl

theorem decode_encode (o : Outcome) :
    Outcome.decode (o.encode.take messageLimit) = .ok (some o) := by
  cases o with
  | exited code => rfl
  | signaled signal =>
    have tagged : Outcome.signaledTag ≠ Outcome.exitedTag := by decide
    show Outcome.decode [Outcome.signaledTag, signal.number.toUInt8] = _
    simp only [Outcome.decode, tagged, if_false, if_true, ofNumber?_number]

theorem decode_error {bytes : Bytes} {e : Error} (h : Outcome.decode bytes = .error e) :
    ∃ fault, e = .protocol fault := by
  unfold Outcome.decode at h
  split at h
  · cases h
  · split at h
    · cases h
    · split at h
      · split at h
        · cases h
        · exact ⟨_, (Except.error.inj h).symm⟩
      · exact ⟨_, (Except.error.inj h).symm⟩
  · exact ⟨_, (Except.error.inj h).symm⟩

theorem awaitReport?_fault {e : Error} (h : s.awaitReport? = some (.error e, k)) :
    ∃ fault, e = .protocol fault := by
  obtain ⟨bytes, -, answer⟩ := Option.map_eq_some_iff.mp h
  exact decode_error (congrArg Prod.fst answer)

theorem awaitReport?_of_reset (lost : (s.get .parent).reset = true) :
    s.awaitReport? =
      some (.ok none, (s.set .parent { s.parent with reset := false }).release .parent) := by
  rw [awaitReport?, receive_of_reset lost]
  rfl

theorem awaitReport?_of_cons {bytes : Bytes} {rest : List Bytes}
    (calm : (s.get .parent).reset = false) (queued : (s.get .parent).queue = bytes :: rest) :
    s.awaitReport? = some (Outcome.decode (bytes.take messageLimit),
      (s.set .parent { s.parent with queue := rest }).release .parent) := by
  rw [awaitReport?, receive_of_cons calm queued]
  rfl

theorem awaitReport?_of_nil (calm : (s.get .parent).reset = false)
    (empty : (s.get .parent).queue = []) :
    s.awaitReport? = if s.child.isOpen then none else some (.ok none, s.release .parent) := by
  rw [awaitReport?, receive_of_nil calm empty]
  show Option.map _ (Received.bytes? (if s.child.isOpen then .nothing else .ended)) = _
  cases s.child.isOpen <;> rfl

theorem awaitReport?_eq_none :
    s.awaitReport? = none ↔ s.parent.reset = false ∧ s.parent.queue = [] ∧
      s.child.isOpen = true := by
  cases calm : s.parent.reset with
  | true => simp [awaitReport?_of_reset calm]
  | false =>
    cases queued : s.parent.queue with
    | cons bytes rest => simp [awaitReport?_of_cons calm queued]
    | nil => simp [awaitReport?_of_nil calm queued]

end NamespaceEntry.Socket
