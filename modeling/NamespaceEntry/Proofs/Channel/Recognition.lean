import NamespaceEntry.Proofs.Channel.Ends

/-!
# Recognising messages

A receiver sees at most `messageLimit` bytes of a datagram. Every message is shorter than
that, so what it sees is a message only if it is the whole datagram, and no two receiving
calls take the same datagram.
-/

namespace NamespaceEntry

theorem Signal.ofNumber?_eq_some_iff {n : Nat} {signal : Signal} :
    Signal.ofNumber? n = some signal ↔ signal.number = n := by
  constructor
  · intro found
    simpa using List.find?_some found
  · rintro rfl
    cases signal <;> rfl

theorem Signal.toNat_number (signal : Signal) :
    signal.number.toUInt8.toNat = signal.number := by
  cases signal <;> rfl

/-! ### Cut datagrams -/

namespace Socket

/-- What fits into the buffer with room to spare was not cut. -/
theorem take_eq_iff_of_short {limit : Nat} {d bytes : Bytes} (short : bytes.length < limit) :
    d.take limit = bytes ↔ d = bytes := by
  by_cases fits : d.length ≤ limit
  · rw [List.take_of_length_le fits]
  · have cut : (d.take limit).length = limit := by
      rw [List.length_take]; omega
    constructor
    · rintro rfl
      omega
    · rintro rfl
      omega

theorem take_eq_nil_iff {d : Bytes} : d.take messageLimit = [] ↔ d = [] :=
  take_eq_iff_of_short (by decide)

theorem take_eq_message_iff {d : Bytes} {m : Handshake} :
    d.take messageLimit = m.encode ↔ d = m.encode :=
  take_eq_iff_of_short (by cases m <;> decide)

theorem length_encode_outcome (o : Outcome) : o.encode.length = 2 := by
  cases o <;> rfl

theorem take_eq_report_iff {d : Bytes} {o : Outcome} :
    d.take messageLimit = o.encode ↔ d = o.encode :=
  take_eq_iff_of_short (by rw [length_encode_outcome]; decide)

end Socket

/-! ### Messages as bytes -/

namespace Handshake

theorem ofByte?_eq_some_iff {b : UInt8} {m : Handshake} : ofByte? b = some m ↔ b = m.byte := by
  have distinct : byte .go ≠ byte .ready := by decide
  unfold ofByte?
  constructor
  · intro known
    split at known
    · cases known; assumption
    · split at known
      · cases known; assumption
      · cases known
  · rintro rfl
    cases m with
    | ready => rw [if_pos rfl]
    | go => rw [if_neg distinct, if_pos rfl]

theorem accept_encode_self (m : Handshake) : m.accept m.encode = .ok () := by
  cases m <;> rfl

theorem accept_eq_ok_iff {m : Handshake} {bytes : Bytes} :
    m.accept bytes = .ok () ↔ bytes = m.encode := by
  constructor
  · intro taken
    unfold accept at taken
    split at taken
    · cases taken
    · split at taken
      case h_1 known =>
        split at taken
        case isTrue same => rw [encode, ofByte?_eq_some_iff.mp known, same]
        case isFalse => cases taken
      case h_2 => cases taken
    · cases taken
  · rintro rfl
    exact accept_encode_self m

theorem accept_eq_closed_iff {m : Handshake} {bytes : Bytes} :
    m.accept bytes = .error .channelClosed ↔ bytes = [] := by
  constructor
  · intro closed
    unfold accept at closed
    split at closed
    · rfl
    · split at closed
      · split at closed <;> cases closed
      · cases closed
    · cases closed
  · rintro rfl
    rfl

/-- What is neither the message nor empty breaks the protocol. -/
theorem accept_of_other {m : Handshake} {bytes : Bytes} (filled : bytes ≠ [])
    (other : bytes ≠ m.encode) : ∃ fault, m.accept bytes = .error (.protocol fault) := by
  rcases answer : m.accept bytes with e | ⟨⟩
  · obtain rfl | ⟨fault, rfl⟩ := Socket.accept_error answer
    · exact absurd (accept_eq_closed_iff.mp answer) filled
    · exact ⟨fault, rfl⟩
  · exact absurd (accept_eq_ok_iff.mp answer) other

end Handshake

namespace Outcome

theorem decode_encode_self (o : Outcome) : decode o.encode = .ok (some o) := by
  have read := Socket.decode_encode o
  rwa [Socket.take_eq_report_iff.mpr rfl] at read

theorem decode_eq_some_iff {bytes : Bytes} {o : Outcome} :
    decode bytes = .ok (some o) ↔ bytes = o.encode := by
  constructor
  · intro reported
    unfold decode at reported
    split at reported
    · cases reported
    · split at reported
      case isTrue exited =>
        cases reported
        rw [exited]
        rfl
      case isFalse =>
        split at reported
        case isTrue signaled =>
          split at reported
          case h_1 b _ _ signal named =>
            cases reported
            have number : b.toNat = signal.number := (Signal.ofNumber?_eq_some_iff.mp named).symm
            have byte : b = signal.number.toUInt8 := by
              rw [← UInt8.toNat_inj, Signal.toNat_number, number]
            rw [signaled, byte]
            rfl
          case h_2 => cases reported
        case isFalse => cases reported
    · cases reported
  · rintro rfl
    exact decode_encode_self o

theorem decode_eq_none_iff {bytes : Bytes} : decode bytes = .ok none ↔ bytes = [] := by
  constructor
  · intro silent
    unfold decode at silent
    split at silent
    · rfl
    · split at silent
      · cases silent
      · split at silent
        · split at silent <;> cases silent
        · cases silent
    · cases silent
  · rintro rfl
    rfl

theorem decode_of_other {bytes : Bytes} (filled : bytes ≠ [])
    (other : ∀ o : Outcome, bytes ≠ o.encode) : ∃ fault, decode bytes = .error (.protocol fault) := by
  rcases answer : decode bytes with e | _ | o
  · obtain ⟨fault, rfl⟩ := Socket.decode_error answer
    exact ⟨fault, rfl⟩
  · exact absurd (decode_eq_none_iff.mp answer) filled
  · exact absurd (decode_eq_some_iff.mp answer) (other o)

end Outcome

/-! ### The receiving calls -/

namespace Socket

variable {s : Socket} {side : Side}

theorem await?_of_cons {m : Handshake} {bytes : Bytes} {rest : List Bytes}
    (calm : (s.get side).reset = false) (queued : (s.get side).queue = bytes :: rest) :
    s.await? side m =
      some (m.accept (bytes.take messageLimit), s.set side { s.get side with queue := rest }) := by
  rw [await?, receive_of_cons calm queued]
  rfl

theorem await?_of_reset {m : Handshake} (lost : (s.get side).reset = true) :
    s.await? side m =
      some (.error .channelClosed, s.set side { s.get side with reset := false }) := by
  rw [await?, receive_of_reset lost]
  rfl

theorem await?_of_nil {m : Handshake} (calm : (s.get side).reset = false)
    (empty : (s.get side).queue = []) :
    s.await? side m =
      if (s.get side.other).isOpen then none else some (.error .channelClosed, s) := by
  rw [await?, receive_of_nil calm empty]
  cases (s.get side.other).isOpen <;> rfl

inductive Awaited where
  | message (m : Handshake)
  | report
  deriving DecidableEq, Repr

/-- Some call that waits for it, on a socket where the datagram comes next, succeeds. -/
def Accepts (d : Bytes) : Awaited → Prop
  | .message m => ∃ s k : Socket, ∃ side rest,
      (s.get side).queue = d :: rest ∧ s.await? side m = some (.ok (), k)
  | .report => ∃ s k : Socket, ∃ o rest,
      s.parent.queue = d :: rest ∧ s.awaitReport? = some (.ok (some o), k)

theorem accepts_message_iff {d : Bytes} {m : Handshake} :
    Accepts d (.message m) ↔ d = m.encode := by
  constructor
  · rintro ⟨s, k, side, rest, queued, taken⟩
    rw [await?_of_cons (await?_ok taken).1 queued, Option.some.injEq, Prod.mk.injEq] at taken
    exact take_eq_message_iff.mp (Handshake.accept_eq_ok_iff.mp taken.1)
  · rintro rfl
    exact ⟨{ parent := { queue := [m.encode] } }, {}, .parent, [], rfl, by cases m <;> rfl⟩

theorem accepts_report_iff {d : Bytes} : Accepts d .report ↔ ∃ o : Outcome, d = o.encode := by
  constructor
  · rintro ⟨s, k, o, rest, queued, taken⟩
    have calm : s.parent.reset = false := by
      apply Bool.eq_false_iff.mpr
      intro lost
      rw [awaitReport?_of_reset lost] at taken
      cases taken
    rw [awaitReport?_of_cons calm queued, Option.some.injEq, Prod.mk.injEq] at taken
    exact ⟨o, take_eq_report_iff.mp (Outcome.decode_eq_some_iff.mp taken.1)⟩
  · rintro ⟨o, rfl⟩
    let s : Socket := { parent := { queue := [o.encode] } }
    refine ⟨s, (s.set .parent { s.parent with queue := [] }).release .parent, o, [], rfl, ?_⟩
    rw [awaitReport?_of_cons rfl rfl, decode_encode]

/-- The lengths tell reports from messages, and the byte tells one message from the other. -/
theorem accepts_unique {d : Bytes} {x y : Awaited} (first : Accepts d x) (second : Accepts d y) :
    x = y := by
  have apart : ∀ (m : Handshake) (o : Outcome), m.encode ≠ o.encode := by
    intro m o same
    have lengths := congrArg List.length same
    rw [length_encode_outcome] at lengths
    cases lengths
  cases x with
  | message m =>
    have isMessage := accepts_message_iff.mp first
    cases y with
    | message n =>
      have same : m.encode = n.encode := isMessage.symm.trans (accepts_message_iff.mp second)
      have bytes : m.byte = n.byte := List.head_eq_of_cons_eq same
      have known := Handshake.ofByte?_eq_some_iff.mpr bytes
      rw [Handshake.ofByte?_eq_some_iff.mpr rfl] at known
      rw [Option.some.inj known]
    | report =>
      obtain ⟨o, isReport⟩ := accepts_report_iff.mp second
      exact absurd (isMessage.symm.trans isReport) (apart m o)
  | report =>
    obtain ⟨o, isReport⟩ := accepts_report_iff.mp first
    cases y with
    | message n =>
      exact absurd ((accepts_message_iff.mp second).symm.trans isReport) (apart n o)
    | report => rfl

/-- Cutting a datagram never leaves a message. -/
theorem not_accepts_of_long {d : Bytes} (long : 2 < d.length) (x : Awaited) : ¬ Accepts d x := by
  intro taken
  cases x with
  | message m =>
    rw [accepts_message_iff.mp taken, Handshake.encode, List.length_singleton] at long
    omega
  | report =>
    obtain ⟨o, isReport⟩ := accepts_report_iff.mp taken
    rw [isReport, length_encode_outcome] at long
    omega

/-- A datagram of any length is taken by a receiving call exactly if it is the encoding of
what the call waits for. An empty one, a reset and a closed channel read as nothing, all
else breaks the protocol, and no datagram is taken by two different calls. -/
theorem recognition_exact (d : Bytes) :
    (∀ (s : Socket) (side : Side) (rest : List Bytes),
      (s.get side).reset = false → (s.get side).queue = d :: rest →
      ∀ m : Handshake, ∃ result,
        s.await? side m = some (result, s.set side { s.get side with queue := rest }) ∧
        (result = .ok () ↔ d = match m with
          | .ready => [Bytes.ascii 'R']
          | .go => [Bytes.ascii 'G']) ∧
        (result = .error .channelClosed ↔ d = []) ∧
        (d ≠ m.encode → d ≠ [] → ∃ fault, result = .error (.protocol fault))) ∧
    (∀ (s : Socket) (rest : List Bytes),
      s.parent.reset = false → s.parent.queue = d :: rest →
      ∃ result,
        s.awaitReport? =
          some (result, (s.set .parent { s.parent with queue := rest }).release .parent) ∧
        (∀ o, result = .ok (some o) ↔ d = match o with
          | .exited code => [Bytes.ascii 'X', code]
          | .signaled signal => [Bytes.ascii 'S', signal.number.toUInt8]) ∧
        (result = .ok none ↔ d = []) ∧
        (d ≠ [] → (∀ o : Outcome, d ≠ o.encode) → ∃ fault, result = .error (.protocol fault))) ∧
    (∀ (s : Socket) (side : Side),
      (s.get side).reset = true ∨
        (s.get side).queue = [] ∧ (s.get side.other).isOpen = false →
      (∀ m : Handshake, ∃ k, s.await? side m = some (.error .channelClosed, k)) ∧
      (side = .parent → ∃ k, s.awaitReport? = some (.ok none, k))) ∧
    (∀ x y, Accepts d x → Accepts d y → x = y) ∧
    (messageLimit < d.length → ∀ x, ¬ Accepts d x) := by
  refine ⟨?_, ?_, ?_, fun _ _ => accepts_unique, ?_⟩
  · intro s side rest calm queued m
    refine ⟨_, await?_of_cons calm queued, ?_, ?_, ?_⟩
    · have letter : m.encode = match m with
          | .ready => [Bytes.ascii 'R']
          | .go => [Bytes.ascii 'G'] := by cases m <;> rfl
      rw [← letter, Handshake.accept_eq_ok_iff, take_eq_message_iff]
    · rw [Handshake.accept_eq_closed_iff, take_eq_nil_iff]
    · intro other filled
      exact Handshake.accept_of_other (mt take_eq_nil_iff.mp filled)
        (mt take_eq_message_iff.mp other)
  · intro s rest calm queued
    refine ⟨_, awaitReport?_of_cons calm queued, ?_, ?_, ?_⟩
    · intro o
      have letters : o.encode = match o with
          | .exited code => [Bytes.ascii 'X', code]
          | .signaled signal => [Bytes.ascii 'S', signal.number.toUInt8] := by cases o <;> rfl
      rw [← letters, Outcome.decode_eq_some_iff, take_eq_report_iff]
    · rw [Outcome.decode_eq_none_iff, take_eq_nil_iff]
    · intro filled other
      exact Outcome.decode_of_other (mt take_eq_nil_iff.mp filled)
        fun o => mt take_eq_report_iff.mp (other o)
  · intro s side silent
    by_cases lost : (s.get side).reset = true
    · refine ⟨fun m => ⟨_, await?_of_reset lost⟩, ?_⟩
      rintro rfl
      exact ⟨_, awaitReport?_of_reset lost⟩
    · obtain ⟨empty, gone⟩ := silent.resolve_left lost
      have calm : (s.get side).reset = false := by simpa using lost
      refine ⟨fun m => ⟨s, ?_⟩, ?_⟩
      · rw [await?_of_nil calm empty, gone]
        rfl
      · rintro rfl
        refine ⟨s.release .parent, ?_⟩
        have closed : s.child.isOpen = false := gone
        rw [awaitReport?_of_nil calm empty, closed]
        rfl
  · intro long x
    apply not_accepts_of_long
    unfold messageLimit at long
    omega

/-- Nine bytes are not taken for the first of them, and a death by `SIGTERM` is read. -/
theorem recognition_of_nine_bytes :
    let long : Socket := { parent := { queue := [List.replicate 9 (Bytes.ascii 'R')] } }
    let died : Socket := { parent := { queue := [[Bytes.ascii 'S', 15]] } }
    (∃ fault k, long.await? .parent .ready = some (.error (.protocol fault), k)) ∧
      ∃ k, died.awaitReport? = some (.ok (some (.signaled .term)), k) := by
  intro long died
  constructor
  · obtain ⟨result, answer, -, -, other⟩ :=
      (recognition_exact (List.replicate 9 (Bytes.ascii 'R'))).1 long .parent [] rfl rfl .ready
    obtain ⟨fault, rfl⟩ := other (by decide) (by decide)
    exact ⟨fault, _, answer⟩
  · obtain ⟨result, answer, reported, -, -⟩ :=
      (recognition_exact [Bytes.ascii 'S', 15]).2.1 died [] rfl rfl
    rw [(reported (.signaled .term)).mpr rfl] at answer
    exact ⟨_, answer⟩

end Socket

end NamespaceEntry
