import NamespaceEntry.Proofs.Id.Ranges
import NamespaceEntry.Proofs.Outcome.Endings

/-!
# Wait statuses read in two ways

A parent and an init read a wait status as a change of state, and whoever waits for a helper reads
it as an end. Both find the ending that `RawStatus.ending?` takes from the bits, and
`readers_agree` shows that neither has an outcome where the other has none.
-/

namespace NamespaceEntry

variable {raw : RawStatus} {s : WaitStatus} {o : Outcome} {e : Ending}

/-- The outcome of a helper with the status. Without an outcome the wait for the helper has
failed. -/
def ExitStatus.result (status : ExitStatus) : Except Error Outcome :=
  status.outcome.mapError (.wait <| .status ·)

theorem Signal.number_le (signal : Signal) : signal.number ≤ 31 := by
  cases signal <;> decide

theorem Ending.outcome?_of_high {number : Nat} (high : 31 < number) :
    (Ending.killed number).outcome? = none := by
  refine Option.map_eq_none_iff.mpr (Option.eq_none_iff_forall_ne_some.mpr ?_)
  intro signal known
  have most := signal.number_le
  rw [Signal.ofNumber?_eq_some_iff.mp known] at most
  omega

/-! ### The bits of a status -/

namespace RawStatus

/-- The low seven bits, which name the signal that killed the process. -/
def signalBits (raw : RawStatus) : UInt32 := raw.bits &&& 0x7f

def codeBits (raw : RawStatus) : UInt8 := (raw.bits >>> 8).toUInt8

/-- The ending that a status packs. All of the low seven bits are set if the process has not
ended. -/
def ending? (raw : RawStatus) : Option Ending :=
  if raw.signalBits = 0 then some (.exited raw.codeBits)
  else if raw.signalBits < 0x7f then some (.killed raw.signalBits.toNat)
  else none

theorem low_eq (raw : RawStatus) : raw.low = raw.signalBits.toNat := by
  have mask : (0x7f : UInt32).toNat = 2 ^ 7 - 1 := rfl
  rw [signalBits, UInt32.toNat_and, mask, Nat.and_two_pow_sub_one_eq_mod]
  rfl

theorem second_eq (raw : RawStatus) : raw.second = raw.codeBits.toNat := by
  have places : (8 : UInt32).toNat % 32 = 8 := rfl
  rw [codeBits, UInt32.toNat_toUInt8, UInt32.toNat_shiftRight, places, Nat.shiftRight_eq_div_pow]
  rfl

theorem signalBits_eq_zero_iff : raw.signalBits = 0 ↔ raw.low = 0 := by
  rw [low_eq, ← UInt32.toNat_inj]
  rfl

theorem signalBits_lt_iff : raw.signalBits < 0x7f ↔ raw.low < stopMark := by
  rw [low_eq, UInt32.lt_iff_toNat_lt]
  rfl

theorem low_cases (raw : RawStatus) :
    (raw.low = 0 ∧ raw.ending? = some (.exited raw.codeBits)) ∨
    (raw.low ≠ 0 ∧ raw.low < stopMark ∧ raw.ending? = some (.killed raw.low)) ∨
    (raw.low = stopMark ∧ raw.ending? = none) := by
  unfold ending?
  simp only [signalBits_eq_zero_iff, signalBits_lt_iff, ← low_eq]
  by_cases zero : raw.low = 0
  · exact Or.inl ⟨zero, if_pos zero⟩
  · by_cases below : raw.low < stopMark
    · exact Or.inr (Or.inl ⟨zero, below, by rw [if_neg zero, if_pos below]⟩)
    · have most : raw.low ≤ stopMark := Nat.le_of_lt_succ (Nat.mod_lt _ (by decide))
      exact Or.inr (Or.inr ⟨by omega, by rw [if_neg zero, if_neg below]⟩)

/-- A stop is marked in the low byte, so that the low seven bits are set. -/
theorem low_of_stopped (stopped : raw.lowByte = stopMark) : raw.low = stopMark := by
  unfold lowByte stopMark at stopped
  unfold low stopMark
  omega

theorem low_of_continued (same : raw = continued) : raw.low = stopMark := by
  rw [same]
  rfl

end RawStatus

/-! ### Reading a change of state -/

namespace WaitStatus

theorem ofRaw_of_killed (set : raw.low ≠ 0) (below : raw.low < RawStatus.stopMark) :
    ofRaw raw = (signal raw.low).map (.signaled · (128 ≤ raw.lowByte)) := by
  have unstopped : raw.low ≠ RawStatus.stopMark := Nat.ne_of_lt below
  have running : raw.lowByte ≠ RawStatus.stopMark := mt RawStatus.low_of_stopped unstopped
  have other : raw ≠ RawStatus.continued := mt RawStatus.low_of_continued unstopped
  rw [ofRaw, if_neg set, if_neg running, if_neg other]

/-- An exit code comes through the wider number that holds it. -/
theorem outcome?_exited (raw : RawStatus) :
    (exited (Int32.ofNat raw.second)).outcome? = some (.exited raw.codeBits) := by
  have byte := raw.codeBits.toNat_lt
  have fits : raw.codeBits.toNat < UInt32.size := by
    unfold UInt32.size
    omega
  have code : (UInt32.ofNat raw.codeBits.toNat).toUInt8 = raw.codeBits := by
    rw [← UInt8.toNat_inj, UInt32.toNat_toUInt8, UInt32.toNat_ofNat_of_lt' fits]
    exact Nat.mod_eq_of_lt byte
  rw [outcome?, RawStatus.second_eq]
  exact congrArg (fun code => some (Outcome.exited code)) code

theorem outcome?_of_named {n : Nat} {f : Signal → WaitStatus}
    (without : ∀ named, (f named).outcome? = none) (read : (signal n).map f = .ok s) :
    s.outcome? = none := by
  cases known : signal n with
  | error errno =>
    rw [known] at read
    cases read
  | ok named =>
    rw [known] at read
    cases read
    exact without named

/-- A process that has not ended has no outcome, whatever change its status tells of. -/
theorem outcome?_of_alive (alive : raw.low = RawStatus.stopMark) (read : ofRaw raw = .ok s) :
    s.outcome? = none := by
  have unnamed : signal RawStatus.stopMark = .error .invalidArgument := rfl
  have set : raw.low ≠ 0 := by rw [alive]; decide
  rw [ofRaw, if_neg set] at read
  split at read
  · split at read
    · cases read
      rfl
    · split at read
      · exact outcome?_of_named (fun _ => rfl) read
      · exact outcome?_of_named (fun _ => rfl) read
  · split at read
    · cases read
      rfl
    · rw [alive, unnamed] at read
      cases read

theorem exists_signaled_iff {dumped : Bool} {n : Nat} :
    (∃ s, (signal n).map (signaled · dumped) = .ok s ∧ s.outcome? = some o) ↔
      (Ending.killed n).outcome? = some o := by
  have named : (Ending.killed n).outcome? = (Signal.ofNumber? n).map .signaled := rfl
  rw [signal, named]
  cases Signal.ofNumber? n with
  | none =>
    constructor
    · rintro ⟨s, read, -⟩
      cases read
    · intro none
      cases none
  | some named =>
    constructor
    · rintro ⟨s, read, known⟩
      cases read
      exact known
    · exact fun known => ⟨_, rfl, known⟩

theorem exists_outcome?_iff :
    (∃ s, ofRaw raw = .ok s ∧ s.outcome? = some o) ↔ raw.ending?.bind Ending.outcome? = some o := by
  rcases raw.low_cases with ⟨zero, ended⟩ | ⟨set, below, ended⟩ | ⟨alive, unended⟩
  · have read : ofRaw raw = .ok (.exited (Int32.ofNat raw.second)) := if_pos zero
    rw [ended, read]
    constructor
    · rintro ⟨s, same, known⟩
      obtain rfl := Except.ok.inj same
      exact (outcome?_exited raw).symm.trans known
    · exact fun known => ⟨_, rfl, (outcome?_exited raw).trans known⟩
  · rw [ended, ofRaw_of_killed set below]
    exact exists_signaled_iff
  · rw [unended]
    constructor
    · rintro ⟨s, read, known⟩
      cases (outcome?_of_alive alive read).symm.trans known
    · intro none
      cases none

end WaitStatus

/-! ### Reading an end -/

namespace ExitStatus

/-- Whoever waits for a helper sees only its ending, however the kernel packs it. -/
theorem outcome_of_ended (ended : raw.ending? = some e) :
    (ofRaw raw).outcome = (ofEnding e).outcome := by
  rcases raw.low_cases with ⟨zero, same⟩ | ⟨set, below, same⟩ | ⟨alive, same⟩
  · obtain rfl := Option.some.inj (same.symm.trans ended)
    rw [ofRaw, if_pos zero, RawStatus.second_eq]
    show Except.ok (Outcome.exited (UInt8.ofNat raw.codeBits.toNat)) = .ok (.exited raw.codeBits)
    rw [UInt8.ofNat_toNat]
  · obtain rfl := Option.some.inj (same.symm.trans ended)
    rw [ofRaw, if_neg set, if_pos below]
    rfl
  · cases same.symm.trans ended

theorem outcome_of_unended (unended : raw.ending? = none) :
    (ofRaw raw).outcome = .error (.notEnded (ofRaw raw)) := by
  rcases raw.low_cases with ⟨-, ended⟩ | ⟨-, -, ended⟩ | ⟨alive, -⟩
  · cases ended.symm.trans unended
  · cases ended.symm.trans unended
  · have set : raw.low ≠ 0 := by rw [alive]; decide
    have most : ¬raw.low < RawStatus.stopMark := by rw [alive]; exact Nat.lt_irrefl _
    rw [ofRaw, if_neg set, if_neg most]
    split
    · rfl
    · split <;> rfl

theorem result_eq_ok_iff :
    (ofRaw raw).result = .ok o ↔ raw.ending?.bind Ending.outcome? = some o := by
  rw [result, mapError_eq_ok]
  cases ended : raw.ending? with
  | none =>
    rw [outcome_of_unended ended]
    exact ⟨nofun, nofun⟩
  | some e =>
    rw [outcome_of_ended ended, Option.bind_some]
    rcases Invocation.outcome_ofEnding e false with ⟨o', read, named⟩ | ⟨fault, read, nameless⟩
    · rw [read, named, Except.ok.injEq, Option.some.injEq]
    · rw [read, nameless]
      exact ⟨nofun, nofun⟩

theorem result_of_nameless (nameless : raw.ending?.bind Ending.outcome? = none) :
    ∃ fault, (ofRaw raw).result = .error (.wait fault) := by
  cases read : (ofRaw raw).outcome with
  | error fault => exact ⟨.status fault, by rw [result, read]; rfl⟩
  | ok o =>
    have known : (ofRaw raw).result = .ok o := by rw [result, read]; rfl
    cases nameless.symm.trans (result_eq_ok_iff.mp known)

end ExitStatus

/-- Whatever a status holds, its two readers find the same outcome in it or none: an exit with the
second byte if the low seven bits are zero, and a death by the signal of these bits if they are the
number of a signal. No other status has an outcome, be it of a stop, of a traced process, of a death
by a signal without a name or of nothing known, and then the wait for a helper has failed. -/
theorem readers_agree (raw : RawStatus) :
    (∀ o, (ExitStatus.ofRaw raw).result = .ok o ↔
      ∃ s, WaitStatus.ofRaw raw = .ok s ∧ s.outcome? = some o) ∧
    (raw.signalBits = 0 → (ExitStatus.ofRaw raw).result = .ok (.exited raw.codeBits)) ∧
    (1 ≤ raw.signalBits.toNat → raw.signalBits.toNat ≤ 31 →
      ∃ signal : Signal, signal.number = raw.signalBits.toNat ∧
        (ExitStatus.ofRaw raw).result = .ok (.signaled signal)) ∧
    (31 < raw.signalBits.toNat →
      (∀ s, WaitStatus.ofRaw raw = .ok s → s.outcome? = none) ∧
        ∃ fault, (ExitStatus.ofRaw raw).result = .error (.wait fault)) := by
  refine ⟨fun o => ExitStatus.result_eq_ok_iff.trans WaitStatus.exists_outcome?_iff.symm, ?_⟩
  rw [RawStatus.signalBits_eq_zero_iff, ← RawStatus.low_eq]
  refine ⟨?_, ?_, ?_⟩
  · intro zero
    rcases raw.low_cases with ⟨-, ended⟩ | ⟨set, -⟩ | ⟨alive, -⟩
    · rw [ExitStatus.result_eq_ok_iff, ended]
      rfl
    · exact absurd zero set
    · cases zero.symm.trans alive
  · intro least most
    rcases raw.low_cases with ⟨zero, -⟩ | ⟨-, -, ended⟩ | ⟨alive, -⟩
    · omega
    · obtain ⟨signal, same, named⟩ := Run.exists_number least most
      refine ⟨signal, same, ExitStatus.result_eq_ok_iff.mpr ?_⟩
      rw [ended, Option.bind_some, named]
    · rw [alive] at most
      exact absurd most (by decide)
  · intro high
    have nameless : raw.ending?.bind Ending.outcome? = none := by
      rcases raw.low_cases with ⟨zero, -⟩ | ⟨-, -, ended⟩ | ⟨-, unended⟩
      · omega
      · rw [ended, Option.bind_some, Ending.outcome?_of_high high]
      · rw [unended, Option.bind_none]
    refine ⟨?_, ExitStatus.result_of_nameless nameless⟩
    intro s read
    cases known : s.outcome? with
    | none => rfl
    | some o => cases nameless.symm.trans (WaitStatus.exists_outcome?_iff.mp ⟨s, read, known⟩)

/-- A death by SIGSEGV with memory dumped, in a word with more bits set above; and a stop in which
the number of that signal stands in the second byte. -/
theorem readers_agree_segv :
    (1 ≤ (RawStatus.mk 0x5a008b).signalBits.toNat ∧ (RawStatus.mk 0x5a008b).signalBits.toNat ≤ 31 ∧
      (ExitStatus.ofRaw ⟨0x5a008b⟩).result = .ok (.signaled .segv)) ∧
    (31 < (RawStatus.mk 0x0b7f).signalBits.toNat ∧
      WaitStatus.ofRaw ⟨0x0b7f⟩ = .ok (.stopped .segv) ∧
      ∃ fault, (ExitStatus.ofRaw ⟨0x0b7f⟩).result = .error (.wait fault)) := by
  obtain ⟨-, -, named, -⟩ := readers_agree ⟨0x5a008b⟩
  obtain ⟨-, -, -, nameless⟩ := readers_agree ⟨0x0b7f⟩
  obtain ⟨signal, number, result⟩ := named (by decide) (by decide)
  have same : some Signal.segv = some signal := Signal.ofNumber?_eq_some_iff.mpr number
  obtain rfl := Option.some.inj same
  exact ⟨⟨by decide, by decide, result⟩, by decide, rfl, (nameless (by decide)).2⟩

end NamespaceEntry
