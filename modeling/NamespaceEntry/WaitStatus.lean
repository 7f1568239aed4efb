import NamespaceEntry.Errno
import NamespaceEntry.Outcome

/-!
# Wait statuses

The kernel packs how a process changed state into a 32-bit word. Two readers give it a
meaning: `WaitStatus.ofRaw` names each kind of change, and `ExitStatus` looks only for an
ending. `WaitStatus.outcome?` and `ExitStatus.outcome` read an outcome off either.
-/

namespace NamespaceEntry

/-- A wait status as the kernel packs it. -/
structure RawStatus where
  bits : UInt32
  deriving DecidableEq, Repr

namespace RawStatus

/-- The low seven bits: zero for an exit, else the signal of a death or the mark of a stop. -/
def low (raw : RawStatus) : Nat := raw.bits.toNat % 128

/-- The low byte; its upper bit tells that memory was dumped. -/
def lowByte (raw : RawStatus) : Nat := raw.bits.toNat % 256

/-- The second byte: an exit code or the signal of a stop. -/
def second (raw : RawStatus) : Nat := raw.bits.toNat / 256 % 256

/-- The upper half: the event of a traced process. -/
def upper (raw : RawStatus) : Nat := raw.bits.toNat / 65536

def signed (raw : RawStatus) : Int := raw.bits.toInt32.toInt

def continued : RawStatus := ⟨0xffff⟩

def stopMark : Nat := 0x7f

end RawStatus

inductive WaitStatus where
  | exited (code : Int32)
  | signaled (signal : Signal) (dumped : Bool)
  | stopped (signal : Signal)
  | tracedEvent (signal : Signal) (event : Nat)
  | tracedCall
  | continued
  | stillAlive
  deriving DecidableEq, Repr

namespace WaitStatus

/-- The signal of a number, or the failure of a call that meets an unknown number. -/
def signal (n : Nat) : Except Errno Signal :=
  match Signal.ofNumber? n with
  | some s => .ok s
  | none => .error .invalidArgument

/-- A stop by the trap signal with its upper bit set marks a traced system call. -/
def tracedCallStop : Nat := 5 + 0x80

def ofRaw (raw : RawStatus) : Except Errno WaitStatus :=
  if raw.low = 0 then
    .ok (.exited (Int32.ofNat raw.second))
  else if raw.lowByte = RawStatus.stopMark then
    if raw.second = tracedCallStop then .ok .tracedCall
    else if raw.upper = 0 then (signal raw.second).map .stopped
    else (signal raw.second).map (.tracedEvent · raw.upper)
  else if raw = RawStatus.continued then
    .ok .continued
  else
    (signal raw.low).map (.signaled · (128 ≤ raw.lowByte))

/-- The outcome of a process that ended; an exit keeps the low eight bits of its code. -/
def outcome? : WaitStatus → Option Outcome
  | .exited code => some (.exited code.toUInt32.toUInt8)
  | .signaled signal _ => some (.signaled signal)
  | _ => none

end WaitStatus

/-- What the status of a finished child says besides its ending. -/
inductive ExitStatus where
  | exited (code : UInt8)
  | killed (signal : Nat) (dumped : Bool)
  | stopped (signal : Nat)
  | continued
  | unrecognised (raw : RawStatus)
  deriving DecidableEq, Repr

namespace ExitStatus

def ofRaw (raw : RawStatus) : ExitStatus :=
  if raw.low = 0 then .exited raw.second.toUInt8
  else if raw.low < RawStatus.stopMark then .killed raw.low (128 ≤ raw.lowByte)
  else if raw.lowByte = RawStatus.stopMark then .stopped raw.second
  else if raw = RawStatus.continued then .continued
  else .unrecognised raw

/-- The status of an ending, in which memory may have been dumped. -/
def ofEnding (e : Ending) (dumped : Bool := false) : ExitStatus :=
  match e with
  | .exited code => .exited code
  | .killed signal => .killed signal dumped

/-- A signal number, with its name if it has one. -/
def describeSignal (n : Nat) : String :=
  match Signal.ofNumber? n with
  | some s => toString n ++ " (" ++ s.name ++ ")"
  | none => toString n

def describe : ExitStatus → String
  | .exited code => "exit status: " ++ toString code.toNat
  | .killed signal dumped =>
    "signal: " ++ describeSignal signal ++ if dumped then " (core dumped)" else ""
  | .stopped signal => "stopped (not terminated) by signal: " ++ describeSignal signal
  | .continued => "continued (WIFCONTINUED)"
  | .unrecognised raw =>
    "unrecognised wait status: " ++ toString raw.signed ++ " 0x" ++
      String.ofList (Nat.toDigits 16 raw.bits.toNat)

inductive Fault where
  | unknownSignal (signal : Nat)
  | notEnded (status : ExitStatus)
  deriving DecidableEq, Repr

def outcome : ExitStatus → Except Fault Outcome
  | .exited code => .ok (.exited code)
  | .killed signal _ =>
    match Signal.ofNumber? signal with
    | some s => .ok (.signaled s)
    | none => .error (.unknownSignal signal)
  | status => .error (.notEnded status)

def Fault.message : Fault → String
  | .unknownSignal signal =>
    "unknown termination signal " ++ toString signal ++ ": " ++ Errno.invalidArgument.message
  | .notEnded status => "process neither exited nor was signaled: " ++ status.describe

end ExitStatus

end NamespaceEntry
