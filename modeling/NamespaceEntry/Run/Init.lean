import NamespaceEntry.Errno
import NamespaceEntry.Outcome

/-!
# The init of a process id namespace

The init waits for signals. It passes eight of them on to the command, and on `SIGCHLD` it
reaps every process that has ended, until the command is among them. A signal that is sent
again while it is pending is pending once.
-/

namespace NamespaceEntry

/-- A process below the init. -/
inductive Member where
  | command
  | orphan
  deriving DecidableEq, Repr

/-- An init that waits for its command. -/
structure Init where
  /-- The signals that have been sent and not taken. -/
  pending : List Signal := []
  /-- The processes that have ended and not been reaped, the first one first. -/
  zombies : List (Member × Ending) := []
  /-- The signals that have been passed on, the first one first. -/
  forwarded : List Signal := []
  commandAlive : Bool := true
  result : Option (Except Errno Outcome) := none
  deriving Repr

namespace Init

/-- The signals that are passed on to the command. -/
def forwards : List Signal := [.hup, .int, .quit, .term, .usr1, .usr2, .alrm, .winch]

/-- The signals that the init waits for. Others do not reach it. -/
def watched (s : Signal) : Bool := s == .chld || forwards.contains s

inductive Event where
  | sent (signal : Signal)
  | ended (member : Member) (ending : Ending)
  | took (signal : Signal)
  deriving DecidableEq, Repr

def raise (i : Init) (s : Signal) : Init :=
  if watched s && !i.pending.contains s then { i with pending := i.pending ++ [s] } else i

/-- Reaps every process that has ended. A process without an outcome is reaped too, but the
reaping ends there. -/
def drain (known : Option Outcome) :
    List (Member × Ending) → Except Errno (Option Outcome) × List (Member × Ending)
  | [] => (.ok known, [])
  | (member, ending) :: rest =>
    match ending.outcome? with
    | none => (.error .invalidArgument, rest)
    | some o => drain (if member = .command then some o else known) rest

/-- Reaps, and notes the end of the command or a failure. -/
def reap (i : Init) : Init :=
  let (result, zombies) := drain none i.zombies
  { i with
    zombies
    result := match result with
      | .ok none => none
      | .ok (some o) => some (.ok o)
      | .error errno => some (.error errno) }

def handle (i : Init) (s : Signal) : Init :=
  if s = .chld then i.reap else { i with forwarded := i.forwarded ++ [s] }

def bury (i : Init) (member : Member) (ending : Ending) : Init :=
  let buried := { i with zombies := i.zombies ++ [(member, ending)] }
  buried.raise .chld

def step (i : Init) : Event → Option Init
  | .sent s => some (i.raise s)
  | .ended .command ending =>
    if i.commandAlive then some ({ i with commandAlive := false }.bury .command ending) else none
  | .ended .orphan ending => some (i.bury .orphan ending)
  | .took s =>
    if i.result.isNone && i.pending.contains s then
      some ({ i with pending := i.pending.erase s }.handle s)
    else none

/-- The error that ends the wait when a signal was passed on. That the command is gone is none. -/
def refusal? : Except Errno Unit → Option Errno
  | .ok () | .error .noProcess => none
  | .error errno => some errno

/-- The pending signal that is taken next: the one with the least number. -/
def next? (i : Init) : Option Signal := Signal.all.find? i.pending.contains

end Init

end NamespaceEntry
