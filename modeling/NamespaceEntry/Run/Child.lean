import NamespaceEntry.Channel.Message
import NamespaceEntry.Run.Event
import NamespaceEntry.Run.Init

/-!
# The child of a run

The child prepares its mounts, says that it is ready and waits to be let go. Then it
executes the command itself, or as the init of a process id namespace it executes the
command below itself and reports how the command ended.
-/

namespace NamespaceEntry

namespace Command

def launch (c : Command) : Launch := ⟨c.program, c.arguments⟩

end Command

namespace InitCalls

/-- Why an init cannot fork its command, if it cannot. It blocks its signals first. -/
def unforked? (c : InitCalls) : Option Errno := c.blockSignals <|> c.fork

/-- Why an init that is not done cannot go on, if it cannot: waiting fails, or the next signal must
not be passed on. -/
def hindrance? (c : InitCalls) (i : Init) : Option Errno :=
  c.awaitSignal i.forwarded <|>
    (i.next?.filter (· ≠ .chld)).bind fun signal => Init.refusal? (c.relay i.forwarded signal)

end InitCalls

/-- The exit code of a process that could not execute its command. -/
def Errno.execCode : Errno → UInt8
  | .noEntry | .notDirectory => 127
  | _ => 126

namespace Child

structure Setting where
  namespaces : Namespaces
  procTarget : Bytes
  command : Command
  host : Host

inductive CommandPhase where
  /-- It still holds a copy of the child's end. -/
  | forked
  | running (script : List Act) (ending : Ending)
  | ended
  deriving DecidableEq, Repr

inductive Phase where
  | unborn
  /-- It still holds a copy of the parent's end. -/
  | inheriting
  | mounting
  | announcing
  | waiting
  | executing
  | forking
  | supervising (init : Init) (command : CommandPhase) (orphans : List Ending)
  | reporting (outcome : Outcome)
  /-- It has become the command. -/
  | running (ending : Ending)
  | ended (ending : Ending)

/-- A child, the pair of sockets and what has happened so far. -/
structure State where
  socket : Socket := {}
  phase : Phase := .unborn
  trace : List Event := []

def State.log (s : State) (events : List Event) : State := { s with trace := s.trace ++ events }

def State.goto (s : State) (phase : Phase) : State := { s with phase }

/-- The process exits, and so lets go of its end. -/
def State.exit (s : State) (code : UInt8) : State :=
  { s with socket := s.socket.release .child, phase := .ended (.exited code) }

/-- The process prints why it cannot go on and exits. -/
def State.fail (s : State) (d : Diagnostic) (code : UInt8 := ExitAction.failureCode) : State :=
  (s.log [.diagnostic d]).exit code

def announce (s : State) : State :=
  let (result, socket) := s.socket.signal .child .ready
  let s := { s with socket }
  match result with
  | .ok () => (s.log [.readySent]).goto .waiting
  | .error e => s.fail (.notReady e)

/-- Waits to be let go; the child is blocked while nothing has arrived. -/
def waitGo? (w : Setting) (s : State) : Option State :=
  (s.socket.await? .child .go).map fun (result, socket) =>
    let s := { s with socket }
    match result with
    | .ok () =>
      (s.log [.goReceived]).goto (if w.namespaces.pid then .forking else .executing)
    | .error e => s.fail (.notReleased w.command e)

/-- Replaces the child by the command. Its end is closed on the way. -/
def exec (w : Setting) (s : State) : State :=
  let s := s.log [.execAttempted w.command.argv]
  match w.host.start .command w.command.launch with
  | .ok program =>
    ({ s with socket := s.socket.release .child }.log
      [.commandStarted w.command.launch false]).goto (.running program.ending)
  | .error errno => s.fail (.notExecuted w.command errno) errno.execCode

/-- The child blocks the signals that it waits for as an init, and forks. -/
def fork (w : Setting) (s : State) : State :=
  match w.host.init.unforked? with
  | some errno => s.fail (.initFailed (.system errno))
  | none => { s with socket := s.socket.share .child }.goto (.supervising {} .forked [])

/-- The init exits, and the command below it ends with it. -/
def failInit (s : State) (command : CommandPhase) (errno : Errno) : State :=
  let s := if command = .forked then { s with socket := s.socket.release .child } else s
  s.fail (.initFailed (.system errno))

/-- The init takes the next signal, or ends its wait. -/
def superviseStep? (w : Setting) (s : State) (init : Init) (command : CommandPhase)
    (orphans : List Ending) : Option State :=
  match init.result with
  | some (.ok o) => some (s.goto (.reporting o))
  | some (.error errno) => some (failInit s command errno)
  | none =>
    match w.host.init.hindrance? init with
    | some errno => some (failInit s command errno)
    | none => do
      let signal ← init.next?
      let init ← init.step (.took signal)
      let s := if signal = .chld then s else s.log [.forwarded signal]
      return s.goto (.supervising init command orphans)

/-- Reports how the command ended, and exits in a like way. -/
def report (s : State) (o : Outcome) : State :=
  let (result, socket) := s.socket.report o
  let s := { s with socket }
  let s := match result with
    | .ok () => s.log [.reported o]
    | .error e => s.log [.diagnostic (.notReported o e)]
  s.goto (.ended (.exited o.shellCode))

/-- The child takes a step, if it is not blocked. -/
def step (w : Setting) (s : State) : Option State :=
  match s.phase with
  | .unborn | .running _ | .ended _ => none
  | .inheriting => some ({ s with socket := s.socket.release .parent }.goto .mounting)
  | .mounting =>
    match w.host.mount w.namespaces w.procTarget with
    | .ok () => some (s.goto .announcing)
    | .error fault => some (s.fail (.setup (.resource fault)))
  | .announcing => some (announce s)
  | .waiting => waitGo? w s
  | .executing => some (exec w s)
  | .forking => some (fork w s)
  | .supervising init command orphans => superviseStep? w s init command orphans
  | .reporting o => some (report s o)

/-- The forked process prints why it cannot become the command and exits. -/
def failForked? (s : State) (init : Init) (orphans : List Ending) (d : Diagnostic)
    (code : UInt8 := ExitAction.failureCode) : Option State := do
  let init ← init.step (.ended .command (.exited code))
  return (s.log [.diagnostic d]).goto (.supervising init .ended orphans)

/-- The forked process unblocks its signals and becomes the command, or exits. Either way it lets
go of its copy of the child's end. -/
def execForked? (w : Setting) (s : State) (init : Init) (orphans : List Ending) : Option State :=
  let s := { s with socket := s.socket.release .child }
  match w.host.init.restoreSignals with
  | some errno => failForked? s init orphans (.maskKept errno)
  | none =>
    let s := s.log [.execAttempted w.command.argv]
    match w.host.start .command w.command.launch with
    | .ok program =>
      some ((s.log [.commandStarted w.command.launch true]).goto
        (.supervising init (.running program.script program.ending) orphans))
    | .error errno => failForked? s init orphans (.notExecuted w.command errno) errno.execCode

def act? (s : State) (init : Init) (act : Act) (script : List Act) (ending : Ending)
    (orphans : List Ending) : Option State :=
  let command := CommandPhase.running script ending
  match act with
  | .signal signal => do
    let init ← init.step (.sent signal)
    return s.goto (.supervising init command orphans)
  | .orphan orphan => some (s.goto (.supervising init command (orphans ++ [orphan])))
  | .await signal =>
    if init.forwarded.contains signal then some (s.goto (.supervising init command orphans))
    else none

def commandStep (w : Setting) (s : State) : Option State :=
  match s.phase with
  | .running ending => some ((s.log [.commandEnded ending]).goto (.ended ending))
  | .supervising init .forked orphans => execForked? w s init orphans
  | .supervising init (.running (act :: script) ending) orphans =>
    act? s init act script ending orphans
  | .supervising init (.running [] ending) orphans => do
    let init ← init.step (.ended .command ending)
    return (s.log [.commandEnded ending]).goto (.supervising init .ended orphans)
  | _ => none

def orphanStep (s : State) (index : Nat) : Option State :=
  match s.phase with
  | .supervising init command orphans => do
    let ending ← orphans[index]?
    let init ← init.step (.ended .orphan ending)
    return s.goto (.supervising init command (orphans.eraseIdx index))
  | _ => none

/-- The child is killed by a signal. All that it holds is closed, and a command below it
dies with it. -/
def killStep (s : State) (signal : Nat) : Option State :=
  let s' := { s with socket := s.socket.release .child }.goto (.ended (.killed signal))
  match s.phase with
  | .unborn | .ended _ => none
  | .inheriting => some { s' with socket := s'.socket.release .parent }
  | .running _ => some (s.goto (.ended (.killed signal)))
  | .supervising _ .forked _ => some { s' with socket := s'.socket.release .child }
  | _ => some s'

/-- A process on the child's side of a run. -/
inductive Actor where
  | child
  | orphan (index : Nat)
  | command
  deriving DecidableEq, Repr

/-- A process takes a step, if it is not blocked. -/
def stepOf (w : Setting) (s : State) : Actor → Option State
  | .child => step w s
  | .orphan index => orphanStep s index
  | .command => commandStep w s

/-- The first process that can take a step does so. -/
def advance (w : Setting) (s : State) : Option State :=
  step w s <|> orphanStep s 0 <|> commandStep w s

/-- Steps until every process is blocked or has ended. -/
def complete (w : Setting) : Nat → State → State
  | 0, s => s
  | fuel + 1, s =>
    match advance w s with
    | some s => complete w fuel s
    | none => s

/-- More steps than the child's side of a run can take. -/
def Setting.bound (w : Setting) : Nat :=
  match w.host.start .command w.command.launch with
  | .ok program => 32 + 4 * program.script.length
  | .error _ => 32

end Child

end NamespaceEntry
