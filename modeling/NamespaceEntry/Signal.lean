/-!
# Signals

The 31 standard signals, with their numbers on Linux. Numbers above 31 name real-time
signals, which can kill a process but have no `Signal`.
-/

namespace NamespaceEntry

inductive Signal where
  | hup | int | quit | ill | trap | abrt | bus | fpe
  | kill | usr1 | segv | usr2 | pipe | alrm | term | stkflt
  | chld | cont | stop | tstp | ttin | ttou | urg | xcpu
  | xfsz | vtalrm | prof | winch | io | pwr | sys
  deriving DecidableEq, Repr

namespace Signal

def all : List Signal :=
  [.hup, .int, .quit, .ill, .trap, .abrt, .bus, .fpe, .kill, .usr1, .segv, .usr2, .pipe, .alrm,
   .term, .stkflt, .chld, .cont, .stop, .tstp, .ttin, .ttou, .urg, .xcpu, .xfsz, .vtalrm,
   .prof, .winch, .io, .pwr, .sys]

def number : Signal → Nat
  | .hup => 1
  | .int => 2
  | .quit => 3
  | .ill => 4
  | .trap => 5
  | .abrt => 6
  | .bus => 7
  | .fpe => 8
  | .kill => 9
  | .usr1 => 10
  | .segv => 11
  | .usr2 => 12
  | .pipe => 13
  | .alrm => 14
  | .term => 15
  | .stkflt => 16
  | .chld => 17
  | .cont => 18
  | .stop => 19
  | .tstp => 20
  | .ttin => 21
  | .ttou => 22
  | .urg => 23
  | .xcpu => 24
  | .xfsz => 25
  | .vtalrm => 26
  | .prof => 27
  | .winch => 28
  | .io => 29
  | .pwr => 30
  | .sys => 31

/-- The signal of a number, if the number names a standard signal. -/
def ofNumber? (n : Nat) : Option Signal := all.find? fun s => s.number == n

def name : Signal → String
  | .hup => "SIGHUP"
  | .int => "SIGINT"
  | .quit => "SIGQUIT"
  | .ill => "SIGILL"
  | .trap => "SIGTRAP"
  | .abrt => "SIGABRT"
  | .bus => "SIGBUS"
  | .fpe => "SIGFPE"
  | .kill => "SIGKILL"
  | .usr1 => "SIGUSR1"
  | .segv => "SIGSEGV"
  | .usr2 => "SIGUSR2"
  | .pipe => "SIGPIPE"
  | .alrm => "SIGALRM"
  | .term => "SIGTERM"
  | .stkflt => "SIGSTKFLT"
  | .chld => "SIGCHLD"
  | .cont => "SIGCONT"
  | .stop => "SIGSTOP"
  | .tstp => "SIGTSTP"
  | .ttin => "SIGTTIN"
  | .ttou => "SIGTTOU"
  | .urg => "SIGURG"
  | .xcpu => "SIGXCPU"
  | .xfsz => "SIGXFSZ"
  | .vtalrm => "SIGVTALRM"
  | .prof => "SIGPROF"
  | .winch => "SIGWINCH"
  | .io => "SIGIO"
  | .pwr => "SIGPWR"
  | .sys => "SIGSYS"

/-- Whether a process that takes no measures dies of the signal. The others are ignored or
stop the process. -/
def terminates : Signal → Bool
  | .chld | .cont | .urg | .winch | .stop | .tstp | .ttin | .ttou => false
  | _ => true

end Signal

end NamespaceEntry
