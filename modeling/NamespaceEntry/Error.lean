import NamespaceEntry.Id.Tokens
import NamespaceEntry.Command
import NamespaceEntry.WaitStatus

/-!
# Errors of a run

An error is a cause of one of eight kinds. The wording of every cause is in `message`.
Each kind also has a cause that is only words, for a helper that explains itself.
-/

namespace NamespaceEntry

inductive ConfigFault where
  | kind (token : String)
  | range (fault : IdRange.Fault)
  | mapping (fault : IdMapping.Fault)
  | tokens (fault : RangeTokens.Fault)
  | command (fault : Command.Fault)
  | other (text : String)
  deriving DecidableEq, Repr

def ConfigFault.message : ConfigFault → String
  | .kind token => "unknown id kind '" ++ token ++ "'"
  | .range fault => fault.message
  | .mapping fault => fault.message
  | .tokens fault => fault.message
  | .command fault => fault.message
  | .other text => text

/-- Why a child or its surroundings cannot be set up. -/
inductive ResourceFault where
  | channel (errno : Errno)
  | clone (errno : Errno)
  | privateMounts (errno : Errno)
  | procMount (target : Bytes) (errno : Errno)
  | other (text : String)
  deriving DecidableEq, Repr

def ResourceFault.message : ResourceFault → String
  | .channel errno => "Failed to create sync channel: " ++ errno.message
  | .clone errno => "clone failed: " ++ errno.message
  | .privateMounts errno => "entering private mount namespace failed: " ++ errno.message
  | .procMount target errno =>
    "mounting proc on " ++ Utf8.lossy target ++ " failed: " ++ errno.message
  | .other text => text

inductive Handshake where
  | ready
  | go
  deriving DecidableEq, Repr

def Handshake.name : Handshake → String
  | .ready => "ready"
  | .go => "go"

inductive ProtocolFault where
  | endedEarly
  | unexpected (expected got : Handshake)
  | malformed (expected : Handshake) (size : Nat)
  | unknownSignal (number : Nat)
  | malformedReport (size : Nat)
  | other (text : String)
  deriving DecidableEq, Repr

def ProtocolFault.message : ProtocolFault → String
  | .endedEarly => "namespace child exited before signaling readiness"
  | .unexpected expected got => "expected " ++ expected.name ++ ", got " ++ got.name
  | .malformed expected size =>
    "malformed handshake while waiting for " ++ expected.name ++ " (" ++ toString size ++ " bytes)"
  | .unknownSignal number =>
    "exit report names unknown signal " ++ toString number ++ ": " ++
      Errno.invalidArgument.message
  | .malformedReport size => "malformed exit report (" ++ toString size ++ " bytes)"
  | .other text => text

inductive LaunchFault where
  | refused (errno : Errno)
  | nul
  deriving DecidableEq, Repr

def LaunchFault.message : LaunchFault → String
  | .refused errno => errno.systemMessage
  | .nul => "nul byte found in provided data"

inductive MappingFault where
  | launch (tool : Bytes) (fault : LaunchFault)
  | failed (tool : Bytes) (code : UInt8)
  | terminated (tool : Bytes) (status : ExitStatus)
  | other (text : String)
  deriving DecidableEq, Repr

def MappingFault.message : MappingFault → String
  | .launch tool fault => "failed to run " ++ Utf8.lossy tool ++ ": " ++ fault.message
  | .failed tool code => Utf8.lossy tool ++ " exited with status " ++ toString code.toNat
  | .terminated tool status =>
    Utf8.lossy tool ++ " terminated abnormally: " ++ status.describe
  | .other text => text

/-- Why the end of a process is not known. -/
inductive WaitFault where
  | failed (process : ProcessId) (errno : Errno)
  | status (fault : ExitStatus.Fault)
  | other (text : String)
  deriving DecidableEq, Repr

def WaitFault.message : WaitFault → String
  | .failed process errno => "waitpid(" ++ process.describe ++ ") failed: " ++ errno.message
  | .status fault => fault.message
  | .other text => text

inductive RuntimeFault where
  | launch (binary : Bytes) (fault : LaunchFault)
  | other (text : String)
  deriving DecidableEq, Repr

def RuntimeFault.message : RuntimeFault → String
  | .launch binary fault => "failed to run " ++ Utf8.lossy binary ++ ": " ++ fault.message
  | .other text => text

/-- Why a run fails. -/
inductive Error where
  | invalidConfig (fault : ConfigFault)
  | resource (fault : ResourceFault)
  | channelClosed
  | protocol (fault : ProtocolFault)
  | mapping (kind : IdKind) (fault : MappingFault)
  | wait (fault : WaitFault)
  | waitInAbort (fault : WaitFault) (cause : Error)
  | runtime (fault : RuntimeFault)
  | system (errno : Errno)
  deriving DecidableEq, Repr

inductive ErrorKind where
  | invalidConfig
  | resource
  | channelClosed
  | protocol
  | mapping
  | wait
  | runtime
  | system
  deriving DecidableEq, Repr

namespace Error

def kind : Error → ErrorKind
  | .invalidConfig _ => .invalidConfig
  | .resource _ => .resource
  | .channelClosed => .channelClosed
  | .protocol _ => .protocol
  | .mapping _ _ => .mapping
  | .wait _ | .waitInAbort _ _ => .wait
  | .runtime _ => .runtime
  | .system _ => .system

def message : Error → String
  | .invalidConfig fault => "Invalid configuration: " ++ fault.message
  | .resource fault => "Resource error: " ++ fault.message
  | .channelClosed => "Sync channel closed by peer"
  | .protocol fault => "Protocol error: " ++ fault.message
  | .mapping kind fault => kind.name ++ " mapping failed: " ++ fault.message
  | .wait fault => "Wait error: " ++ fault.message
  | .waitInAbort fault cause =>
    "Wait error: Wait error: " ++ fault.message ++ " (while aborting after: " ++
      cause.message ++ ")"
  | .runtime fault => "Runtime error: " ++ fault.message
  | .system errno => "System error: " ++ errno.message

end Error

/-- The mapping that tokens write. What is wrong with them is a fault of the configuration. -/
def IdMapping.ofTokens (tokens : List String) : Except Error IdMapping :=
  (RangeTokens.read tokens).mapError fun fault => .invalidConfig (.tokens fault)

end NamespaceEntry
