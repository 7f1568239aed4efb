import NamespaceEntry.CommandLine.Level
import NamespaceEntry.Invocation

/-!
# The command line of the program

A subcommand chooses what to do: `spawn` starts a container, `nsexec` runs a command in new
namespaces, and `usernsexec` maps ids for it as well. A command follows `--` and is taken
byte for byte.
-/

namespace NamespaceEntry.CommandLine

/-- A command line that can be carried out. -/
structure Parsed where
  verbose : Bool
  invocation : Invocation
  deriving DecidableEq, Repr

inductive Subcommand where
  | spawn
  | nsexec
  | usernsexec
  | help
  deriving DecidableEq, Repr

def Subcommand.ofName? (name : Bytes) : Option Subcommand :=
  if name = Bytes.ofString "spawn" then some .spawn
  else if name = Bytes.ofString "nsexec" then some .nsexec
  else if name = Bytes.ofString "usernsexec" then some .usernsexec
  else if name = Bytes.ofString "help" then some .help
  else none

def lxcStartChoice : Choice := ⟨"lxc-start", "NSGATE_LXC_START", Container.defaultBinary⟩

def uidToolChoice : Choice := ⟨"newuidmap", "NSGATE_NEWUIDMAP", ({} : MappingTools).uidTool⟩

def gidToolChoice : Choice := ⟨"newgidmap", "NSGATE_NEWGIDMAP", ({} : MappingTools).gidTool⟩

def nameSlot : Slot := { name := "name", kind := .text }

def pathSlot : Slot := { name := "path", kind := .path }

def configSlot : Slot := { name := "config", kind := .path }

def rangesSlot : Slot := { name := "ranges", kind := .text, many := true }

def commandSlot : Slot := { name := "command", kind := .bytes, many := true }

def spawnLevel : Level := { choices := [lxcStartChoice], slots := [nameSlot, pathSlot, configSlot] }

def nsexecLevel : Level := { trailing := some commandSlot }

def usernsexecLevel : Level :=
  { choices := [uidToolChoice, gidToolChoice], slots := [rangesSlot], trailing := some commandSlot }

def spawnOf (m : Matched) : Invocation :=
  .spawn ⟨Utf8.lossy (m.value nameSlot), m.value pathSlot, m.value configSlot⟩
    (m.choice lxcStartChoice)

def nsexecOf (m : Matched) : Invocation := .nsexec (m.values commandSlot)

def usernsexecOf (m : Matched) : Invocation :=
  .usernsexec ⟨m.choice uidToolChoice, m.choice gidToolChoice⟩
    ((m.values rangesSlot).map Utf8.lossy) (m.values commandSlot)

/-- Looks for the subcommand that help is asked for. No subcommand has any of its own. -/
def helpFault : List Bytes → UsageFault
  | [] => .helpAsked
  | [name] => if (Subcommand.ofName? name).isSome then .helpAsked else .unknownSubcommand
  | _ => .unknownSubcommand

def readSubcommand (environment : List (String × Bytes)) (verbose : Bool) (args : List Bytes) :
    Subcommand → Except UsageFault Parsed
  | .spawn => level spawnLevel spawnOf
  | .nsexec => level nsexecLevel nsexecOf
  | .usernsexec => level usernsexecLevel usernsexecOf
  | .help => .error (helpFault args)
where
  level (l : Level) (invocation : Matched → Invocation) : Except UsageFault Parsed := do
    let m ← l.read environment args
    return ⟨verbose || m.verbose, invocation m⟩

/-- The fault of an argument that should be a subcommand. After `--` there is none. -/
def subcommandFault (escaped : Bool) (arg : Bytes) : UsageFault :=
  if escaped ∧ (Subcommand.ofName? arg).isSome then .unknownArgument else .unknownSubcommand

/-- Reads arguments up to the subcommand, and then what follows it. -/
def readFrom (environment : List (String × Bytes)) (m : Matched) :
    List Bytes → Except UsageFault Parsed
  | [] => .error (if m.verbose then .missingSubcommand else .helpForNothing)
  | arg :: rest =>
    if m.escaped then .error (subcommandFault true arg)
    else
      match Subcommand.ofName? arg with
      | some subcommand => readSubcommand environment m.verbose rest subcommand
      | none =>
        match shapeOf arg with
        | .escape => readFrom environment { m with escaped := true } rest
        | .long name value =>
          match Level.takeFlag? true m name value with
          | some (.ok m) => readFrom environment m rest
          | some (.error fault) => .error fault
          | none => .error .unknownArgument
        | .short letters =>
          match Level.takeLetters true m letters with
          | .ok m => readFrom environment m rest
          | .error fault => .error fault
        | .plain => .error (subcommandFault false arg)

def read (environment : List (String × Bytes)) (args : List Bytes) : Except UsageFault Parsed :=
  readFrom environment {} args

end NamespaceEntry.CommandLine
