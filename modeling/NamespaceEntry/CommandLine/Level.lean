import NamespaceEntry.Text.Utf8

/-!
# One level of a command line

A level is what may follow a subcommand: flags, options with a value, and arguments by
position. `Level.read` takes one argument at a time. The value of an option or of an
argument by position is checked only when the next one begins, so that an argument which
is unknown is reported before a bad value in front of it.
-/

namespace NamespaceEntry.CommandLine

/-- Why a command line is not carried out. The first two are asked for. -/
inductive UsageFault where
  | helpAsked
  | versionAsked
  | helpForNothing
  | missingSubcommand
  | unknownSubcommand
  | unknownArgument
  | missingArgument
  | repeatedArgument
  | unwantedValue
  | invalidValue
  | invalidText
  deriving DecidableEq, Repr

/-- The exit code of a program that does not carry out its command line. -/
def UsageFault.exitCode : UsageFault → UInt8
  | .helpAsked | .versionAsked => 0
  | _ => 2

inductive ValueKind where
  /-- Any bytes. -/
  | bytes
  /-- Any bytes but none at all. -/
  | path
  /-- UTF-8. -/
  | text
  deriving DecidableEq, Repr

def ValueKind.check (kind : ValueKind) (value : Bytes) : Except UsageFault Unit :=
  match kind with
  | .bytes => .ok ()
  | .path => if value.isEmpty then .error .invalidValue else .ok ()
  | .text => if (Utf8.decode? value).isSome then .ok () else .error .invalidText

/-- An option with a value that is a path. -/
structure Choice where
  name : String
  /-- The environment variable that stands for the option where it is not given. -/
  environmentName : String
  fallback : Bytes
  deriving DecidableEq, Repr

/-- An argument by position. -/
structure Slot where
  name : String
  kind : ValueKind
  /-- Whether it takes all arguments from its position on. -/
  many : Bool := false
  deriving DecidableEq, Repr

/-- What may follow a subcommand. -/
structure Level where
  choices : List Choice := []
  slots : List Slot := []
  /-- What the arguments after `--` are, if they fill no slot. -/
  trailing : Option Slot := none
  deriving DecidableEq, Repr

/-- An option or an argument whose values have not been checked. -/
inductive Pending where
  | none
  /-- An option whose value has not come. -/
  | bare (choice : Choice)
  | choice (choice : Choice) (value : Bytes)
  | slot (slot : Slot) (values : List Bytes)
  deriving DecidableEq, Repr

/-- What has been read of a level. -/
structure Matched where
  verbose : Bool := false
  options : List (String × Bytes) := []
  /-- The arguments by position, with the names of their slots. -/
  arguments : List (String × Bytes) := []
  pending : Pending := .none
  escaped : Bool := false
  filled : Nat := 0
  deriving DecidableEq, Repr

namespace Matched

def addChoice (m : Matched) (choice : Choice) (value : Bytes) : Except UsageFault Matched := do
  if (m.options.lookup choice.name).isSome then throw .repeatedArgument
  ValueKind.path.check value
  return { m with options := m.options ++ [(choice.name, value)] }

def settle (m : Matched) : Except UsageFault Matched :=
  let settled := { m with pending := .none }
  match m.pending with
  | .none => .ok m
  | .bare _ => .error .invalidValue
  | .choice choice value => settled.addChoice choice value
  | .slot slot values => do
    values.forM slot.kind.check
    return { settled with arguments := m.arguments ++ values.map fun v => (slot.name, v) }

def setVerbose (m : Matched) : Except UsageFault Matched := do
  let m ← m.settle
  if m.verbose then throw .repeatedArgument
  return { m with verbose := true }

/-- Asks for help or for the version, if nothing in front of it is wrong. -/
def ask (m : Matched) (fault : UsageFault) : Except UsageFault Matched := do
  let _ ← m.settle
  throw fault

end Matched

/-- The argument after which there are no options. -/
def escape : Bytes := Bytes.ofString "--"

inductive Shape where
  | escape
  | long (name : Bytes) (value : Option Bytes)
  | short (letters : Bytes)
  | plain
  deriving DecidableEq, Repr

def splitValue (bytes : Bytes) : Bytes × Option Bytes :=
  let name := bytes.takeWhile (· != Bytes.ascii '=')
  let rest := bytes.drop name.length
  (name, match rest with
    | [] => none
    | _ :: value => some value)

/-- How an argument looks. A lone dash is plain. -/
def shapeOf (arg : Bytes) : Shape :=
  let dash := Bytes.ascii '-'
  match arg with
  | a :: b :: rest =>
    if a = dash ∧ b = dash then
      if rest = [] then .escape
      else
        let (name, value) := splitValue rest
        .long name value
    else if a = dash then .short (b :: rest)
    else .plain
  | _ => .plain

namespace Level

def takeLetters (versioned : Bool) (m : Matched) : Bytes → Except UsageFault Matched
  | [] => .ok m
  | b :: rest =>
    if b = Bytes.ascii 'v' then do takeLetters versioned (← m.setVerbose) rest
    else if b = Bytes.ascii 'h' then m.ask .helpAsked
    else if versioned ∧ b = Bytes.ascii 'V' then m.ask .versionAsked
    else .error .unknownArgument

def takeFlag? (versioned : Bool) (m : Matched) (name : Bytes) (value : Option Bytes) :
    Option (Except UsageFault Matched) :=
  let flag (act : Except UsageFault Matched) : Option (Except UsageFault Matched) :=
    some (if value.isSome then .error .unwantedValue else act)
  if name = Bytes.ofString "verbose" then flag m.setVerbose
  else if name = Bytes.ofString "help" then flag (m.ask .helpAsked)
  else if versioned ∧ name = Bytes.ofString "version" then flag (m.ask .versionAsked)
  else none

def takeLong (l : Level) (m : Matched) (name : Bytes) (value : Option Bytes) :
    Except UsageFault Matched :=
  match takeFlag? false m name value with
  | some result => result
  | none =>
    match l.choices.find? fun c => Bytes.ofString c.name = name with
    | none => .error .unknownArgument
    | some choice => do
      let m ← m.settle
      match value with
      | some value => m.addChoice choice value
      | none => return { m with pending := .bare choice }

def slotFor? (l : Level) (m : Matched) : Option Slot :=
  if m.escaped then l.trailing <|> l.slots[m.filled]? else l.slots[m.filled]?

def takePlain (l : Level) (m : Matched) (arg : Bytes) : Except UsageFault Matched :=
  match l.slotFor? m with
  | none => .error .unknownArgument
  | some slot =>
    let start : Except UsageFault Matched := do
      let m ← m.settle
      return { m with
        pending := .slot slot [arg]
        filled := if slot.many then m.filled else m.filled + 1 }
    match m.pending with
    | .slot other values =>
      if other = slot ∧ slot.many then .ok { m with pending := .slot slot (values ++ [arg]) }
      else start
    | _ => start

def step (l : Level) (m : Matched) (arg : Bytes) : Except UsageFault Matched :=
  if m.escaped then l.takePlain m arg
  else
    match shapeOf arg with
    | .escape => .ok { m with escaped := true }
    | .long name value => l.takeLong m name value
    | .short letters => takeLetters false m letters
    | .plain =>
      match m.pending with
      | .bare choice => .ok { m with pending := .choice choice arg }
      | _ => l.takePlain m arg

/-- Gives an option that was not given the value of its environment variable. -/
def fromEnvironment (environment : List (String × Bytes)) (m : Matched) (choice : Choice) :
    Except UsageFault Matched :=
  if (m.options.lookup choice.name).isSome then .ok m
  else
    match environment.lookup choice.environmentName with
    | some value => m.addChoice choice value
    | none => .ok m

def given (m : Matched) (slot : Slot) : Bool := (m.arguments.lookup slot.name).isSome

/-- Reads the arguments of a level. Bad values come before missing arguments. -/
def read (l : Level) (environment : List (String × Bytes)) (args : List Bytes) :
    Except UsageFault Matched := do
  let m ← (← args.foldlM l.step {}).settle
  let m ← l.choices.foldlM (fromEnvironment environment) m
  if (l.slots ++ l.trailing.toList).all (given m) then return m else throw .missingArgument

end Level

namespace Matched

def choice (m : Matched) (c : Choice) : Bytes := (m.options.lookup c.name).getD c.fallback

def values (m : Matched) (s : Slot) : List Bytes :=
  (m.arguments.filter fun a => a.1 == s.name).map (·.2)

def value (m : Matched) (s : Slot) : Bytes := (m.values s).headD []

end Matched

end NamespaceEntry.CommandLine
