import NamespaceEntry.Text.Quoted

/-!
# Commands

A command is an argument vector that can be executed: it has a program that is not empty,
and no argument holds a NUL byte.
-/

namespace NamespaceEntry

structure Command where
  program : Bytes
  arguments : List Bytes
  program_ne_nil : program ≠ []
  no_nul : ∀ a ∈ program :: arguments, a.nulPosition? = none
  deriving DecidableEq, Repr

namespace Command

/-- The argument vector, with the program in front. -/
def argv (c : Command) : List Bytes := c.program :: c.arguments

inductive Fault where
  | empty
  | nul (argument : Bytes) (position : Nat)
  deriving DecidableEq, Repr

def Fault.message : Fault → String
  | .empty => "Command cannot be empty"
  | .nul argument position =>
    "Invalid argument " ++ Quoted.ofBytes argument ++
      ": nul byte found in provided data at position: " ++ toString position

def firstNul? (argv : List Bytes) : Option (Bytes × Nat) :=
  argv.findSome? fun a => a.nulPosition?.map fun position => (a, position)

theorem nulPosition?_of_firstNul?_eq_none {argv : List Bytes} (h : firstNul? argv = none) :
    ∀ a ∈ argv, a.nulPosition? = none := by
  intro a ha
  simpa using List.findSome?_eq_none_iff.mp h a ha

/-- Makes a command. A NUL byte anywhere is reported before an empty program. -/
def make : List Bytes → Except Fault Command
  | [] => .error .empty
  | program :: arguments =>
    match no_nul : firstNul? (program :: arguments) with
    | some (argument, position) => .error (.nul argument position)
    | none =>
      if program_ne_nil : program = [] then .error .empty
      else .ok ⟨program, arguments, program_ne_nil, nulPosition?_of_firstNul?_eq_none no_nul⟩

/-- The command in words: its arguments with a space between each two. -/
def describe (c : Command) : String := String.intercalate " " (c.argv.map Utf8.lossy)

end Command

end NamespaceEntry
