import NamespaceEntry.Error

/-!
# Failures with their context

A subcommand that fails says what it was doing before it says what went wrong.
-/

namespace NamespaceEntry

inductive Context where
  | checkRanges
  | checkCommand
  | run (command : Command)
  | start (container : String)
  deriving DecidableEq, Repr

def Context.describe : Context → String
  | .checkRanges => "Invalid id ranges"
  | .checkCommand => "Invalid command"
  | .run command => "Failed to run " ++ command.describe
  | .start container => "Failed to start container " ++ container

structure Failure where
  context : Context
  cause : Error
  deriving DecidableEq, Repr

/-- The wording of an error, and of what lies behind it. -/
def Error.chain : Error → List String
  | .system errno => [Error.message (.system errno), errno.message]
  | e => [e.message]

def Failure.message (f : Failure) : String :=
  ": ".intercalate (f.context.describe :: f.cause.chain)

end NamespaceEntry
