import NamespaceEntry.Conclusion
import NamespaceEntry.World

/-!
# The program

The program carries out its command line in a world that has no programs: it checks the
arguments and says what stands in the way.
-/

open NamespaceEntry

/-- The environment variables that choose programs. -/
def choiceVariables : List String :=
  [CommandLine.lxcStartChoice, CommandLine.uidToolChoice, CommandLine.gidToolChoice].map
    CommandLine.Choice.environmentName

def main (args : List String) : IO UInt32 := do
  let environment ← choiceVariables.filterMapM fun name => do
    return (← IO.getEnv name).map fun value => (name, Bytes.ofString value)
  let world : World := { files := { places := [(.ofPath procTarget, .directory)] } }
  let conclusion := conclude world.host ⟨2⟩ environment (args.map Bytes.ofString)
  for line in conclusion.outputText do
    IO.println line
  for line in conclusion.errorText do
    IO.eprintln line
  match conclusion.ending with
  | some (.exited code) => return code.toUInt32
  | _ => return ExitAction.failureCode.toUInt32
