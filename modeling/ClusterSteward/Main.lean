import ClusterSteward.CommandLine.Execution
import ClusterSteward.Tool.Rehearsal

/-!
# The program

The program runs its command line on the rehearsal in the file that a variable names. Without a
rehearsal no tool can be started.
-/

namespace ClusterSteward.CommandLine

/-- The variable that names the file with the rehearsal. -/
def rehearsalVariable : String :=
  "KEYCL_REHEARSAL"

/-- The values of the environment variables that stand in for general options. -/
def readVariables : IO (List (String × String)) := do
  let values ← variableNames.mapM fun name ↦ do
    return (← IO.getEnv name).map fun value ↦ (name, value)
  return values.filterMap id

/-- The environment in which the tool is run. -/
def readEnvironment : IO Environment := do
  match ← IO.getEnv rehearsalVariable with
  | some file => return Rehearsal.environment (← IO.FS.readFile file)
  | none => return { obstacle := fun _ ↦ some .noSuchFile, behaviour := fun _ _ ↦ .hang }

end ClusterSteward.CommandLine

open ClusterSteward.CommandLine in
/-- Run the command line, print its result, and give its exit code. -/
def main (arguments : List String) : IO UInt32 := do
  let settings ← readVariables
  let environment ← readEnvironment
  let word ← IO.rand 0 (UInt64.size - 1)
  let outcome := run arguments settings environment (UInt64.ofNat word)
  IO.print outcome.output
  IO.eprint outcome.complaint
  return UInt32.ofNat outcome.exitCode
