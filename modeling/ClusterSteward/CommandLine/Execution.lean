import ClusterSteward.CommandLine.Invocation
import ClusterSteward.Document
import ClusterSteward.Tool.Administration

/-!
# Running a command line

A command line is read, its command is run by the admin tool on a machine, and the result is
printed as a document.
-/

namespace ClusterSteward.CommandLine

/-- What a run of the command line leaves behind: its exit code, what it printed to the output
stream and to the error stream, and the processes it started. -/
structure Outcome where
  exitCode : Nat
  output : String := ""
  complaint : String := ""
  started : List ProcessRecord := []
  deriving DecidableEq, Repr

/-- The exit code after a success. -/
def successCode : Nat := 0

/-- The exit code after a failed operation. -/
def failureCode : Nat := 1

/-- The exit code after a command line that cannot be read. -/
def usageCode : Nat := 2

/-- The exit code after an arithmetic fault. -/
def faultCode : Nat := 101

/-- The name and the version of the program. -/
def versionText : String :=
  "keycl 0.1.0\n"

/-- A short explanation of the command line. -/
def helpText : String :=
  "Usage: keycl [OPTIONS] <COMMAND>\n\nCommands:\n" ++
    String.join (commandNames.map fun name ↦ "  " ++ name ++ "\n")

/-- A result as a document on a line of its own. -/
def printed (document : Document) : String :=
  document.pretty 0 ++ "\n"

/-- What is printed about a problem. -/
def complaintOf (problem : String) : String :=
  "keycl: " ++ problem ++ "\n"

/-- The outcome of an operation that prints its result or its error by the given functions. -/
def outcomeOf {α ε : Type} (write : α → String) (message : ε → String) :
    Except ε α × Machine → Outcome
  | (.ok value, machine) =>
      { exitCode := successCode, output := write value, started := machine.started }
  | (.error cause, machine) =>
      { exitCode := failureCode
        complaint := complaintOf (message cause)
        started := machine.started }

/-- The outcome of an operation of the tool. -/
def outcomeOfTool {α : Type} (write : α → String) : Except ToolError α × Machine → Outcome :=
  outcomeOf write ToolError.message

/-- The outcome of a migration. -/
def outcomeOfMigration :
    Counted (Except MigrationError Migrated × Machine) → Outcome
  | .ok result =>
      outcomeOf (fun migrated ↦ printed (.ofMigrated migrated)) MigrationError.message result
  | .error fault => { exitCode := faultCode, complaint := complaintOf fault.message }

/-- Run an invocation. The random word picks between two masters that border a node to be
emptied. -/
def execute (environment : Environment) (word : UInt64) (invocation : Invocation) : Outcome :=
  let tool : AdminTool := ⟨environment, invocation.configuration⟩
  let endpoint := invocation.endpoint
  let silent := fun (_ : Unit) ↦ ""
  let machine : Machine := {}
  match invocation.command with
  | .create addresses replicas => outcomeOfTool silent (tool.create addresses replicas machine)
  | .nodes =>
      outcomeOfTool (fun listing ↦ printed (.ofListing listing)) (tool.listing endpoint machine)
  | .info => outcomeOfTool (fun report ↦ printed (.ofReport report)) (tool.report endpoint machine)
  | .addNode added => outcomeOfTool silent (tool.execute (.addNode added endpoint) machine)
  | .forget id => outcomeOfTool silent (tool.execute (.forget endpoint id) machine)
  | .delete id => outcomeOfTool silent (tool.execute (.delete endpoint id) machine)
  | .replicate masterId => outcomeOfTool silent (tool.execute (.replicate endpoint masterId) machine)
  | .rebalance => outcomeOfTool silent (tool.execute (.rebalance endpoint) machine)
  | .reshard plan => outcomeOfTool silent (tool.reshard endpoint plan machine)
  | .spread => outcomeOfMigration (Migration.spread tool.topology endpoint machine)
  | .empty id => outcomeOfMigration (Migration.empty tool.topology endpoint id word machine)
  | .merge target source =>
      outcomeOfMigration (Migration.merge tool.topology endpoint target source machine)

/-- Run a command line, given the environment variables by their names. -/
def run (arguments : List String) (settings : List (String × String))
    (environment : Environment) (word : UInt64) : Outcome :=
  match readInvocation arguments settings with
  | .ok invocation => execute environment word invocation
  | .error .usage => { exitCode := usageCode, complaint := helpText }
  | .error .help => { exitCode := successCode, output := helpText }
  | .error .version => { exitCode := successCode, output := versionText }

end ClusterSteward.CommandLine
