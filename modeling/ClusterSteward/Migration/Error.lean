import ClusterSteward.Document.Problem
import ClusterSteward.Plan.Refusal
import ClusterSteward.Tool.Error

/-!
# Migration errors

How a migration fails: the tool fails before or at its only step, the topology does not admit it,
or one of its steps fails after others have been done.
-/

namespace ClusterSteward

/-- A migration that stopped at a failed step. The steps before it stay done; `completed` names
the nodes that they filled. -/
structure Interruption where
  step : Nat
  total : Nat
  failedNode : String
  completed : List String
  cause : ToolError
  deriving DecidableEq, Repr

/-- Why a migration failed, or why its result could not be written. -/
inductive MigrationError where
  | tool (cause : ToolError)
  | refused (operation : String) (refusal : Refusal)
  | interrupted (interruption : Interruption)
  | unwritable (problem : DocumentProblem)
  deriving DecidableEq, Repr

namespace MigrationError

/-- The text that reports the error. -/
def message : MigrationError → String
  | tool cause => cause.message
  | refused operation refusal => operation ++ " rejected: " ++ refusal.message
  | interrupted ⟨step, total, failedNode, completed, cause⟩ =>
      "reshard step " ++ Nat.repr step ++ "/" ++ Nat.repr total ++ " into " ++ failedNode ++
        " failed after " ++ Nat.repr completed.length ++ " completed step(s): " ++ cause.message
  | unwritable problem => "Serialization error: " ++ problem.message

/-- Whether the migration was turned down before it changed the cluster. -/
def isPrecondition : MigrationError → Bool
  | tool cause => cause.isInvalidConfiguration
  | refused .. => true
  | interrupted _ => false
  | unwritable _ => false

/-- Whether the migration was cancelled. -/
def isCancelled : MigrationError → Bool
  | tool cause => cause.isCancelled
  | refused .. => false
  | interrupted interruption => interruption.cause.isCancelled
  | unwritable _ => false

end MigrationError

end ClusterSteward
