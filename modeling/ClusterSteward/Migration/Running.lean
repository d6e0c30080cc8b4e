import ClusterSteward.Migration.Error
import ClusterSteward.Migration.Topology
import ClusterSteward.Plan.Planning

/-!
# Running migrations

Each migration asks for the listing once, plans, and then executes its plans one after the other.
It stops at the first failure and undoes nothing.
-/

namespace ClusterSteward

/-- What a successful migration has done: its plans, in the order of their execution. -/
structure Migrated where
  completed : List Plan
  deriving DecidableEq, Repr

namespace Migrated

/-- The number of slots that were moved. -/
def slotsMoved (migrated : Migrated) : Nat :=
  (migrated.completed.map Plan.count).foldr (· + ·) 0

/-- Whether nothing had to be moved. -/
def isNoop (migrated : Migrated) : Bool :=
  migrated.completed.isEmpty

end Migrated

namespace Migration

/-- The name of emptying a node in a refusal. -/
def emptyOperation : String :=
  "except_node"

/-- The name of a merge in a refusal. -/
def mergeOperation : String :=
  "merge_node"

/-- Execute the plans of a migration of `total` plans, of which some are completed already. -/
def runPlans {State : Type} (topology : Topology State) (endpoint : Endpoint) (total : Nat)
    (completed : List Plan) :
    List Plan → State → Counted (Except MigrationError Migrated × State)
  | [], state => return (.ok ⟨completed⟩, state)
  | plan :: plans, state => do
      let (result, state) ← topology.reshard endpoint plan state
      match result with
      | .ok () => runPlans topology endpoint total (completed ++ [plan]) plans state
      | .error cause =>
          return (.error (.interrupted
            { step := completed.length + 1
              total
              failedNode := plan.target
              completed := completed.map Plan.target
              cause }), state)

/-- Give every slotless master an equal share. -/
def spread {State : Type} (topology : Topology State) (endpoint : Endpoint) (state : State) :
    Counted (Except MigrationError Migrated × State) := do
  let (result, state) ← topology.listing endpoint state
  match result with
  | .error cause => return (.error (.tool cause), state)
  | .ok listing =>
      let plans ← Planning.spread listing
      runPlans topology endpoint plans.length [] plans state

/-- Execute the only plan of a migration, unless planning was refused. -/
def runPlan {State : Type} (topology : Topology State) (endpoint : Endpoint) (operation : String)
    (planned : Except Refusal Plan) (state : State) :
    Counted (Except MigrationError Migrated × State) := do
  match planned with
  | .error refusal => return (.error (.refused operation refusal), state)
  | .ok plan =>
      let (result, state) ← topology.reshard endpoint plan state
      match result with
      | .error cause => return (.error (.tool cause), state)
      | .ok () => return (.ok ⟨[plan]⟩, state)

/-- Empty the master `id` into a master that borders it, which the random word picks. -/
def empty {State : Type} (topology : Topology State) (endpoint : Endpoint) (id : String)
    (word : UInt64) (state : State) : Counted (Except MigrationError Migrated × State) := do
  let (result, state) ← topology.listing endpoint state
  match result with
  | .error cause => return (.error (.tool cause), state)
  | .ok listing =>
      let planned ← Planning.empty listing id word
      runPlan topology endpoint emptyOperation planned state

/-- Move every slot of `source` into `target`. -/
def merge {State : Type} (topology : Topology State) (endpoint : Endpoint)
    (target source : String) (state : State) :
    Counted (Except MigrationError Migrated × State) := do
  let (result, state) ← topology.listing endpoint state
  match result with
  | .error cause => return (.error (.tool cause), state)
  | .ok listing =>
      let planned ← Planning.merge listing target source
      runPlan topology endpoint mergeOperation planned state

end Migration

end ClusterSteward
