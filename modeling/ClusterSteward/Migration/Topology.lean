import ClusterSteward.Listing
import ClusterSteward.Plan.Basic
import ClusterSteward.Tool.Error

/-!
# Topologies

A migration needs two things of a cluster: its listing, and the execution of one plan. Whatever
offers them is a `Topology`, together with the state that its calls change.
-/

namespace ClusterSteward

/-- The address at which a node is reached. -/
structure Endpoint where
  host : String
  port : UInt16
  deriving DecidableEq, Repr

/-- The endpoint as the admin tool takes it. -/
def Endpoint.text (endpoint : Endpoint) : String :=
  endpoint.host ++ ":" ++ Nat.repr endpoint.port.toNat

/-- The two calls that a migration makes, on a state of type `State`. -/
structure Topology (State : Type) where
  /-- The listing as the node at the endpoint gives it. -/
  listing : Endpoint → State → Counted (Except ToolError Listing × State)
  /-- Execute one plan through the node at the endpoint. -/
  reshard : Endpoint → Plan → State → Counted (Except ToolError Unit × State)

/-- A call that a topology received. -/
inductive Call where
  | listing (endpoint : Endpoint)
  | reshard (endpoint : Endpoint) (plan : Plan)
  deriving DecidableEq, Repr

namespace Topology

/-- The topology that also keeps a list of the calls it received. -/
def recording {State : Type} (topology : Topology State) : Topology (State × List Call) where
  listing endpoint := fun (state, calls) ↦ do
    let (result, state) ← topology.listing endpoint state
    return (result, state, calls ++ [.listing endpoint])
  reshard endpoint plan := fun (state, calls) ↦ do
    let (result, state) ← topology.reshard endpoint plan state
    return (result, state, calls ++ [.reshard endpoint plan])

end Topology

end ClusterSteward
