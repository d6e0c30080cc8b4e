import ClusterSteward.Migration.Topology

/-!
# Requests to the admin tool

Every operation of the admin tool is one invocation. A `Request` is such an operation with its
parameters, and `Request.arguments` are the arguments that ask for it.
-/

namespace ClusterSteward

/-- An operation of the admin tool. -/
inductive Request where
  /-- Create a cluster of the nodes at the given addresses. -/
  | create (addresses : List String) (replicas : Nat)
  /-- List the nodes. -/
  | listing (endpoint : Endpoint)
  /-- Report the health of the cluster. -/
  | report (endpoint : Endpoint)
  /-- Add a node to the cluster of an existing one. -/
  | addNode (added existing : Endpoint)
  /-- Make the node at the endpoint forget another one. -/
  | forget (endpoint : Endpoint) (id : String)
  /-- Remove a node from the cluster. -/
  | delete (endpoint : Endpoint) (id : String)
  /-- Make the node at the endpoint a replica of a master. -/
  | replicate (endpoint : Endpoint) (masterId : String)
  /-- Let the tool even out the slots. -/
  | rebalance (endpoint : Endpoint)
  /-- Move slots, as agreed in a dialogue. -/
  | reshard (endpoint : Endpoint)
  deriving DecidableEq, Repr

namespace Request

/-- The arguments that reach the node at an endpoint. -/
def reach (endpoint : Endpoint) : List String :=
  ["-h", endpoint.host, "-p", Nat.repr endpoint.port.toNat]

/-- The arguments of the invocation. -/
def arguments : Request → List String
  | create addresses replicas =>
      ["--cluster", "create"] ++ addresses ++ ["--cluster-replicas", Nat.repr replicas]
  | listing endpoint => reach endpoint ++ ["cluster", "nodes"]
  | report endpoint => reach endpoint ++ ["cluster", "info"]
  | addNode added existing => ["--cluster", "add-node", added.text, existing.text]
  | forget endpoint id => reach endpoint ++ ["-c", "cluster", "forget", id]
  | delete endpoint id => reach endpoint ++ ["--cluster", "del-node", endpoint.text, id]
  | replicate endpoint masterId => reach endpoint ++ ["-c", "cluster", "replicate", masterId]
  | rebalance endpoint => reach endpoint ++ ["--cluster", "rebalance", endpoint.text]
  | reshard endpoint => ["--cluster", "reshard", endpoint.text, "--cluster-yes"]

end Request

end ClusterSteward
