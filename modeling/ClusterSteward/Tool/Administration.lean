import ClusterSteward.Migration.Running
import ClusterSteward.Report
import ClusterSteward.Tool.Machine
import ClusterSteward.Tool.Request

/-!
# Administration through the tool

The operations of a cluster as runs of the admin tool on a machine. All but one of them run it on a
fixed input and read what it prints; moving slots is a dialogue.
-/

namespace ClusterSteward

/-- The admin tool: how it is run, and where. -/
structure AdminTool where
  environment : Environment
  configuration : Configuration

namespace AdminTool

/-- Run the tool for a request that needs no answers, and give what it printed. -/
def perform (tool : AdminTool) (request : Request) (machine : Machine) :
    Except ToolError (List UInt8) × Machine :=
  machine.runBatch tool.environment tool.configuration request.arguments none

/-- Run the tool for a request that needs no answers. -/
def execute (tool : AdminTool) (request : Request) (machine : Machine) :
    Except ToolError Unit × Machine :=
  let (result, machine) := tool.perform request machine
  (result.map fun _ ↦ (), machine)

/-- Create a cluster of the nodes at the given addresses, of which there must be one. The layout
that the tool proposes is confirmed. -/
def create (tool : AdminTool) (addresses : List String) (replicas : Nat) (machine : Machine) :
    Except ToolError Unit × Machine :=
  if addresses.isEmpty then
    (.error (.invalidConfiguration "create_cluster needs at least one node address"), machine)
  else
    let input := Text.Utf8.encode (Prompt.Reaction.confirmation.toList ++ ['\n'])
    let (result, machine) := machine.runBatch tool.environment tool.configuration
      (Request.create addresses replicas).arguments (some input)
    (result.map fun _ ↦ (), machine)

/-- The listing as the node at the endpoint gives it. -/
def listing (tool : AdminTool) (endpoint : Endpoint) (machine : Machine) :
    Except ToolError Listing × Machine :=
  let (result, machine) := tool.perform (.listing endpoint) machine
  (result.map fun output ↦ .ofChars (Text.Utf8.decode output), machine)

/-- The health report as the node at the endpoint gives it. -/
def report (tool : AdminTool) (endpoint : Endpoint) (machine : Machine) :
    Except ToolError Report × Machine :=
  let (result, machine) := tool.perform (.report endpoint) machine
  (result.map fun output ↦ .ofChars (Text.Utf8.decode output), machine)

/-- The ids of the masters without slots, and the number of all nodes. -/
def slotless (tool : AdminTool) (endpoint : Endpoint) (machine : Machine) :
    Except ToolError (List String × Nat) × Machine :=
  let (result, machine) := tool.listing endpoint machine
  (result.map fun listing ↦ (listing.slotlessMasters.map Node.id, listing.size), machine)

/-- Carry out a plan through the node at the endpoint. -/
def reshard (tool : AdminTool) (endpoint : Endpoint) (plan : Plan) (machine : Machine) :
    Except ToolError Unit × Machine :=
  machine.runDialogue tool.environment tool.configuration (Request.reshard endpoint).arguments
    (Prompt.Reaction.ofPlan plan)

/-- The cluster behind the tool as a topology. -/
def topology (tool : AdminTool) : Topology Machine where
  listing endpoint machine := return tool.listing endpoint machine
  reshard endpoint plan machine := return tool.reshard endpoint plan machine

end AdminTool

end ClusterSteward
