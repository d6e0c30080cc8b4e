import ClusterSteward.Node.Flags
import ClusterSteward.Slot.Range

/-!
# Cluster nodes

A node as a listing describes it, and the questions that planning asks about it.
-/

namespace ClusterSteward

/-- A node of the cluster. `masterId` is the master that a replica copies; `slots` are the ranges
that the node owns, in listing order. A port of zero is a port that the listing does not give. -/
structure Node where
  id : String := ""
  host : String := ""
  port : UInt16 := 0
  busPort : UInt16 := 0
  flags : Flags := .none
  masterId : Option String := none
  linkState : String := ""
  slots : List SlotRange := []
  deriving DecidableEq, Repr, Inhabited

namespace Node

/-- Whether the node is a master: flagged so, and not also as a replica. -/
def isMaster (node : Node) : Bool :=
  node.flags.isMaster && !node.flags.isReplica

/-- Whether the node is a replica. -/
def isReplica (node : Node) : Bool :=
  node.flags.isReplica

/-- Whether the node is the one that gave the listing. -/
def isMyself (node : Node) : Bool :=
  node.flags.isMyself

/-- Whether the link to the node is up. -/
def isConnected (node : Node) : Bool :=
  node.linkState == "connected"

/-- Whether the node is failing, or suspected to be. -/
def isFailing (node : Node) : Bool :=
  node.flags.isFailing

/-- Whether the node is a master that owns slots. -/
def isSlottedMaster (node : Node) : Bool :=
  node.isMaster && !node.slots.isEmpty

/-- Whether the node is a master that owns no slots. -/
def isSlotlessMaster (node : Node) : Bool :=
  node.isMaster && node.slots.isEmpty

/-- The number of slots that the node owns. -/
def slotCount (node : Node) : Counted Nat :=
  SlotRange.totalWidth node.slots

/-- The lowest slot at which one of the node's ranges starts. -/
def firstSlot? (node : Node) : Option Slot :=
  (node.slots.map SlotRange.first).min?

/-- The highest slot at which one of the node's ranges ends. -/
def lastSlot? (node : Node) : Option Slot :=
  (node.slots.map SlotRange.last).max?

/-- Whether the slot lies in one of the node's ranges. -/
def owns (node : Node) (slot : Slot) : Bool :=
  node.slots.any fun range ↦ slot ∈ range

end Node

end ClusterSteward
