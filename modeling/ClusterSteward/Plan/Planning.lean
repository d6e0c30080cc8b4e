import ClusterSteward.Plan.Basic
import ClusterSteward.Plan.Border
import ClusterSteward.Plan.Refusal
import ClusterSteward.Slot.Share

/-!
# Planning

What has to move, computed from one listing and nothing else. There are three migrations: slotless
masters get an equal share each, a master is emptied into a master that borders it, or one node's
slots go to another node. Planning may be refused, and may end in an arithmetic fault.
-/

namespace ClusterSteward.Planning

/-- One plan for each slotless master, which is to get an equal share out of all masters. The share
is that of every listed node, and when it is empty there is nothing to plan. -/
def spread (listing : Listing) : Counted (List Plan) := do
  let share ← Share.perNode listing.size
  if share = 0 then return []
  return listing.slotlessMasters.map fun node ↦ ⟨node.id, .all, share⟩

/-- The masters that may receive the slots of a node that is emptied. -/
inductive Receivers where
  | one (receiver : Node)
  | either (below above : Node)
  deriving DecidableEq, Repr

namespace Receivers

/-- The receivers among the borders of a node, if there are any. -/
def ofBorders? (borders : Borders) : Option Receivers :=
  match borders.below, borders.above with
  | none, none => none
  | some below, none => some (.one below)
  | none, some above => some (.one above)
  | some below, some above => some (.either below above)

/-- The receiver that a random word picks: the border below for the lower half of the words. -/
def pick (word : UInt64) : Receivers → Node
  | one receiver => receiver
  | either below above => if word.toNat < UInt64.size / 2 then below else above

/-- The number of random words that the choice takes. -/
def draws : Receivers → Nat
  | one _ => 0
  | either _ _ => 1

end Receivers

/-- The node to be emptied, with the masters that may receive its slots. -/
def evacuation (listing : Listing) (id : String) : Except Refusal (Node × Receivers) := do
  let some node := listing.find? id | throw (.nodeNotFound id)
  if node.isReplica || !node.isMaster then throw (.notMaster id)
  let some first := node.firstSlot? | throw (.noSlots id)
  let some last := node.lastSlot? | throw (.noSlots id)
  let some receivers := Receivers.ofBorders? (Borders.find listing id first last)
    | throw (.noBorder id first last)
  return (node, receivers)

/-- The plan that empties the master `id` into a bordering master. Where there are two of them the
random word picks one. -/
def empty (listing : Listing) (id : String) (word : UInt64) : Counted (Except Refusal Plan) :=
  match evacuation listing id with
  | .error refusal => return .error refusal
  | .ok (node, receivers) => do
      let count ← node.slotCount
      return .ok ⟨(receivers.pick word).id, .node id, count⟩

/-- The number of random words taken by planning to empty the master `id`. -/
def draws (listing : Listing) (id : String) : Nat :=
  match evacuation listing id with
  | .error _ => 0
  | .ok (_, receivers) => receivers.draws

/-- The two nodes of a merge, the target first. -/
def mergePair (listing : Listing) (target source : String) : Except Refusal (Node × Node) := do
  if target = source then throw (.sameNode target)
  let some targetNode := listing.find? target | throw (.nodeNotFound target)
  let some sourceNode := listing.find? source | throw (.nodeNotFound source)
  if targetNode.isReplica then throw (.notMaster target)
  return (targetNode, sourceNode)

/-- The plan that moves every slot of `source` into `target`. -/
def merge (listing : Listing) (target source : String) : Counted (Except Refusal Plan) :=
  match mergePair listing target source with
  | .error refusal => return .error refusal
  | .ok (targetNode, sourceNode) => do
      let count ← sourceNode.slotCount
      if count = 0 then return .error (.noSlots source)
      return .ok ⟨targetNode.id, .node sourceNode.id, count⟩

end ClusterSteward.Planning
