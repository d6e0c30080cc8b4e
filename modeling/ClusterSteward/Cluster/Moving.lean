import ClusterSteward.Cluster.Basic
import ClusterSteward.Cluster.Leveling
import ClusterSteward.Migration.Topology

/-!
# Moving slots in memory

A plan is applied to a cluster in memory as the admin tool would apply it: one node gives up its
lowest slots, or all of them give up their highest slots, each time the one that has most.
-/

namespace ClusterSteward.Cluster

/-- Slots that were given up, and the members after that. -/
structure Withdrawal where
  moved : SlotSet
  members : List Member
  deriving DecidableEq, Repr

/-- The place of the first member with the given id. -/
def placeOf? (members : List Member) (id : String) : Option Nat :=
  members.findIdx? fun member ↦ member.id = id

/-- The member at the given place gives up its `count` lowest slots. -/
def withdrawLowest (members : List Member) (place count : Nat) : Withdrawal where
  moved := match members[place]? with
    | some member => member.slots.takeLowest count
    | none => .empty
  members := members.modify place fun member ↦
    { member with slots := member.slots.dropLowest count }

/-- The numbers of slots that the members can give up. The member at the place `target` gives up
none. -/
def offers (members : List Member) (target : Nat) : List Nat :=
  members.mapIdx fun place member ↦ if place = target then 0 else member.slots.size

/-- Every member except the one at the place `target` gives up its highest slots, so that the
member is left with the number of slots in `left`. -/
def withdrawDown (members : List Member) (target : Nat) (left : List Nat) : Withdrawal where
  moved := (members.zip left).zipIdx.foldr
    (fun ((member, kept), place) moved ↦
      if place = target then moved else (member.slots.dropLowest kept).union moved) .empty
  members := (members.zip left).mapIdx fun place (member, kept) ↦
    if place = target then member
    else { member with slots := member.slots.takeLowest kept }

/-- The slots of a plan are given up: by one member, or by the member other than the target that
has most, `count` times over. -/
def withdraw (members : List Member) (target : Nat) (source : Source) (count : Nat) :
    Except ToolError Withdrawal :=
  match source with
  | .node id =>
      match placeOf? members id with
      | none => .error (.invalidConfiguration ("unknown source " ++ id))
      | some place => .ok (withdrawLowest members place count)
  -- how many slots each member is left with does not depend on which slots they are
  | .all => .ok (withdrawDown members target (Leveling.level count (offers members target)))

/-- The member at the given place gets the moved slots. -/
def deposit (withdrawal : Withdrawal) (target : Nat) : List Member :=
  withdrawal.members.modify target fun member ↦
    { member with slots := member.slots.union withdrawal.moved }

/-- The cluster after applying a plan. -/
def apply (cluster : Cluster) (plan : Plan) : Except ToolError Cluster := do
  let step := cluster.applied.length + 1
  if cluster.failOn = some step then
    throw (.invalidConfiguration ("mock reshard " ++ Nat.repr step ++ " refused"))
  let some target := placeOf? cluster.members plan.target
    | throw (.invalidConfiguration ("unknown target " ++ plan.target))
  let withdrawal ← withdraw cluster.members target plan.source plan.count
  return { cluster with
    members := deposit withdrawal target
    applied := cluster.applied ++ [plan] }

/-- The command that a cancelled cluster names. -/
def command : String :=
  "mock"

/-- The outcome of a reshard. A reshard that fails leaves the cluster as it is. -/
def reshard (cluster : Cluster) (plan : Plan) : Except ToolError Unit × Cluster :=
  if cluster.cancelled then (.error (.cancelled command []), cluster)
  else
    match cluster.apply plan with
    | .ok after => (.ok (), after)
    | .error cause => (.error cause, cluster)

/-- The cluster in memory as a topology. Its listing is the reading of its text. -/
def topology : Topology Cluster where
  listing _ cluster := do
    let text ← cluster.text
    return (.ok (.parse text), { cluster with listings := cluster.listings + 1 })
  reshard _ plan cluster := return cluster.reshard plan

end ClusterSteward.Cluster
