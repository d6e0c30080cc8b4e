import ClusterSteward.Node.Line
import ClusterSteward.Plan.Basic
import ClusterSteward.Slot.Set

/-!
# Clusters in memory

A cluster whose nodes and slots are plain data. It is listed as a text in the format of a real
listing, so that it can be read back like one.
-/

namespace ClusterSteward

/-- A node of the cluster. It is a master unless it replicates another node. -/
structure Member where
  id : String
  port : UInt16
  replicaOf : Option String
  slots : SlotSet
  deriving DecidableEq, Repr, Inhabited

namespace Member

/-- The distance from the client port to the bus port. -/
def busOffset : Nat := 10000

/-- The bus port, which must fit a port number. -/
def busPort (member : Member) : Counted UInt16 :=
  let port := member.port.toNat + busOffset
  if port < UInt16.size then .ok (UInt16.ofNat port) else .error .additionOverflow

/-- The line of the listing that describes the member. -/
def line (member : Member) : Counted NodeLine := do
  let busPort ← member.busPort
  return {
    id := member.id.toList
    host := "127.0.0.1".toList
    port := member.port
    busPort
    flags := [(if member.replicaOf.isSome then "slave" else "master").toList]
    master := (member.replicaOf.getD "-").toList
    pingSent := ['0']
    pongReceived := ['0']
    epoch := ['1']
    linkState := "connected".toList
    items := member.slots.runs.map SlotItem.ofRange }

end Member

/-- A cluster with its nodes in listing order, the plans that were applied to it, and the number of
listings that were asked for. The reshard with number `failOn`, counted from one, is refused, and
once the cluster is `cancelled` every reshard is. -/
structure Cluster where
  members : List Member := []
  applied : List Plan := []
  listings : Nat := 0
  failOn : Option Nat := none
  cancelled : Bool := false
  deriving DecidableEq, Repr, Inhabited

namespace Cluster

/-- The client port of the first member. -/
def basePort : Nat := 7000

/-- The client port of the member with the given place, counted from zero. The place is narrowed to
a port number before it is added. -/
def portOf (place : Nat) : Counted UInt16 :=
  let port := basePort + place % UInt16.size
  if port < UInt16.size then .ok (UInt16.ofNat port) else .error .additionOverflow

/-- The cluster with one more member. -/
def add (cluster : Cluster) (id : String) (replicaOf : Option String) (slots : SlotSet) :
    Counted Cluster := do
  let port ← portOf cluster.members.length
  return { cluster with members := cluster.members ++ [⟨id, port, replicaOf, slots⟩] }

/-- The cluster with one more master, which owns the slots of the given ranges. -/
def addMaster (cluster : Cluster) (id : String) (ranges : List SlotRange) : Counted Cluster :=
  cluster.add id none (.ofRanges ranges)

/-- The cluster with one more replica. -/
def addReplica (cluster : Cluster) (id masterId : String) : Counted Cluster :=
  cluster.add id (some masterId) .empty

/-- The range of the master with the given place when `count` masters split the keyspace evenly.
The last of them takes what is left over. -/
def evenRange (count place : Nat) : Counted SlotRange :=
  let share := keyspace / count
  let first := UInt16.ofNat (place * share)
  if place + 1 = count then .ok ⟨first, UInt16.ofNat (keyspace - 1)⟩
  else if place * share + share = 0 then .error .subtractionOverflow
  else .ok ⟨first, UInt16.ofNat (place * share + share - 1)⟩

/-- The cluster of `count` masters `m0`, `m1`, ... that split the keyspace evenly. -/
def balanced (count : Nat) : Counted Cluster :=
  if count = 0 then .error .divisionByZero
  else
    (List.range count).foldlM (fun cluster place ↦ do
      let range ← evenRange count place
      cluster.addMaster ("m" ++ Nat.repr place) [range]) {}

/-- The text of the listing, a line for each member. -/
def text (cluster : Cluster) : Counted String := do
  let lines ← cluster.members.mapM Member.line
  return String.ofList (['\n'].intercalate (lines.map NodeLine.chars))

/-- The number of slots owned, counted once for each owner. -/
def assignedSlots (cluster : Cluster) : Nat :=
  (cluster.members.map (·.slots.size)).foldr (· + ·) 0

/-- The different targets of the applied plans, in ascending order. -/
def targets (cluster : Cluster) : List String :=
  ((cluster.applied.map Plan.target).eraseDups).mergeSort (· ≤ ·)

end Cluster

end ClusterSteward
