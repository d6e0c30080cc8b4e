import ClusterSteward.Node.Reading

/-!
# Listings

A listing describes every node that one node of the cluster knows, a line each. This module reads
listings and answers questions about all their nodes.
-/

namespace ClusterSteward

/-- The nodes of a cluster, in listing order. -/
structure Listing where
  nodes : List Node
  deriving DecidableEq, Repr, Inhabited

namespace Listing

/-- The listing written by a text: the nodes of its lines, blank ones aside. -/
def ofChars (text : List Char) : Listing :=
  ⟨(((text.splitOn '\n').map Node.stripLine).filter
    (fun line ↦ !Text.allBlank line)).map Node.ofChars⟩

/-- The listing written by a text. -/
def parse (text : String) : Listing :=
  ofChars text.toList

/-- The number of nodes. -/
def size (listing : Listing) : Nat :=
  listing.nodes.length

/-- Whether there are no nodes. -/
def isEmpty (listing : Listing) : Bool :=
  listing.nodes.isEmpty

/-- The masters, in listing order. -/
def masters (listing : Listing) : List Node :=
  listing.nodes.filter Node.isMaster

/-- The replicas, in listing order. -/
def replicas (listing : Listing) : List Node :=
  listing.nodes.filter Node.isReplica

/-- The masters that own no slots, in listing order. -/
def slotlessMasters (listing : Listing) : List Node :=
  listing.nodes.filter Node.isSlotlessMaster

/-- The node that gave the listing. -/
def myself? (listing : Listing) : Option Node :=
  listing.nodes.find? Node.isMyself

/-- The nodes that replicate the given master. -/
def replicasOf (listing : Listing) (masterId : String) : List Node :=
  listing.nodes.filter fun node ↦ node.masterId = some masterId

/-- The first node with the given id. -/
def find? (listing : Listing) (id : String) : Option Node :=
  listing.nodes.find? fun node ↦ node.id = id

/-- The sum of the slot counts of the masters. -/
def totalSlotsAssigned (listing : Listing) : Counted Nat := do
  let counts ← listing.masters.mapM Node.slotCount
  sumCounts counts

/-- Whether the slot counts of the masters add up to the keyspace. -/
def allSlotsAssigned (listing : Listing) : Counted Bool := do
  let total ← listing.totalSlotsAssigned
  return total == keyspace

end Listing

end ClusterSteward
