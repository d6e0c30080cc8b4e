import ClusterSteward.Listing

/-!
# Borders of a range

The masters whose ranges touch a given range of slots from below and from above.
-/

namespace ClusterSteward

/-- The masters that touch a range: one that ends just below it, one that starts just above it. -/
structure Borders where
  below : Option Node
  above : Option Node
  deriving DecidableEq, Repr

namespace Borders

/-- The slot just below, if there is one. -/
def slotBelow? (first : Slot) : Option Nat :=
  if 0 < first.toNat then some (first.toNat - 1) else none

/-- The slot just above, if the keyspace has one. -/
def slotAbove? (last : Slot) : Option Nat :=
  if last.toNat + 1 < keyspace then some (last.toNat + 1) else none

/-- Whether one of the node's ranges ends at the given slot number. -/
def endsAt (node : Node) (number : Nat) : Bool :=
  node.slots.any fun range ↦ range.last.toNat == number

/-- Whether one of the node's ranges starts at the given slot number. -/
def startsAt (node : Node) (number : Nat) : Bool :=
  node.slots.any fun range ↦ range.first.toNat == number

/-- The last node in the list that has the property. -/
def lastSuch (property : Node → Bool) (nodes : List Node) : Option Node :=
  nodes.reverse.find? property

/-- The masters other than `excluded` that touch the range from `first` to `last`. Of several that
touch it on one side, the last in the listing is taken. -/
def find (listing : Listing) (excluded : String) (first last : Slot) : Borders :=
  let candidates := listing.nodes.filter fun node ↦ node.isSlottedMaster && node.id != excluded
  { below := (slotBelow? first).bind fun slot ↦ lastSuch (endsAt · slot) candidates
    above := (slotAbove? last).bind fun slot ↦ lastSuch (startsAt · slot) candidates }

end Borders

end ClusterSteward
