import ClusterSteward.Slot.Range

/-!
# Equal shares of the keyspace

The share of each node when several nodes split the keyspace, and the slots left over. The number
of nodes is narrowed to a count word before the division, so the division is undefined when the
low half of a positive number of nodes is zero. Main statement: `perNode_of_lt`, which says that
the share of a number of nodes that a count word holds is the exact quotient.
-/

namespace ClusterSteward.Share

/-- The number of nodes as a count word. -/
def narrowed (nodes : Nat) : Nat :=
  nodes % countLimit

/-- The number of slots in the share of each of `nodes` nodes. No nodes have an empty share. -/
def perNode (nodes : Nat) : Counted Nat :=
  if nodes = 0 then .ok 0
  else if narrowed nodes = 0 then .error .divisionByZero
  else .ok (keyspace / narrowed nodes)

/-- The number of slots that belong to no share. -/
def remainder (nodes : Nat) : Counted Nat :=
  if nodes = 0 then .ok 0
  else if narrowed nodes = 0 then .error .remainderByZero
  else .ok (keyspace % narrowed nodes)

/-- For a number of nodes that a count word holds, the share is the quotient. -/
theorem perNode_of_lt {nodes : Nat} (hpos : 0 < nodes) (hlt : nodes < countLimit) :
    perNode nodes = .ok (keyspace / nodes) := by
  have hnarrow : narrowed nodes = nodes := Nat.mod_eq_of_lt hlt
  have hne : nodes ≠ 0 := Nat.ne_of_gt hpos
  simp [perNode, hnarrow, hne]

end ClusterSteward.Share
