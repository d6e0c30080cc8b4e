import ClusterSteward.Slot.Range

/-!
# Refusals

Why a migration is refused before anything has moved.
-/

namespace ClusterSteward

/-- A topology that does not admit the migration asked for. Every cause names the node. -/
inductive Refusal where
  | nodeNotFound (id : String)
  | notMaster (id : String)
  | noSlots (id : String)
  | noBorder (id : String) (first last : Slot)
  | sameNode (id : String)
  deriving DecidableEq, Repr

namespace Refusal

/-- The text that reports the refusal. -/
def message : Refusal → String
  | nodeNotFound id => "node " ++ id ++ " not found in cluster topology"
  | notMaster id => "node " ++ id ++ " is a replica, not a master"
  | noSlots id => "node " ++ id ++ " owns no slots"
  | noBorder id first last =>
      "no master owns the slots bordering " ++ id ++ " (" ++ Nat.repr first.toNat ++ "-" ++
        Nat.repr last.toNat ++ ")"
  | sameNode id => "source and target are the same node " ++ id

end Refusal

end ClusterSteward
