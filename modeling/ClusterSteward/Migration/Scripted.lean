import ClusterSteward.Migration.Topology

/-!
# Scripted topologies

A topology whose answers are fixed beforehand: the listings in the order in which they are asked
for, and the errors of the reshards by their number.
-/

namespace ClusterSteward

/-- The answers of a scripted topology. The last reply to a listing call repeats, and without
replies the listing is empty. `reshardError n` is the error of the reshard with number `n`, counted
from one. Once `cancelled`, every reshard is refused and none is counted. -/
structure Script where
  replies : List (Except ToolError Listing)
  reshardError : Nat → Option ToolError
  cancelled : Bool

namespace Script

/-- How far a script has been played. -/
structure Progress where
  replies : List (Except ToolError Listing)
  reshards : Nat
  deriving Repr

/-- A script before the first call. -/
def start (script : Script) : Progress :=
  ⟨script.replies, 0⟩

/-- The command that a cancelled script names. -/
def command : String :=
  "script"

/-- The topology that plays the script. -/
def topology (script : Script) : Topology Progress where
  listing _ progress :=
    match progress.replies with
    | [] => return (.ok ⟨[]⟩, progress)
    | [reply] => return (reply, progress)
    | reply :: replies => return (reply, { progress with replies })
  reshard _ _ progress :=
    if script.cancelled then return (.error (.cancelled command []), progress)
    else
      let number := progress.reshards + 1
      match script.reshardError number with
      | some cause => return (.error cause, { progress with reshards := number })
      | none => return (.ok (), { progress with reshards := number })

end Script

end ClusterSteward
