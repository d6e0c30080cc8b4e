import ClusterSteward.Tool.Error

/-!
# Circumstances of a process

What a process meets with but has no say in: how much its pipes hold, when its output is read, which
of two things that happen at once comes first, and whether the system can say how it ended.
-/

namespace ClusterSteward

/-- A reading of the output of a process: from which stream, and how many bytes at most. -/
structure Take where
  fromErrors : Bool
  limit : Nat
  deriving DecidableEq, Repr

/-- The circumstances of a process. Its pipes hold `capacity` bytes each. The `schedule` says what is
read of its output at each of its actions; where the schedule ends, all of it is read. `overtaken`
says whether the end of its output is seen before its own end. A process that ends on its own just
when it is to be killed has its status in `ownEnd`, with whether it counts as torn down. `unpiped`
says that its pipes could not be captured, and `waitFailure` why its end could not be waited for. -/
structure Circumstances where
  capacity : Nat := 65536
  capacity_le : 4096 ≤ capacity := by decide
  schedule : List (List Take) := []
  overtaken : Bool := false
  ownEnd : Option (WaitStatus × Bool) := none
  unpiped : Bool := false
  waitFailure : Option SystemError := none

/-- The circumstances of a process that meets with nothing special. -/
def Circumstances.usual : Circumstances := {}

end ClusterSteward
