/-!
# Arithmetic faults

Counts are kept in machine words and ranges have ordered bounds. A computation that leaves these
limits stops with a `Fault` instead of wrapping around. `Counted α` is a computation that may stop
so. Main statement: `addCounts_eq_ok_iff`, which says exactly when a sum of counts is defined.
-/

namespace ClusterSteward

/-- The ways in which exact machine arithmetic is undefined. -/
inductive Fault where
  | additionOverflow
  | subtractionOverflow
  | divisionByZero
  | remainderByZero
  | reversedRange (first last : UInt16)
  deriving DecidableEq, Repr

namespace Fault

/-- The text that reports the fault. -/
def message : Fault → String
  | additionOverflow => "attempt to add with overflow"
  | subtractionOverflow => "attempt to subtract with overflow"
  | divisionByZero => "attempt to divide by zero"
  | remainderByZero => "attempt to calculate the remainder with a divisor of zero"
  | reversedRange first last =>
      "slot range " ++ Nat.repr first.toNat ++ "-" ++ Nat.repr last.toNat ++ " is reversed"

end Fault

/-- A result that may instead be an arithmetic fault. -/
abbrev Counted (α : Type) := Except Fault α

/-- The number of values of a count word. -/
def countLimit : Nat := UInt32.size

/-- The sum of two counts, defined while it fits a count word. -/
def addCounts (left right : Nat) : Counted Nat :=
  if left + right < countLimit then .ok (left + right) else .error .additionOverflow

/-- A sum of counts is defined exactly when it fits a count word, and is then the exact sum. -/
theorem addCounts_eq_ok_iff {left right total : Nat} :
    addCounts left right = .ok total ↔ left + right = total ∧ total < countLimit := by
  unfold addCounts
  split <;> constructor
  · rintro ⟨⟩
    exact ⟨rfl, ‹_›⟩
  · rintro ⟨rfl, _⟩
    rfl
  · rintro ⟨⟩
  · rintro ⟨rfl, hlt⟩
    contradiction

/-- The sum of a list of counts, taken from the left. -/
def sumCounts (counts : List Nat) : Counted Nat :=
  counts.foldlM addCounts 0

end ClusterSteward
