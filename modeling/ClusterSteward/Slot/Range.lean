import ClusterSteward.Fault
import ClusterSteward.Text.Decimal

/-!
# Slot ranges

A cluster spreads its keys over numbered slots. Ownership is listed as ranges of slots, both
bounds included. The keyspace has `keyspace` slots, but a listing may write any 16-bit number.
Main statement: `mem_iff`, which reads membership in a range off the numbers.
-/

namespace ClusterSteward

/-- A slot number. -/
abbrev Slot := UInt16

/-- The number of slots of the keyspace, which are numbered from zero. -/
def keyspace : Nat := 16384

/-- The slots from `first` to `last`, both included. -/
structure SlotRange where
  first : Slot
  last : Slot
  deriving DecidableEq, Repr, Inhabited

namespace SlotRange

/-- The range that holds one slot. -/
def single (slot : Slot) : SlotRange :=
  ⟨slot, slot⟩

/-- The range between two slots given in either order. -/
def between (left right : Slot) : SlotRange :=
  if left ≤ right then ⟨left, right⟩ else ⟨right, left⟩

/-- The range with the given bounds, which must be in order. -/
def checked (first last : Slot) : Counted SlotRange :=
  if first ≤ last then .ok ⟨first, last⟩ else .error (.reversedRange first last)

/-- The number of slots in the range. Reversed bounds count as one slot. -/
def width (range : SlotRange) : Nat :=
  range.last.toNat - range.first.toNat + 1

/-- Whether the range holds exactly one slot. -/
def isSingle (range : SlotRange) : Bool :=
  range.first == range.last

/-- The range as a listing writes it: `N` for one slot, `A-B` otherwise. -/
def chars (range : SlotRange) : List Char :=
  if range.isSingle then Text.decimal range.first.toNat
  else Text.decimal range.first.toNat ++ '-' :: Text.decimal range.last.toNat

/-- The text of a range. -/
def text (range : SlotRange) : String :=
  String.ofList range.chars

/-- A slot is in a range when it lies between the bounds. -/
instance : Membership Slot SlotRange where
  mem range slot := range.first ≤ slot ∧ slot ≤ range.last

instance (slot : Slot) (range : SlotRange) : Decidable (slot ∈ range) :=
  inferInstanceAs (Decidable (_ ∧ _))

/-- Membership in a range, read off the numbers. -/
theorem mem_iff {slot : Slot} {range : SlotRange} :
    slot ∈ range ↔ range.first.toNat ≤ slot.toNat ∧ slot.toNat ≤ range.last.toNat := by
  show range.first ≤ slot ∧ slot ≤ range.last ↔ _
  simp only [UInt16.le_iff_toNat_le]

/-- Ranges are ordered by their first slots, and by their last slots where these agree. -/
def precedes (left right : SlotRange) : Bool :=
  left.first < right.first || (left.first == right.first && left.last ≤ right.last)

/-- The ranges in ascending order. -/
def sort (ranges : List SlotRange) : List SlotRange :=
  ranges.mergeSort precedes

/-- The sum of the widths of the ranges; a slot that lies in two of them counts twice. -/
def totalWidth (ranges : List SlotRange) : Counted Nat :=
  sumCounts (ranges.map width)

end SlotRange

end ClusterSteward
