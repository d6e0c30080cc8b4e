import ClusterSteward.Text.Field

/-!
# Decimal words

Reading and writing numbers in decimal. A number is read with an optional leading plus sign and at
least one digit, and only when it is below a limit, which is the number of values of the machine
word that holds it.
-/

namespace ClusterSteward.Text

/-- The value of an ASCII digit. -/
def digitValue? (c : Char) : Option Nat :=
  if c.isDigit then some (c.toNat - '0'.toNat) else none

/-- The value of a text of digits; the empty text has value zero. -/
def digitsValue? (text : List Char) : Option Nat :=
  text.foldlM (fun value c ↦ (digitValue? c).map (10 * value + ·)) 0

/-- The number written by the text, if it is well formed and below `limit`. -/
def readBelow (limit : Nat) (text : List Char) : Option Nat :=
  let digits := dropOpening ['+'] text
  if digits.isEmpty then none
  else (digitsValue? digits).filter (· < limit)

/-- The 16-bit number written by the text. -/
def readUInt16 (text : List Char) : Option UInt16 :=
  (readBelow UInt16.size text).map UInt16.ofNat

/-- The 32-bit number written by the text. -/
def readUInt32 (text : List Char) : Option UInt32 :=
  (readBelow UInt32.size text).map UInt32.ofNat

/-- The 64-bit number written by the text. -/
def readUInt64 (text : List Char) : Option UInt64 :=
  (readBelow UInt64.size text).map UInt64.ofNat

/-- The decimal digits of a number. -/
def decimal (value : Nat) : List Char :=
  Nat.toDigits 10 value

end ClusterSteward.Text
