import ClusterSteward.Text.Decimal
import ClusterSteward.Text.Field

/-!
# Problems with documents

What is wrong with a document, and where: at a line and a column, if the problem has a place at
all. A problem is reported as a text that ends in its place, and a report is read back the same
way. A place in a report is a line and a column in plain digits, each of which a machine word holds.
-/

namespace ClusterSteward

/-- A problem with a document. Lines count from one; a problem on line zero has no place. -/
structure DocumentProblem where
  description : String
  line : Nat := 0
  column : Nat := 0
  deriving DecidableEq, Repr, Inhabited

namespace DocumentProblem

/-- What stands in front of the line of a place. -/
def lineMark : List Char :=
  " at line ".toList

/-- What stands between the line and the column of a place. -/
def columnMark : List Char :=
  " column ".toList

/-- The number below the limit of a machine word that the text writes in digits alone. -/
def readWord (text : List Char) : Option Nat :=
  if text.all Char.isDigit then Text.readBelow UInt64.size text else none

/-- The line and the column of a place, read behind the mark of its line. -/
def readPlace (text : List Char) : Option (Nat × Nat) := do
  let rest := text.dropWhile Char.isDigit
  if !columnMark.isPrefixOf rest then none
  let line ← readWord (text.takeWhile Char.isDigit)
  let column ← readWord (rest.drop columnMark.length)
  return (line, column)

/-- The problem with a place that a report describes, if its last mark of a line begins a place. -/
def readPlaced (report : List Char) : Option DocumentProblem := do
  let (before, after) ← Text.cutLastPart lineMark report
  let (line, column) ← readPlace after
  return ⟨String.ofList before, line, column⟩

/-- The problem that a report describes. Without a place the whole report is the description. -/
def parse (report : String) : DocumentProblem :=
  (readPlaced report.toList).getD { description := report }

/-- The text that reports the problem. -/
def message (problem : DocumentProblem) : String :=
  if problem.line = 0 then problem.description
  else
    problem.description ++ String.ofList lineMark ++ Nat.repr problem.line ++
      String.ofList columnMark ++ Nat.repr problem.column

end DocumentProblem

end ClusterSteward
