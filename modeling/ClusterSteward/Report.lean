import ClusterSteward.Text.Blank
import ClusterSteward.Text.Decimal
import ClusterSteward.Slot.Range

/-!
# Health reports

A node reports the health of the cluster as lines `key:value`. Eight keys are known; all other
lines are skipped. A later line of a key overrides an earlier one, and a value that cannot be read
counts as zero or as an unknown state.
-/

namespace ClusterSteward

/-- The state of the cluster. -/
inductive ClusterState where
  | ok
  | fail
  | unknown
  deriving DecidableEq, Repr, Inhabited

namespace ClusterState

/-- The state named by a word, in any mix of upper and lower case. -/
def ofChars (word : List Char) : ClusterState :=
  let lower := (Text.trim word).map Char.toLower
  if lower = "ok".toList then .ok
  else if lower = "fail".toList then .fail
  else .unknown

/-- The state named by a text. -/
def parse (word : String) : ClusterState :=
  ofChars word.toList

/-- The name of the state. -/
def text : ClusterState → String
  | ok => "ok"
  | fail => "fail"
  | unknown => "unknown"

end ClusterState

/-- The health of the cluster as one node sees it. -/
structure Report where
  state : ClusterState := .unknown
  slotsAssigned : UInt32 := 0
  slotsOk : UInt32 := 0
  slotsSuspected : UInt32 := 0
  slotsFailed : UInt32 := 0
  knownNodes : UInt32 := 0
  size : UInt32 := 0
  epoch : UInt64 := 0
  deriving DecidableEq, Repr, Inhabited

/-- The keys of a report, one for each of its fields. -/
inductive ReportKey where
  | state
  | slotsAssigned
  | slotsOk
  | slotsSuspected
  | slotsFailed
  | knownNodes
  | size
  | epoch
  deriving DecidableEq, Repr

namespace ReportKey

/-- Every key. -/
def all : List ReportKey :=
  [state, slotsAssigned, slotsOk, slotsSuspected, slotsFailed, knownNodes, size, epoch]

/-- The key as a report writes it. -/
def name : ReportKey → String
  | state => "cluster_state"
  | slotsAssigned => "cluster_slots_assigned"
  | slotsOk => "cluster_slots_ok"
  | slotsSuspected => "cluster_slots_pfail"
  | slotsFailed => "cluster_slots_fail"
  | knownNodes => "cluster_known_nodes"
  | size => "cluster_size"
  | epoch => "cluster_my_epoch"

/-- The key with the given name. -/
def ofName? (name : List Char) : Option ReportKey :=
  all.find? fun key ↦ key.name.toList = name

end ReportKey

namespace Report

/-- The report with the field of `key` read from `value`. -/
def note (report : Report) (key : ReportKey) (value : List Char) : Report :=
  let count := (Text.readUInt32 value).getD 0
  match key with
  | .state => { report with state := .ofChars value }
  | .slotsAssigned => { report with slotsAssigned := count }
  | .slotsOk => { report with slotsOk := count }
  | .slotsSuspected => { report with slotsSuspected := count }
  | .slotsFailed => { report with slotsFailed := count }
  | .knownNodes => { report with knownNodes := count }
  | .size => { report with size := count }
  | .epoch => { report with epoch := (Text.readUInt64 value).getD 0 }

/-- The field of `key` as a report writes it. -/
def value (report : Report) (key : ReportKey) : List Char :=
  match key with
  | .state => report.state.text.toList
  | .slotsAssigned => Text.decimal report.slotsAssigned.toNat
  | .slotsOk => Text.decimal report.slotsOk.toNat
  | .slotsSuspected => Text.decimal report.slotsSuspected.toNat
  | .slotsFailed => Text.decimal report.slotsFailed.toNat
  | .knownNodes => Text.decimal report.knownNodes.toNat
  | .size => Text.decimal report.size.toNat
  | .epoch => Text.decimal report.epoch.toNat

/-- The key and the value of a line, both trimmed. The last colon separates them; a blank line and
a line that starts with `#` have none. -/
def entry? (line : List Char) : Option (List Char × List Char) :=
  let line := Text.trim line
  if line.head? = some '#' then none
  else (Text.cutLast ':' line).map fun (key, value) ↦ (Text.trim key, Text.trim value)

/-- The known key and the value of a line. -/
def knownEntry? (line : List Char) : Option (ReportKey × List Char) := do
  let (name, value) ← entry? line
  let key ← ReportKey.ofName? name
  return (key, value)

/-- The report after reading a line. -/
def readLine (report : Report) (line : List Char) : Report :=
  match knownEntry? line with
  | none => report
  | some (key, value) => report.note key value

/-- The report written by the characters of a text. -/
def ofChars (text : List Char) : Report :=
  (text.splitOn '\n').foldl readLine {}

/-- The report written by a text. -/
def parse (text : String) : Report :=
  ofChars text.toList

/-- The line that writes the field of `key`. -/
def line (report : Report) (key : ReportKey) : List Char :=
  key.name.toList ++ ':' :: report.value key

/-- Whether every slot of the keyspace is assigned. -/
def allSlotsAssigned (report : Report) : Bool :=
  report.slotsAssigned.toNat == keyspace

/-- Whether the cluster serves requests and no slot is failing. -/
def isHealthy (report : Report) : Bool :=
  report.state = .ok && report.slotsFailed == 0 && report.slotsSuspected == 0

end Report

end ClusterSteward
