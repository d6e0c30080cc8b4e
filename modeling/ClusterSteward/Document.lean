import ClusterSteward.Migration.Running
import ClusterSteward.Report

/-!
# Documents

Results are written as JSON documents, indented by two spaces a level. The fields of an object keep
their order, and an empty list is written on one line.
-/

namespace ClusterSteward

/-- A JSON value as far as results need it. -/
inductive Document where
  | null
  | number (value : Nat)
  | text (value : String)
  | list (items : List Document)
  | record (fields : List (String × Document))

namespace Document

/-- The four hexadecimal digits of a code below 256. -/
def codeDigits (code : Nat) : List Char :=
  ['0', '0', Nat.digitChar (code / 16), Nat.digitChar (code % 16)]

/-- A character as it stands inside a JSON string. -/
def escapeChar (c : Char) : List Char :=
  match c with
  | '"' => ['\\', '"']
  | '\\' => ['\\', '\\']
  | '\x08' => ['\\', 'b']
  | '\x0c' => ['\\', 'f']
  | '\n' => ['\\', 'n']
  | '\r' => ['\\', 'r']
  | '\t' => ['\\', 't']
  | c => if c.toNat < 0x20 then '\\' :: 'u' :: codeDigits c.toNat else [c]

/-- A text as a JSON string. -/
def string (text : String) : String :=
  "\"" ++ String.ofList (text.toList.flatMap escapeChar) ++ "\""

/-- The start of a line at the given depth. -/
def lineStart (depth : Nat) : String :=
  "\n" ++ String.ofList (List.replicate (2 * depth) ' ')

/-- Put the entries of a list or a record between its brackets, each on a line of its own. -/
def bracket (opening closing : String) (depth : Nat) (entries : List String) : String :=
  if entries.isEmpty then opening ++ closing
  else
    opening ++ ",".intercalate (entries.map fun entry ↦ lineStart (depth + 1) ++ entry) ++
      lineStart depth ++ closing

mutual

/-- The text of a document that starts at the given depth. -/
def pretty (depth : Nat) : Document → String
  | .null => "null"
  | .number value => Nat.repr value
  | .text value => string value
  | .list items => bracket "[" "]" depth (prettyItems (depth + 1) items)
  | .record fields => bracket "\x7b" "\x7d" depth (prettyFields (depth + 1) fields)

/-- The texts of the items of a list. -/
def prettyItems (depth : Nat) : List Document → List String
  | [] => []
  | item :: items => pretty depth item :: prettyItems depth items

/-- The texts of the fields of a record. -/
def prettyFields (depth : Nat) : List (String × Document) → List String
  | [] => []
  | (name, value) :: fields => (string name ++ ": " ++ pretty depth value) :: prettyFields depth fields

end

/-- The document of an optional value. -/
def ofOption : Option Document → Document
  | none => .null
  | some value => value

/-- The document of a slot range. -/
def ofRange (range : SlotRange) : Document :=
  .record [("start", .number range.first.toNat), ("end", .number range.last.toNat)]

/-- The document of a node. -/
def ofNode (node : Node) : Document :=
  .record [("id", .text node.id), ("host", .text node.host), ("port", .number node.port.toNat),
    ("cluster_port", .number node.busPort.toNat),
    ("flags", .list (node.flags.tokens.map .text)),
    ("master_id", ofOption (node.masterId.map .text)), ("link_state", .text node.linkState),
    ("slots", .list (node.slots.map ofRange))]

/-- The document of a listing. -/
def ofListing (listing : Listing) : Document :=
  .list (listing.nodes.map ofNode)

/-- The document of a health report. -/
def ofReport (report : Report) : Document :=
  .record [("state", .text report.state.text),
    ("slots_assigned", .number report.slotsAssigned.toNat),
    ("slots_ok", .number report.slotsOk.toNat),
    ("slots_pfail", .number report.slotsSuspected.toNat),
    ("slots_fail", .number report.slotsFailed.toNat),
    ("known_nodes", .number report.knownNodes.toNat), ("size", .number report.size.toNat),
    ("my_epoch", .number report.epoch.toNat)]

/-- The document of a plan. -/
def ofPlan (plan : Plan) : Document :=
  .record [("target_node_id", .text plan.target), ("source", .text plan.source.text),
    ("slot_count", .number plan.count)]

/-- The document of a finished migration. -/
def ofMigrated (migrated : Migrated) : Document :=
  .record [("completed", .list (migrated.completed.map ofPlan)),
    ("slots_moved", .number migrated.slotsMoved)]

end Document

end ClusterSteward
