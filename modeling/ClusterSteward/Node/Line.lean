import ClusterSteward.Node.Basic

/-!
# Written node lines

The parts of a complete line of a listing, and the text that they make:
`id host:port@bus[,suffix] flags master ping pong epoch link item ...`. A slot item is one slot, a
pair of bounds in either order, or a mark in brackets for a slot that is on its way. Reading a line
is in `ClusterSteward.Node.Reading`.
-/

namespace ClusterSteward

/-- An item of the slot list of a line. -/
inductive SlotItem where
  | slot (number : Slot)
  | span (left right : Slot)
  | mark (text : List Char)
  deriving DecidableEq, Repr

namespace SlotItem

/-- The item as it is written. A mark stands in brackets. -/
def chars : SlotItem → List Char
  | .slot number => Text.decimal number.toNat
  | .span left right => Text.decimal left.toNat ++ '-' :: Text.decimal right.toNat
  | .mark text => '[' :: text ++ [']']

/-- The range that the item assigns to the node; a mark assigns none. -/
def range? : SlotItem → Option SlotRange
  | .slot number => some (.single number)
  | .span left right => some (.between left right)
  | .mark _ => none

/-- The item that assigns a range: one slot where the range is no longer. -/
def ofRange (range : SlotRange) : SlotItem :=
  if range.isSingle then .slot range.first else .span range.first range.last

end SlotItem

/-- The parts of a complete line. `suffix` follows the bus port after a comma, and `master` is `-`
for a node without one. -/
structure NodeLine where
  id : List Char
  host : List Char
  port : UInt16
  busPort : UInt16
  suffix : Option (List Char) := none
  flags : List (List Char)
  master : List Char
  pingSent : List Char
  pongReceived : List Char
  epoch : List Char
  linkState : List Char
  items : List SlotItem
  deriving DecidableEq, Repr

namespace NodeLine

/-- The address field: host, client port, bus port and suffix. -/
def address (line : NodeLine) : List Char :=
  line.host ++ ':' :: Text.decimal line.port.toNat ++ '@' :: Text.decimal line.busPort.toNat ++
    match line.suffix with
    | none => []
    | some suffix => ',' :: suffix

/-- The fields of the line, in order. -/
def fields (line : NodeLine) : List (List Char) :=
  [line.id, line.address, [','].intercalate line.flags, line.master, line.pingSent,
    line.pongReceived, line.epoch, line.linkState] ++ line.items.map SlotItem.chars

/-- The line as a text. -/
def chars (line : NodeLine) : List Char :=
  [' '].intercalate line.fields

/-- The line as a string. -/
def text (line : NodeLine) : String :=
  String.ofList line.chars

/-- The node that the line describes. -/
def node (line : NodeLine) : Node where
  id := String.ofList line.id
  host := String.ofList line.host
  port := line.port
  busPort := line.busPort
  flags := ⟨line.flags.map String.ofList⟩
  masterId := if line.master = ['-'] then none else some (String.ofList line.master)
  linkState := String.ofList line.linkState
  slots := line.items.filterMap SlotItem.range?

end NodeLine

end ClusterSteward
