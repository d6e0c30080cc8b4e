import ClusterSteward.Node.Line

/-!
# Reading node lines

A line of a listing is read from left to right, field by field. Reading never fails: a line that
ends early leaves the later fields at their defaults, an unreadable port is zero, and an item that
is no slot is left out. Each function below reads one field into the node it is given and goes on
with the rest of the line.
-/

namespace ClusterSteward.Node

/-- The mark that may stand in front of a reply. -/
def replyMark : List Char :=
  "txt:".toList

/-- A line without the blanks at its ends and without one reply mark. -/
def stripLine (line : List Char) : List Char :=
  Text.dropOpening replyMark (Text.trim line)

/-- The host and the client port of an address. The last group of digits is the port, unless the
whole address is in brackets or the group closes a double colon; such an address, and one without
a readable port, is all host. Brackets around the host are dropped. -/
def splitAddress (address : List Char) : List Char × UInt16 :=
  if address.head? = some '[' ∧ address.getLast? = some ']' then (address, 0)
  else
    match Text.cutLast ':' address with
    | none => (address, 0)
    | some (host, port) =>
        -- in `::1` the last group belongs to the host
        if host.getLast? = some ':' then (address, 0)
        else
          match Text.readUInt16 port with
          | none => (address, 0)
          | some port =>
              (((host.dropWhile (· = '[')).reverse.dropWhile (· = ']')).reverse, port)

/-- The bus port of its field, which ends at the first comma. -/
def readBusPort (field : List Char) : UInt16 :=
  (Text.readUInt16 (Text.trim (field.takeWhile (· ≠ ',')))).getD 0

/-- The range written by an item of the slot list. -/
def readSlotItem (item : List Char) : Option SlotRange :=
  if item.head? = some '[' then none
  else
    match Text.cut '-' item with
    | some (left, right) => do
        let left ← Text.readUInt16 left
        let right ← Text.readUInt16 right
        return .between left right
    | none => (Text.readUInt16 item).map .single

/-- Read the link state, which starts at the next ASCII letter, and the slots after it. -/
def readLink (node : Node) (text : List Char) : Node :=
  match text.dropWhile (fun c ↦ !c.isAlpha) with
  | [] => node
  | tail =>
      { node with
        linkState := String.ofList (tail.takeWhile (· ≠ ' '))
        slots := (Text.words (tail.dropWhile (· ≠ ' '))).filterMap readSlotItem }

/-- Read the master of a replica. The field of another node is skipped with the counters. -/
def readMaster (node : Node) (text : List Char) : Node :=
  if node.isReplica then
    match Text.cut ' ' text with
    | none => node
    | some (master, rest) =>
        if master = ['-'] ∨ master = [] then readLink node rest
        else readLink { node with masterId := some (String.ofList master) } rest
  else readLink node text

/-- Read the flags, which may end the line. -/
def readFlags (node : Node) (text : List Char) : Node :=
  match Text.cut ' ' text with
  | none => { node with flags := .ofChars text }
  | some (flags, rest) => readMaster { node with flags := .ofChars flags } rest

/-- Read the bus port. -/
def readBus (node : Node) (text : List Char) : Node :=
  match Text.cut ' ' text with
  | none => node
  | some (port, rest) => readFlags { node with busPort := readBusPort port } rest

/-- Read the address up to the bus port. -/
def readAddress (node : Node) (text : List Char) : Node :=
  match Text.cut '@' text with
  | none => node
  | some (address, rest) =>
      readBus { node with
        host := String.ofList (splitAddress address).1, port := (splitAddress address).2 } rest

/-- Read the id, which may be all there is. -/
def readId (text : List Char) : Node :=
  match Text.cut ' ' text with
  | none => { id := String.ofList text }
  | some (id, rest) => readAddress { id := String.ofList id } rest

/-- The node described by the characters of a line. -/
def ofChars (line : List Char) : Node :=
  readId (stripLine line)

/-- The node described by a line. -/
def parse (line : String) : Node :=
  ofChars line.toList

end ClusterSteward.Node
