import ClusterSteward.Listing
import ClusterSteward.Proofs.Slot.Coverage
import ClusterSteward.Proofs.Text.Words

/-!
# What reading gives for every line

Whatever a line holds, each reader sets its own field and goes on to the next, and the ranges of the
node that is read have their bounds in order. There is a lemma for each reader, from the last field of
the line to the first. Main statements: `Node.exists_readFlags`, `Node.id_ofChars_infix` and
`Listing.ordered_parse`.
-/

namespace ClusterSteward

namespace Node

/-- All ranges of the node have their bounds in order. -/
def Ordered (node : Node) : Prop :=
  ∀ range ∈ node.slots, range.Ordered

/-- A slot item is read as an ordered range. -/
theorem ordered_of_readSlotItem {item : List Char} {range : SlotRange}
    (h : readSlotItem item = some range) : range.Ordered := by
  rw [readSlotItem] at h
  split at h
  next => cases h
  next =>
    split at h
    next left right _ =>
      simp only [Option.bind_eq_bind, Option.bind_eq_some_iff, Option.pure_def] at h
      obtain ⟨first, -, last, -, heq⟩ := h
      obtain rfl := Option.some.inj heq
      exact SlotRange.ordered_between first last
    next =>
      obtain ⟨slot, -, rfl⟩ := Option.map_eq_some_iff.1 h
      exact UInt16.le_refl slot

/-- Ranges stay ordered when the link state and the slots are read. -/
theorem ordered_readLink (node : Node) (text : List Char) (h : node.Ordered) :
    (readLink node text).Ordered := by
  rw [readLink]
  split
  next => exact h
  next =>
    intro range hrange
    obtain ⟨item, -, hitem⟩ := List.mem_filterMap.1 hrange
    exact ordered_of_readSlotItem hitem

/-- Reading from the master on sets the master at most, and goes on to the link state. -/
theorem exists_readMaster (node : Node) (text : List Char) :
    ∃ masterId rest, readMaster node text = readLink { node with masterId } rest := by
  rw [readMaster]
  split
  next =>
    split
    -- the text ends in the master, so that no link state is left
    next => exact ⟨node.masterId, [], rfl⟩
    next master rest _ =>
      split
      next => exact ⟨node.masterId, rest, rfl⟩
      next => exact ⟨some (String.ofList master), rest, rfl⟩
  next => exact ⟨node.masterId, text, rfl⟩

/-- Reading from the flags on sets the flags and the master, and goes on to the link state. -/
theorem exists_readFlags (node : Node) (text : List Char) :
    ∃ flags masterId rest, readFlags node text = readLink { node with flags, masterId } rest := by
  rw [readFlags]
  split
  next => exact ⟨.ofChars text, node.masterId, [], rfl⟩
  next flags rest _ => exact ⟨.ofChars flags, exists_readMaster _ rest⟩

/-- Ranges stay ordered when the text is read from the flags on. -/
theorem ordered_readFlags (node : Node) (text : List Char) (h : node.Ordered) :
    (readFlags node text).Ordered := by
  obtain ⟨flags, masterId, rest, heq⟩ := exists_readFlags node text
  rw [heq]
  exact ordered_readLink _ rest h

/-- Ranges stay ordered when the text is read from the bus port on. -/
theorem ordered_readBus (node : Node) (text : List Char) (h : node.Ordered) :
    (readBus node text).Ordered := by
  rw [readBus]
  split
  next => exact h
  next port rest _ => exact ordered_readFlags _ rest h

/-- Ranges stay ordered when the text is read from the address on. -/
theorem ordered_readAddress (node : Node) (text : List Char) (h : node.Ordered) :
    (readAddress node text).Ordered := by
  rw [readAddress]
  split
  next => exact h
  next address rest _ => exact ordered_readBus _ rest h

/-- Nothing behind the id of a line changes the id. -/
theorem id_readAddress (node : Node) (text : List Char) : (readAddress node text).id = node.id := by
  have hlink : ∀ (node : Node) (text : List Char), (readLink node text).id = node.id := by
    intro node text
    rw [readLink]
    split <;> rfl
  rw [readAddress]
  split
  next => rfl
  next address rest _ =>
    rw [readBus]
    split
    next => rfl
    next port rest _ =>
      obtain ⟨flags, masterId, rest, heq⟩ := exists_readFlags _ rest
      rw [heq, hlink]

/-- Stripping leaves a consecutive piece of a line. -/
theorem stripLine_infix (line : List Char) : stripLine line <:+: line :=
  (Text.dropOpening_suffix _ _).isInfix.trans (Text.trim_infix line)

/-- The id that is read from a line is a consecutive piece of it. -/
theorem id_ofChars_infix (line : List Char) : (ofChars line).id.toList <:+: line := by
  have hstrip : stripLine line <:+: line := stripLine_infix line
  rw [ofChars, readId]
  split
  next => rwa [String.toList_ofList]
  next id rest hcut =>
    have hid : id <+: stripLine line := ⟨_, (Text.eq_of_cut hcut).1.symm⟩
    rw [id_readAddress, String.toList_ofList]
    exact hid.isInfix.trans hstrip

/-- The ranges that are read from a line have their bounds in order. -/
theorem ordered_ofChars (line : List Char) : (ofChars line).Ordered := by
  have hnone : ∀ id : String, Ordered { id } := fun _ _ hrange => nomatch hrange
  rw [ofChars, readId]
  split
  next => exact hnone _
  next id rest _ => exact ordered_readAddress _ rest (hnone _)

end Node

namespace Listing

/-- All ranges of the listed nodes have their bounds in order. -/
def Ordered (listing : Listing) : Prop :=
  ∀ node ∈ listing.nodes, node.Ordered

/-- The ranges of a listing that was read have their bounds in order. -/
theorem ordered_parse (text : String) : (parse text).Ordered := by
  intro node hnode
  obtain ⟨line, -, rfl⟩ := List.mem_map.1 hnode
  exact Node.ordered_ofChars line

end Listing

end ClusterSteward
