import ClusterSteward.Proofs.Node.Reading
import ClusterSteward.Proofs.Plan.Planning

/-!
# Who owns which slots

In an unambiguous listing an id names one node and a slot has one owner. What is looked up in such a
listing, by its id or by the edge of a range, is then found wherever it stands. Main statements:
`Unambiguous.find?_eq_some_iff`, and `Borders.below_eq_some_iff` and `Borders.above_eq_some_iff`,
which say what the borders of a range are without the order of the listing.
-/

namespace ClusterSteward

/-- What is the only element with a property is found by it. -/
theorem find?_eq_some_iff_of_unique {α : Type} {property : α → Bool} {values : List α} {value : α}
    (hunique : ∀ left ∈ values, ∀ right ∈ values, property left = true → property right = true →
      left = right) :
    values.find? property = some value ↔ value ∈ values ∧ property value = true := by
  constructor
  · intro h
    exact ⟨List.mem_of_find?_eq_some h, List.find?_some h⟩
  · rintro ⟨hmem, hvalue⟩
    cases hfound : values.find? property with
    | none => exact absurd hvalue (List.find?_eq_none.1 hfound value hmem)
    | some found =>
        have hproperty := List.find?_some hfound
        rw [hunique found (List.mem_of_find?_eq_some hfound) value hmem hproperty hvalue]

namespace Node

variable {node : Node} {first last slot : Slot}

/-- A node owns a slot that lies in one of its ranges. -/
theorem owns_iff : node.owns slot = true ↔ ∃ range ∈ node.slots, slot ∈ range := by
  simp [owns]

/-- The lowest start of a range is the lowest slot that the node owns. -/
theorem Ordered.isLeast_of_firstSlot? (h : node.Ordered) (hfirst : node.firstSlot? = some first) :
    IsLeast {slot | node.owns slot = true} first := by
  obtain ⟨hmem, hleast⟩ := List.min?_eq_some_iff.1 hfirst
  obtain ⟨range, hrange, rfl⟩ := List.mem_map.1 hmem
  refine ⟨owns_iff.2 ⟨range, hrange, (h range hrange).ends_mem.1⟩, fun slot hslot => ?_⟩
  obtain ⟨other, hother, hin⟩ := owns_iff.1 hslot
  exact UInt16.le_trans (hleast _ (List.mem_map_of_mem hother)) hin.1

/-- The highest end of a range is the highest slot that the node owns. -/
theorem Ordered.isGreatest_of_lastSlot? (h : node.Ordered) (hlast : node.lastSlot? = some last) :
    IsGreatest {slot | node.owns slot = true} last := by
  obtain ⟨hmem, hgreatest⟩ := List.max?_eq_some_iff.1 hlast
  obtain ⟨range, hrange, rfl⟩ := List.mem_map.1 hmem
  refine ⟨owns_iff.2 ⟨range, hrange, (h range hrange).ends_mem.2⟩, fun slot hslot => ?_⟩
  obtain ⟨other, hother, hin⟩ := owns_iff.1 hslot
  exact UInt16.le_trans hin.2 (hgreatest _ (List.mem_map_of_mem hother))

/-- A node with ranges has a lowest and a highest slot. -/
theorem exists_ends (h : node.slots ≠ []) :
    ∃ first last, node.firstSlot? = some first ∧ node.lastSlot? = some last := by
  obtain ⟨range, ranges, hranges⟩ := List.exists_cons_of_ne_nil h
  simp [firstSlot?, lastSlot?, hranges]

/-- A node that owns a slot has ranges. -/
theorem slots_ne_nil_of_owns (h : node.owns slot = true) : node.slots ≠ [] := by
  obtain ⟨range, hrange, -⟩ := owns_iff.1 h
  exact List.ne_nil_of_mem hrange

/-- The first slot of a node with ordered ranges is the lowest slot that it owns. -/
theorem Ordered.firstSlot?_eq_some_iff (h : node.Ordered) :
    node.firstSlot? = some first ↔ IsLeast {slot | node.owns slot = true} first := by
  refine ⟨h.isLeast_of_firstSlot?, fun hleast => ?_⟩
  obtain ⟨found, -, hfound, -⟩ := exists_ends (slots_ne_nil_of_owns hleast.1)
  have hlowest := h.isLeast_of_firstSlot? hfound
  rw [hfound, UInt16.le_antisymm (hlowest.2 hleast.1) (hleast.2 hlowest.1)]

/-- The last slot of a node with ordered ranges is the highest slot that it owns. -/
theorem Ordered.lastSlot?_eq_some_iff (h : node.Ordered) :
    node.lastSlot? = some last ↔ IsGreatest {slot | node.owns slot = true} last := by
  refine ⟨h.isGreatest_of_lastSlot?, fun hgreatest => ?_⟩
  obtain ⟨-, found, -, hfound⟩ := exists_ends (slots_ne_nil_of_owns hgreatest.1)
  have hhighest := h.isGreatest_of_lastSlot? hfound
  rw [hfound, UInt16.le_antisymm (hgreatest.2 hhighest.1) (hhighest.2 hgreatest.1)]

end Node

namespace Listing

/-- The ranges of all masters, in listing order. -/
def masterRanges (listing : Listing) : List SlotRange :=
  listing.masters.flatMap Node.slots

/-- An id names one node, and a slot lies in one range of a master at most. -/
structure Unambiguous (listing : Listing) : Prop where
  ids_nodup : (listing.nodes.map Node.id).Nodup
  ranges_apart : listing.masterRanges.Pairwise SlotRange.Apart

/-- The masters share out the keyspace: every slot of it lies in one range of a master, and no other
slot does. -/
structure Partitioned (listing : Listing) : Prop extends Unambiguous listing where
  covered_iff : ∀ slot, slot ∈ SlotRange.covered listing.masterRanges ↔ slot.toNat < keyspace

/-- The node is a listed master and does not have the given id. -/
structure OtherMaster (listing : Listing) (id : String) (node : Node) : Prop where
  mem : node ∈ listing.nodes
  isMaster : node.isMaster = true
  id_ne : node.id ≠ id

variable {listing other : Listing} {id : String} {node neighbor : Node} {slot : Slot}

/-- A slot is covered by the masters when a master owns it. -/
theorem mem_covered_masterRanges : slot ∈ SlotRange.covered listing.masterRanges ↔
    ∃ node ∈ listing.nodes, node.isMaster = true ∧ node.owns slot = true := by
  simp only [SlotRange.mem_covered, masterRanges, masters, List.mem_flatMap, List.mem_filter,
    Node.owns_iff]
  constructor
  · rintro ⟨range, ⟨node, ⟨hnode, hmaster⟩, hrange⟩, hslot⟩
    exact ⟨node, hnode, hmaster, range, hrange, hslot⟩
  · rintro ⟨node, hnode, hmaster, range, hrange, hslot⟩
    exact ⟨range, ⟨node, ⟨hnode, hmaster⟩, hrange⟩, hslot⟩

namespace Unambiguous

/-- A node is found by its id wherever it stands. -/
theorem find?_eq_some_iff (h : listing.Unambiguous) :
    listing.find? id = some node ↔ node ∈ listing.nodes ∧ node.id = id := by
  have hunique : ∀ left ∈ listing.nodes, ∀ right ∈ listing.nodes,
      decide (left.id = id) = true → decide (right.id = id) = true → left = right := by
    intro left hleft right hright hleftId hrightId
    exact List.inj_on_of_nodup_map h.ids_nodup hleft hright
      ((of_decide_eq_true hleftId).trans (of_decide_eq_true hrightId).symm)
  rw [find?, find?_eq_some_iff_of_unique hunique, decide_eq_true_eq]

/-- The ranges of a master are apart from each other. -/
theorem slots_apart (h : listing.Unambiguous) (hnode : node ∈ listing.nodes)
    (hmaster : node.isMaster = true) : node.slots.Pairwise SlotRange.Apart :=
  (List.pairwise_flatMap.1 h.ranges_apart).1 node (List.mem_filter.2 ⟨hnode, hmaster⟩)

/-- A slot has one owner among the masters. -/
theorem eq_of_owns (h : listing.Unambiguous) (hnode : node ∈ listing.nodes)
    (hmaster : node.isMaster = true) (hneighbor : neighbor ∈ listing.nodes)
    (hneighborMaster : neighbor.isMaster = true) (hslot : node.owns slot = true)
    (hneighborSlot : neighbor.owns slot = true) : node = neighbor := by
  by_contra hne
  have hsymm : Std.Symm fun left right : Node ↦
      ∀ first ∈ left.slots, ∀ second ∈ right.slots, first.Apart second :=
    ⟨fun _ _ h first hfirst second hsecond => (h second hsecond first hfirst).symm⟩
  obtain ⟨range, hrange, hin⟩ := Node.owns_iff.1 hslot
  obtain ⟨border, hborder, hborderIn⟩ := Node.owns_iff.1 hneighborSlot
  have hapart := (List.pairwise_flatMap.1 h.ranges_apart).2.forall
    (List.mem_filter.2 ⟨hnode, hmaster⟩) (List.mem_filter.2 ⟨hneighbor, hneighborMaster⟩) hne
  exact hapart range hrange border hborder slot hin hborderIn

/-- Reordering a listing does not make it ambiguous. -/
theorem perm (h : listing.Unambiguous) (hperm : listing.nodes.Perm other.nodes) :
    other.Unambiguous where
  ids_nodup := (hperm.map Node.id).nodup_iff.1 h.ids_nodup
  ranges_apart :=
    have hranges : listing.masterRanges.Perm other.masterRanges :=
      (hperm.filter Node.isMaster).flatMap_right Node.slots
    (List.Perm.pairwise_iff SlotRange.Apart.symm hranges).1 h.ranges_apart

end Unambiguous

end Listing

namespace Borders

variable {listing : Listing} {excluded : String} {node : Node} {first last : Slot}

/-- The last master with a range whose edge has the given number is the only one. -/
theorem lastSuch_edge_eq_some_iff (h : listing.Unambiguous) (hordered : listing.Ordered)
    {edge : SlotRange → Slot} (hedge : ∀ range : SlotRange, range.Ordered → edge range ∈ range)
    {number : Nat} :
    lastSuch (fun node ↦ node.slots.any fun range ↦ (edge range).toNat == number)
        (listing.nodes.filter fun node ↦ node.isSlottedMaster && node.id != excluded) =
        some node ↔
      listing.OtherMaster excluded node ∧ ∃ range ∈ node.slots, (edge range).toNat = number := by
  have hrange : ∀ node : Node, (node.slots.any fun range ↦ (edge range).toNat == number) = true ↔
      ∃ range ∈ node.slots, (edge range).toNat = number := by
    intro node
    simp
  rw [lastSuch, find?_eq_some_iff_of_unique]
  · rw [hrange, List.mem_reverse]
    constructor
    · rintro ⟨hmem, hnode⟩
      obtain ⟨hlisted, hmaster, hid⟩ := mem_candidates hmem
      exact ⟨⟨hlisted, hmaster, hid⟩, hnode⟩
    · rintro ⟨hother, range, hmem, hnumber⟩
      have hslotted : node.slots ≠ [] := List.ne_nil_of_mem hmem
      refine ⟨List.mem_filter.2 ⟨hother.mem, ?_⟩, range, hmem, hnumber⟩
      simp [Node.isSlottedMaster, hother.isMaster, hother.id_ne, hslotted]
  · -- two such masters own the slot at the edge
    intro left hleft right hright hleftEdge hrightEdge
    obtain ⟨hleftMem, hleftMaster, -⟩ := mem_candidates (List.mem_reverse.1 hleft)
    obtain ⟨hrightMem, hrightMaster, -⟩ := mem_candidates (List.mem_reverse.1 hright)
    obtain ⟨leftRange, hleftRange, hleftNumber⟩ := (hrange left).1 hleftEdge
    obtain ⟨rightRange, hrightRange, hrightNumber⟩ := (hrange right).1 hrightEdge
    have hslot : edge leftRange = edge rightRange :=
      UInt16.toNat_inj.1 (hleftNumber.trans hrightNumber.symm)
    have hleftIn := hedge leftRange (hordered left hleftMem leftRange hleftRange)
    have hrightIn := hedge rightRange (hordered right hrightMem rightRange hrightRange)
    exact h.eq_of_owns hleftMem hleftMaster hrightMem hrightMaster
      (Node.owns_iff.2 ⟨leftRange, hleftRange, hleftIn⟩)
      (Node.owns_iff.2 ⟨rightRange, hrightRange, hslot ▸ hrightIn⟩)

/-- The number below a slot is the one that it succeeds. -/
theorem slotBelow?_eq_some_iff {number : Nat} :
    slotBelow? first = some number ↔ number + 1 = first.toNat := by
  rw [slotBelow?]
  split
  next hpos =>
    rw [Option.some.injEq]
    omega
  next hzero =>
    simp only [reduceCtorEq, false_iff]
    omega

/-- The number above a slot succeeds it, while it is in the keyspace. -/
theorem slotAbove?_eq_some_iff {number : Nat} :
    slotAbove? last = some number ↔ number = last.toNat + 1 ∧ number < keyspace := by
  rw [slotAbove?]
  split
  next hlt =>
    rw [Option.some.injEq]
    omega
  next hge =>
    simp only [reduceCtorEq, false_iff]
    omega

/-- The border below is the other master with a range that ends just below the first slot. -/
theorem below_eq_some_iff (h : listing.Unambiguous) (hordered : listing.Ordered) :
    (find listing excluded first last).below = some node ↔
      listing.OtherMaster excluded node ∧
        ∃ range ∈ node.slots, range.last.toNat + 1 = first.toNat := by
  have hedge : ∀ range : SlotRange, range.Ordered → range.last ∈ range :=
    fun range hrange => hrange.ends_mem.2
  rw [find, Option.bind_eq_some_iff]
  constructor
  · rintro ⟨number, hnumber, hnode⟩
    obtain ⟨hother, range, hrange, rfl⟩ := (lastSuch_edge_eq_some_iff h hordered hedge).1 hnode
    exact ⟨hother, range, hrange, slotBelow?_eq_some_iff.1 hnumber⟩
  · rintro ⟨hother, range, hrange, hlast⟩
    exact ⟨range.last.toNat, slotBelow?_eq_some_iff.2 hlast,
      (lastSuch_edge_eq_some_iff h hordered hedge).2 ⟨hother, range, hrange, rfl⟩⟩

/-- The border above is the other master with a range that starts just above the last slot, which is
not the last of the keyspace. -/
theorem above_eq_some_iff (h : listing.Unambiguous) (hordered : listing.Ordered) :
    (find listing excluded first last).above = some node ↔
      listing.OtherMaster excluded node ∧
        ∃ range ∈ node.slots,
          range.first.toNat = last.toNat + 1 ∧ range.first.toNat < keyspace := by
  have hedge : ∀ range : SlotRange, range.Ordered → range.first ∈ range :=
    fun range hrange => hrange.ends_mem.1
  rw [find, Option.bind_eq_some_iff]
  constructor
  · rintro ⟨number, hnumber, hnode⟩
    obtain ⟨hother, range, hrange, rfl⟩ := (lastSuch_edge_eq_some_iff h hordered hedge).1 hnode
    exact ⟨hother, range, hrange, slotAbove?_eq_some_iff.1 hnumber⟩
  · rintro ⟨hother, range, hrange, hfirst⟩
    exact ⟨range.first.toNat, slotAbove?_eq_some_iff.2 hfirst,
      (lastSuch_edge_eq_some_iff h hordered hedge).2 ⟨hother, range, hrange, rfl⟩⟩

end Borders

end ClusterSteward
