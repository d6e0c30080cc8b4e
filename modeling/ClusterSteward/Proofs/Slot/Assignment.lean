import ClusterSteward.Proofs.Plan.Amounts

/-!
# Assigned slots

What the number of assigned slots of a listing tells. It is the width of all ranges of masters, so
that it counts a slot once for every range that it lies in, and ranges of other nodes not at all.
Main statements: `Listing.totalSlotsAssigned_eq` and `Listing.tallied`, by which the number is that
of the slots that masters own exactly when no slot is listed twice.
-/

namespace ClusterSteward

/-! ## Counting over nodes -/

namespace Node

variable {nodes : List Node}

/-- The slots of nodes are counted while the ranges of each fit a count word. -/
theorem mapM_slotCount_of_lt (h : ∀ node ∈ nodes, node.listedWidth < countLimit) :
    nodes.mapM slotCount = .ok (nodes.map listedWidth) := by
  induction nodes with
  | nil => rfl
  | cons node nodes ih =>
      obtain ⟨hnode, hnodes⟩ := List.forall_mem_cons.1 h
      rw [List.mapM_cons, slotCount_eq, if_pos hnode, ih hnodes]
      rfl

/-- The slots of nodes are not counted when the ranges of one do not fit a count word. -/
theorem mapM_slotCount_of_le {node : Node} (hnode : node ∈ nodes)
    (h : countLimit ≤ node.listedWidth) : nodes.mapM slotCount = .error .additionOverflow := by
  induction nodes with
  | nil => cases hnode
  | cons first nodes ih =>
      rw [List.mapM_cons, slotCount_eq]
      -- the count fails at the first node already, or at one of the others
      by_cases hfirst : first.listedWidth < countLimit
      · have hrest : node ∈ nodes := by
          rcases List.mem_cons.1 hnode with rfl | hmem
          · exact absurd hfirst (Nat.not_lt.2 h)
          · exact hmem
        rw [if_pos hfirst, ih hrest]
        rfl
      · rw [if_neg hfirst]
        rfl

end Node

namespace Listing

variable {listing : Listing}

/-- The widths of the ranges of all masters together. -/
def masterWidth (listing : Listing) : Nat :=
  (listing.masterRanges.map SlotRange.width).sum

/-- The ranges of all masters are as wide as those of each master together. -/
theorem sum_listedWidth_masters (listing : Listing) :
    (listing.masters.map Node.listedWidth).sum = listing.masterWidth := by
  rw [masterWidth, masterRanges]
  induction listing.masters with
  | nil => rfl
  | cons node nodes ih =>
      rw [List.map_cons, List.sum_cons, List.flatMap_cons, List.map_append, List.sum_append, ih]
      rfl

/-- The number of assigned slots is the width of the ranges of all masters, while that fits a count
word. -/
theorem totalSlotsAssigned_eq (listing : Listing) :
    listing.totalSlotsAssigned =
      if listing.masterWidth < countLimit then .ok listing.masterWidth
      else .error .additionOverflow := by
  rw [totalSlotsAssigned, ← sum_listedWidth_masters]
  by_cases hcounted : ∀ node ∈ listing.masters, node.listedWidth < countLimit
  · rw [Node.mapM_slotCount_of_lt hcounted]
    exact sumCounts_eq _
  · simp only [not_forall, Nat.not_lt] at hcounted
    obtain ⟨node, hnode, hwide⟩ := hcounted
    have hsum : node.listedWidth ≤ (listing.masters.map Node.listedWidth).sum :=
      List.le_sum_of_mem (List.mem_map_of_mem hnode)
    rw [Node.mapM_slotCount_of_le hnode hwide, if_neg (Nat.not_lt.2 (Nat.le_trans hwide hsum))]
    rfl

/-! ## Owned slots -/

/-- The slots that masters own. -/
def masterSlots (listing : Listing) : Finset Slot :=
  {slot | ∃ node ∈ listing.nodes, node.isMaster = true ∧ node.owns slot = true}

/-- Masters own the slots that their ranges cover. -/
theorem masterSlots_eq (listing : Listing) :
    listing.masterSlots = SlotRange.covered listing.masterRanges := by
  ext slot
  rw [mem_covered_masterRanges]
  simp [masterSlots]

/-- The ranges of masters in a listing with ordered ranges are ordered. -/
theorem Ordered.masterRanges (h : listing.Ordered) :
    ∀ range ∈ listing.masterRanges, range.Ordered := by
  intro range hrange
  obtain ⟨node, hnode, hmem⟩ := List.mem_flatMap.1 hrange
  exact h node (List.mem_filter.1 hnode).1 range hmem

/-- The keyspace has as many slots as its size says. -/
theorem card_keyspace : (Finset.univ.filter fun slot : Slot ↦ slot.toNat < keyspace).card =
    keyspace := by
  have hwhole : (⟨0, 16383⟩ : SlotRange).Ordered := (by decide : (0 : Slot) ≤ 16383)
  simp only [← SlotRange.mem_keyspace_iff]
  exact hwhole.card_eq

/-- Slots of the keyspace are all of them exactly when there are as many as in the keyspace. -/
theorem card_eq_keyspace_iff {slots : Finset Slot}
    (h : ∀ slot ∈ slots, slot.toNat < keyspace) :
    slots.card = keyspace ↔ ∀ slot : Slot, slot.toNat < keyspace → slot ∈ slots := by
  have hsub : slots ⊆ Finset.univ.filter fun slot : Slot ↦ slot.toNat < keyspace :=
    fun slot hslot => Finset.mem_filter.2 ⟨Finset.mem_univ slot, h slot hslot⟩
  constructor
  · intro hcard slot hslot
    rw [Finset.eq_of_subset_of_card_le hsub (card_keyspace.trans hcard.symm).le]
    exact Finset.mem_filter.2 ⟨Finset.mem_univ slot, hslot⟩
  · intro hall
    rw [← card_keyspace]
    congr 1
    ext slot
    simpa using ⟨h slot, hall slot⟩

/-! ## What the number tells -/

/-- What the number of assigned slots tells about the ranges of the masters. -/
structure Tallied (listing : Listing) : Prop where
  /-- The masters own no more slots than are assigned, and as many exactly when no slot lies in two
  of their ranges, be they those of one master or of two. -/
  total : ∃ total, listing.totalSlotsAssigned = .ok total ∧ listing.masterSlots.card ≤ total ∧
    (total = listing.masterSlots.card ↔ listing.masterRanges.Pairwise SlotRange.Apart)
  /-- When the ranges of the masters are apart and lie in the keyspace, all slots are assigned
  exactly when a master owns each slot of the keyspace. -/
  complete : (∀ range ∈ listing.masterRanges, range.last.toNat < keyspace) →
    listing.masterRanges.Pairwise SlotRange.Apart →
    ∃ answer, listing.allSlotsAssigned = .ok answer ∧
      (answer = true ↔ ∀ slot : Slot, slot.toNat < keyspace →
        ∃ node ∈ listing.nodes, node.isMaster = true ∧ node.owns slot = true)

/-- The number of assigned slots of a listing with ordered ranges tells about them while it fits a
count word. -/
theorem tallied_of_ordered (hordered : listing.Ordered) (hwidth : listing.masterWidth < countLimit) :
    listing.Tallied := by
  have htotal : listing.totalSlotsAssigned = .ok listing.masterWidth := by
    rw [totalSlotsAssigned_eq, if_pos hwidth]
  have hranges := hordered.masterRanges
  refine ⟨⟨listing.masterWidth, htotal, ?_, ?_⟩, fun hwithin hapart => ?_⟩
  · rw [masterSlots_eq]
    exact SlotRange.card_covered_le_sum_width hranges
  · rw [masterSlots_eq]
    exact SlotRange.sum_width_eq_card_iff hranges
  · have hcard : listing.masterWidth = listing.masterSlots.card := by
      rw [masterSlots_eq]
      exact (SlotRange.sum_width_eq_card_iff hranges).2 hapart
    have hslots : ∀ slot ∈ listing.masterSlots, slot.toNat < keyspace := by
      intro slot hslot
      rw [masterSlots_eq, SlotRange.mem_covered] at hslot
      obtain ⟨range, hrange, hin⟩ := hslot
      exact Nat.lt_of_le_of_lt (SlotRange.mem_iff.1 hin).2 (hwithin range hrange)
    refine ⟨listing.masterWidth == keyspace, by rw [allSlotsAssigned, htotal]; rfl, ?_⟩
    rw [beq_iff_eq, hcard, card_eq_keyspace_iff hslots]
    simp [masterSlots]

/-- On a listing that was read from any text, the number of assigned slots counts those that masters
own, and more only when they list some of them twice; what other nodes list does not count. -/
theorem tallied (text : String) (h : (parse text).masterWidth < countLimit) :
    (parse text).Tallied :=
  tallied_of_ordered (ordered_parse text) h

/-- Two masters list the keyspace in pieces, and a replica lists some of it again. As many slots are
assigned as the keyspace has, so that a master owns each of them. -/
theorem tallied_pieces :
    let listing := parse "a h:1@2 master - 0 0 1 up 9-16383 0-4
b h:3@4 slave a 0 0 2 up 3-9
c h:5@6 master - 0 0 3 up 8 7-5 [8->-a]"
    listing.masterWidth < countLimit ∧ listing.Tallied ∧
      ∀ slot : Slot, slot.toNat < keyspace →
        ∃ node ∈ listing.nodes, node.isMaster = true ∧ node.owns slot = true := by
  intro listing
  have hranges : listing.masterRanges = [⟨9, 16383⟩, ⟨0, 4⟩, ⟨8, 8⟩, ⟨5, 7⟩] := by
    decide +kernel
  have hwidth : listing.masterWidth = keyspace := by
    rw [masterWidth, hranges]
    decide
  have hfits : listing.masterWidth < countLimit := by
    rw [hwidth]
    decide
  have hwithin : ∀ range ∈ listing.masterRanges, range.last.toNat < keyspace := by
    rw [hranges]
    decide
  have hapart : listing.masterRanges.Pairwise SlotRange.Apart := by
    rw [hranges]
    exact List.Pairwise.imp SlotRange.apart_of_lt (by decide)
  have htallied : listing.Tallied := tallied _ hfits
  obtain ⟨answer, hanswer, hall⟩ := htallied.complete hwithin hapart
  have hcomplete : listing.allSlotsAssigned = .ok true := by
    rw [allSlotsAssigned, totalSlotsAssigned_eq, hwidth]
    rfl
  exact ⟨hfits, htallied, hall.1 (Except.ok.inj (hanswer.symm.trans hcomplete))⟩

end Listing

end ClusterSteward
