import ClusterSteward.Proofs.Plan.Ownership

/-!
# Emptying a master of a partitioned listing

In a partitioned listing the slot beside the slots of a master has an owner, and the range in which
it lies begins or ends exactly there. So the borders of a master are the owners of the slots beside
its own, however fragmented it is. Main statement: `Planning.exists_evacuated`.
-/

namespace ClusterSteward

namespace Node

/-- The node owns the slot just below the given one. -/
def OwnsBelow (node : Node) (first : Slot) : Prop :=
  ∃ slot, node.owns slot = true ∧ slot.toNat + 1 = first.toNat

/-- The node owns the slot just above the given one. -/
def OwnsAbove (node : Node) (last : Slot) : Prop :=
  ∃ slot, node.owns slot = true ∧ slot.toNat = last.toNat + 1

/-- The slots that the node owns. -/
def ownedSlots (node : Node) : Finset Slot :=
  {slot | node.owns slot = true}

end Node

variable {listing : Listing} {node neighbor : Node} {first last slot : Slot} {word : UInt64}

/-- A node whose highest slot is in the keyspace owns the last slot of the keyspace exactly when the
two are the same. -/
theorem Node.owns_last_iff (h : IsGreatest {slot | node.owns slot = true} last)
    (hlt : last.toNat < keyspace) : node.owns 16383 = true ↔ last.toNat + 1 = keyspace := by
  have hnat : (16383 : Slot).toNat + 1 = keyspace := by decide
  constructor
  · intro howns
    have hle : (16383 : Slot).toNat ≤ last.toNat := h.2 howns
    omega
  · intro hlast
    have heq : last = 16383 := UInt16.toNat_inj.1 (by omega)
    exact heq ▸ h.1

/-- A node owns slot zero exactly when its lowest slot is zero. -/
theorem Node.owns_zero_iff (h : IsLeast {slot | node.owns slot = true} first) :
    node.owns 0 = true ↔ first.toNat = 0 := by
  constructor
  · intro howns
    have hle : first.toNat ≤ (0 : Slot).toNat := h.2 howns
    exact Nat.le_zero.1 hle
  · intro hfirst
    have heq : first = 0 := UInt16.toNat_inj.1 hfirst
    exact heq ▸ h.1

/-- A master of an unambiguous listing counts each of its slots once. -/
theorem Listing.Unambiguous.slotCount_eq (h : listing.Unambiguous) (hordered : listing.Ordered)
    (hnode : node ∈ listing.nodes) (hmaster : node.isMaster = true) :
    node.slotCount = .ok node.ownedSlots.card := by
  have howned : SlotRange.covered node.slots = node.ownedSlots := by
    ext slot
    simp [Node.ownedSlots, Node.owns_iff]
  rw [Node.slotCount, SlotRange.totalWidth_of_apart (hordered node hnode)
    (h.slots_apart hnode hmaster), howned]

/-! ## The owners beside a master -/

section

variable (h : listing.Unambiguous) (hordered : listing.Ordered) (hnode : node ∈ listing.nodes)
  (hmaster : node.isMaster = true)

include h hordered hnode hmaster

omit hordered in
/-- No other master owns a slot of a master. -/
theorem not_owns_of_otherMaster (hother : listing.OtherMaster node.id neighbor)
    (hslot : node.owns slot = true) : neighbor.owns slot ≠ true := by
  intro hneighbor
  have heq := h.eq_of_owns hnode hmaster hother.mem hother.isMaster hslot hneighbor
  exact hother.id_ne (congrArg Node.id heq).symm

/-- The border below a master is the owner of the slot just below. -/
theorem below_eq_some_iff_ownsBelow (hfirst : node.owns first = true) :
    (Borders.find listing node.id first last).below = some neighbor ↔
      listing.OtherMaster node.id neighbor ∧ neighbor.OwnsBelow first := by
  rw [Borders.below_eq_some_iff h hordered]
  refine and_congr_right fun hother => ?_
  constructor
  · rintro ⟨range, hrange, hlast⟩
    have hend := (hordered neighbor hother.mem range hrange).ends_mem.2
    exact ⟨range.last, Node.owns_iff.2 ⟨range, hrange, hend⟩, hlast⟩
  · rintro ⟨slot, hslot, hbelow⟩
    obtain ⟨range, hrange, hin⟩ := Node.owns_iff.1 hslot
    refine ⟨range, hrange, ?_⟩
    -- a range that goes on would hold the first slot, which belongs to the master
    by_contra hlast
    have hbounds := SlotRange.mem_iff.1 hin
    have hmem : first ∈ range := SlotRange.mem_iff.2 (by omega)
    exact not_owns_of_otherMaster h hnode hmaster hother hfirst
      (Node.owns_iff.2 ⟨range, hrange, hmem⟩)

/-- The border above a master is the owner of the slot just above, inside the keyspace. -/
theorem above_eq_some_iff_ownsAbove (hlast : node.owns last = true) :
    (Borders.find listing node.id first last).above = some neighbor ↔
      listing.OtherMaster node.id neighbor ∧ neighbor.OwnsAbove last ∧
        last.toNat + 1 < keyspace := by
  rw [Borders.above_eq_some_iff h hordered]
  refine and_congr_right fun hother => ?_
  constructor
  · rintro ⟨range, hrange, hfirst, hlt⟩
    have hstart := (hordered neighbor hother.mem range hrange).ends_mem.1
    exact ⟨⟨range.first, Node.owns_iff.2 ⟨range, hrange, hstart⟩, hfirst⟩, hfirst ▸ hlt⟩
  · rintro ⟨⟨slot, hslot, habove⟩, hlt⟩
    obtain ⟨range, hrange, hin⟩ := Node.owns_iff.1 hslot
    have hbounds := SlotRange.mem_iff.1 hin
    have hfirst : range.first.toNat = last.toNat + 1 := by
      by_contra hne
      have hmem : last ∈ range := SlotRange.mem_iff.2 (by omega)
      exact not_owns_of_otherMaster h hnode hmaster hother hlast
        (Node.owns_iff.2 ⟨range, hrange, hmem⟩)
    exact ⟨range, hrange, hfirst, hfirst ▸ hlt⟩

end

namespace Listing.Partitioned

/-- A slot of the keyspace that a master does not own belongs to another master. -/
theorem exists_otherMaster (h : listing.Partitioned) (hnode : node ∈ listing.nodes)
    (hslot : slot.toNat < keyspace) (hfree : node.owns slot ≠ true) :
    ∃ neighbor, listing.OtherMaster node.id neighbor ∧ neighbor.owns slot = true := by
  obtain ⟨neighbor, hneighbor, hmaster, howns⟩ :=
    mem_covered_masterRanges.1 ((h.covered_iff slot).2 hslot)
  refine ⟨neighbor, ⟨hneighbor, hmaster, fun hid => hfree ?_⟩, howns⟩
  rwa [List.inj_on_of_nodup_map h.ids_nodup hnode hneighbor hid.symm]

/-- Masters own no slot outside the keyspace. -/
theorem lt_of_owns (h : listing.Partitioned) (hnode : node ∈ listing.nodes)
    (hmaster : node.isMaster = true) (hslot : node.owns slot = true) : slot.toNat < keyspace :=
  (h.covered_iff slot).1 (mem_covered_masterRanges.2 ⟨node, hnode, hmaster, hslot⟩)

section

variable (h : listing.Partitioned) (hordered : listing.Ordered) (hnode : node ∈ listing.nodes)
  (hmaster : node.isMaster = true)

include h hordered hnode hmaster

/-- The border above a master is the owner of the slot just above, which is in the keyspace. -/
theorem above_eq_some_iff (hlast : IsGreatest {slot | node.owns slot = true} last) :
    (Borders.find listing node.id first last).above = some neighbor ↔
      listing.OtherMaster node.id neighbor ∧ neighbor.OwnsAbove last := by
  rw [above_eq_some_iff_ownsAbove h.toUnambiguous hordered hnode hmaster hlast.1]
  refine and_congr_right fun hother => and_iff_left_of_imp ?_
  rintro ⟨slot, hslot, habove⟩
  exact habove ▸ h.lt_of_owns hother.mem hother.isMaster hslot

/-- A master has a border below exactly when its lowest slot is not the first of the keyspace. -/
theorem isSome_below_iff (hfirst : IsLeast {slot | node.owns slot = true} first) :
    (Borders.find listing node.id first last).below.isSome = true ↔ 0 < first.toNat := by
  simp only [Option.isSome_iff_exists,
    below_eq_some_iff_ownsBelow h.toUnambiguous hordered hnode hmaster hfirst.1]
  constructor
  · rintro ⟨neighbor, -, slot, -, hbelow⟩
    omega
  · intro hpos
    have hlt := first.toNat_lt_size
    have hnat : (UInt16.ofNat (first.toNat - 1)).toNat = first.toNat - 1 :=
      UInt16.toNat_ofNat_of_lt' (by omega)
    have hfree : node.owns (UInt16.ofNat (first.toNat - 1)) ≠ true := by
      intro howns
      have hle : first.toNat ≤ (UInt16.ofNat (first.toNat - 1)).toNat := hfirst.2 howns
      omega
    have hkeyspace := h.lt_of_owns hnode hmaster hfirst.1
    obtain ⟨neighbor, hother, howns⟩ := h.exists_otherMaster hnode (by omega) hfree
    exact ⟨neighbor, hother, _, howns, by omega⟩

/-- A master has a border above exactly when its highest slot is not the last of the keyspace. -/
theorem isSome_above_iff (hlast : IsGreatest {slot | node.owns slot = true} last) :
    (Borders.find listing node.id first last).above.isSome = true ↔ last.toNat + 1 < keyspace := by
  simp only [Option.isSome_iff_exists, h.above_eq_some_iff hordered hnode hmaster hlast]
  constructor
  · rintro ⟨neighbor, hother, slot, hslot, habove⟩
    exact habove ▸ h.lt_of_owns hother.mem hother.isMaster hslot
  · intro hlt
    have hnat : (UInt16.ofNat (last.toNat + 1)).toNat = last.toNat + 1 :=
      UInt16.toNat_ofNat_of_lt' (Nat.lt_trans hlt (by decide))
    have hfree : node.owns (UInt16.ofNat (last.toNat + 1)) ≠ true := by
      intro howns
      have hle : (UInt16.ofNat (last.toNat + 1)).toNat ≤ last.toNat := hlast.2 howns
      omega
    obtain ⟨neighbor, hother, howns⟩ := h.exists_otherMaster hnode (by omega) hfree
    exact ⟨neighbor, hother, _, howns, hnat⟩

end

end Listing.Partitioned

/-! ## The plan -/

namespace Planning

/-- There is a receiver exactly when there is a border. -/
theorem Receivers.isSome_ofBorders? (borders : Borders) :
    (ofBorders? borders).isSome = (borders.below.isSome || borders.above.isSome) := by
  obtain ⟨below, above⟩ := borders
  cases below <;> cases above <;> rfl

section

variable {count : Nat} (hfind : listing.find? node.id = some node)
  (hmaster : node.isMaster = true) (hfirst : node.firstSlot? = some first)
  (hlast : node.lastSlot? = some last)

include hfind hmaster hfirst hlast

/-- Whether a listed master can be emptied depends on its borders alone. -/
theorem evacuation_of_master :
    evacuation listing node.id =
      match Receivers.ofBorders? (Borders.find listing node.id first last) with
      | none => .error (.noBorder node.id first last)
      | some receivers => .ok (node, receivers) := by
  have hreplica : node.isReplica = false := by
    rw [Node.isMaster, Bool.and_eq_true, Bool.not_eq_true'] at hmaster
    exact hmaster.2
  simp only [evacuation, hfind, hmaster, hreplica, hfirst, hlast]
  cases Receivers.ofBorders? (Borders.find listing node.id first last) <;> rfl

/-- The plan that empties a master, or the refusal when it has no border. -/
theorem empty_of_master (hcount : node.slotCount = .ok count) :
    empty listing node.id word =
      match Receivers.ofBorders? (Borders.find listing node.id first last) with
      | none => .ok (.error (.noBorder node.id first last))
      | some receivers => .ok (.ok ⟨(receivers.pick word).id, .node node.id, count⟩) := by
  rw [empty, evacuation_of_master hfind hmaster hfirst hlast]
  cases Receivers.ofBorders? (Borders.find listing node.id first last) with
  | none => rfl
  | some receivers => simp [hcount]

/-- There is a plan that empties a master exactly when it has a border. -/
theorem exists_plan_iff (hcount : node.slotCount = .ok count) :
    (∃ plan, empty listing node.id word = .ok (.ok plan)) ↔
      (Borders.find listing node.id first last).below.isSome = true ∨
        (Borders.find listing node.id first last).above.isSome = true := by
  rw [empty_of_master hfind hmaster hfirst hlast hcount, ← Bool.or_eq_true,
    ← Receivers.isSome_ofBorders?]
  cases Receivers.ofBorders? (Borders.find listing node.id first last) <;> simp

/-- The plan that empties a master moves its slots into one of its borders. -/
theorem border_of_empty (hcount : node.slotCount = .ok count) {plan : Plan}
    (hplan : empty listing node.id word = .ok (.ok plan)) :
    ∃ receiver, plan = ⟨receiver.id, .node node.id, count⟩ ∧
      ((Borders.find listing node.id first last).below = some receiver ∨
        (Borders.find listing node.id first last).above = some receiver) := by
  rw [empty_of_master hfind hmaster hfirst hlast hcount] at hplan
  cases hreceivers : Receivers.ofBorders? (Borders.find listing node.id first last) with
  | none => simp [hreceivers] at hplan
  | some receivers =>
      rw [hreceivers, Except.ok.injEq, Except.ok.injEq] at hplan
      exact ⟨receivers.pick word, hplan.symm, Receivers.eq_of_pick hreceivers word⟩

/-- A random word is drawn when a master has a border on each side. -/
theorem draws_of_master :
    draws listing node.id =
      if (Borders.find listing node.id first last).below.isSome ∧
          (Borders.find listing node.id first last).above.isSome then 1 else 0 := by
  rw [draws, evacuation_of_master hfind hmaster hfirst hlast]
  obtain ⟨below, above⟩ := Borders.find listing node.id first last
  cases below <;> cases above <;> rfl

end

/-- What it comes to that a master is emptied whose lowest slot is `first` and whose highest slot is
`last`. -/
structure Evacuated (listing : Listing) (node : Node) (first last : Slot) : Prop where
  /-- The first slot is the lowest that the master owns. -/
  isLeast : IsLeast {slot | node.owns slot = true} first
  /-- The last slot is the highest that the master owns. -/
  isGreatest : IsGreatest {slot | node.owns slot = true} last
  /-- There is a plan, whatever the random word, unless the master owns both ends of the
  keyspace. -/
  planned_iff : ∀ word, (∃ plan, empty listing node.id word = .ok (.ok plan)) ↔
    ¬(node.owns 0 = true ∧ node.owns 16383 = true)
  /-- A plan moves all slots of the master into another master that owns a slot beside them. -/
  planned : ∀ word plan, empty listing node.id word = .ok (.ok plan) →
    plan.source = .node node.id ∧ plan.count = node.ownedSlots.card ∧
      ∃ receiver, listing.OtherMaster node.id receiver ∧ plan.target = receiver.id ∧
        (receiver.OwnsBelow first ∨ receiver.OwnsAbove last)
  /-- The border below is the other master that owns the slot below. -/
  below_iff : ∀ neighbor, (Borders.find listing node.id first last).below = some neighbor ↔
    listing.OtherMaster node.id neighbor ∧ neighbor.OwnsBelow first
  /-- The border above is the other master that owns the slot above. -/
  above_iff : ∀ neighbor, (Borders.find listing node.id first last).above = some neighbor ↔
    listing.OtherMaster node.id neighbor ∧ neighbor.OwnsAbove last
  /-- One random word is drawn when both borders exist, and none otherwise. -/
  draws_eq : draws listing node.id =
    if (Borders.find listing node.id first last).below.isSome ∧
        (Borders.find listing node.id first last).above.isSome then 1 else 0
  /-- When both borders exist, the lower half of the random words chooses the border below. -/
  choice : ∀ below above, Borders.find listing node.id first last = ⟨some below, some above⟩ →
    ∀ word : UInt64, empty listing node.id word = .ok (.ok
      ⟨if word.toNat < 2 ^ 63 then below.id else above.id, .node node.id, node.ownedSlots.card⟩)

/-- In a partitioned listing whose ranges are ordered a master with slots is emptied into the owner
of a slot beside its own, unless it owns both ends of the keyspace. -/
theorem exists_evacuated_of_ordered (h : listing.Partitioned) (hordered : listing.Ordered)
    (hnode : node ∈ listing.nodes) (hslotted : node.isSlottedMaster = true) :
    ∃ first last, Evacuated listing node first last := by
  rw [Node.isSlottedMaster, Bool.and_eq_true, Bool.not_eq_true', List.isEmpty_eq_false_iff]
    at hslotted
  obtain ⟨hmaster, hslots⟩ := hslotted
  have hfind : listing.find? node.id = some node := h.find?_eq_some_iff.2 ⟨hnode, rfl⟩
  obtain ⟨first, last, hfirst, hlast⟩ := Node.exists_ends hslots
  have hleast := (hordered node hnode).isLeast_of_firstSlot? hfirst
  have hgreatest := (hordered node hnode).isGreatest_of_lastSlot? hlast
  have hcount := h.slotCount_eq hordered hnode hmaster
  refine ⟨first, last, ?_⟩
  constructor
  case isLeast => exact hleast
  case isGreatest => exact hgreatest
  case below_iff =>
    exact fun _ => below_eq_some_iff_ownsBelow h.toUnambiguous hordered hnode hmaster hleast.1
  case above_iff => exact fun _ => h.above_eq_some_iff hordered hnode hmaster hgreatest
  case planned_iff =>
    intro word
    have hlt := h.lt_of_owns hnode hmaster hgreatest.1
    rw [exists_plan_iff hfind hmaster hfirst hlast hcount,
      h.isSome_below_iff hordered hnode hmaster hleast,
      h.isSome_above_iff hordered hnode hmaster hgreatest, Node.owns_zero_iff hleast,
      Node.owns_last_iff hgreatest hlt]
    omega
  case planned =>
    intro word plan hplan
    obtain ⟨receiver, rfl, hbelow | habove⟩ :=
      border_of_empty hfind hmaster hfirst hlast hcount hplan
    · obtain ⟨hother, howns⟩ := (below_eq_some_iff_ownsBelow h.toUnambiguous hordered hnode
        hmaster hleast.1).1 hbelow
      exact ⟨rfl, by simp only, receiver, hother, rfl, .inl howns⟩
    · obtain ⟨hother, howns⟩ := (h.above_eq_some_iff hordered hnode hmaster hgreatest).1 habove
      exact ⟨rfl, by simp only, receiver, hother, rfl, .inr howns⟩
  case draws_eq => exact draws_of_master hfind hmaster hfirst hlast
  case choice =>
    intro below above hborders word
    rw [empty_of_master hfind hmaster hfirst hlast hcount, hborders]
    simp only [Receivers.ofBorders?, Receivers.pick, apply_ite Node.id]
    rfl

/-- In a partitioned listing that was read a master with slots is emptied into the owner of a slot
beside its own, unless it owns both ends of the keyspace. Fragmented owners make no difference. -/
theorem exists_evacuated (text : String) (h : (Listing.parse text).Partitioned)
    (hnode : node ∈ (Listing.parse text).nodes) (hslotted : node.isSlottedMaster = true) :
    ∃ first last, Evacuated (Listing.parse text) node first last :=
  exists_evacuated_of_ordered h (Listing.ordered_parse text) hnode hslotted

/-- A fragmented master between two others, one of them fragmented too, in a listing with a
replica. -/
theorem exists_evacuated_fragmented :
    let text := "a 10.0.0.1:7000@17000 master - 0 0 1 connected 100-199 5000-5460
b 10.0.0.2:7000@17000 master - 0 0 2 connected 0-99 200-4999
c 10.0.0.3:7000@17000 master - 0 0 3 connected 5461-16383
d 10.0.0.4:7000@17000 slave a 0 0 1 connected"
    let node : Node :=
      { id := "a", host := "10.0.0.1", port := 7000, busPort := 17000,
        flags := Flags.parse "master", linkState := "connected",
        slots := [⟨100, 199⟩, ⟨5000, 5460⟩] }
    (Listing.parse text).Partitioned ∧ node ∈ (Listing.parse text).nodes ∧
      node.isSlottedMaster = true ∧
      ∃ first last, Evacuated (Listing.parse text) node first last := by
  intro text node
  have hlisting : Listing.parse text = ⟨[node,
      { id := "b", host := "10.0.0.2", port := 7000, busPort := 17000,
        flags := Flags.parse "master", linkState := "connected",
        slots := [⟨0, 99⟩, ⟨200, 4999⟩] },
      { id := "c", host := "10.0.0.3", port := 7000, busPort := 17000,
        flags := Flags.parse "master", linkState := "connected", slots := [⟨5461, 16383⟩] },
      { id := "d", host := "10.0.0.4", port := 7000, busPort := 17000,
        flags := Flags.parse "slave", masterId := some "a", linkState := "connected" }]⟩ := by
    decide +kernel
  have hmasterRanges : (Listing.parse text).masterRanges =
      [⟨100, 199⟩, ⟨5000, 5460⟩, ⟨0, 99⟩, ⟨200, 4999⟩, ⟨5461, 16383⟩] := by
    rw [hlisting]
    decide
  have hpartitioned : (Listing.parse text).Partitioned := by
    refine ⟨⟨by rw [hlisting]; decide, ?_⟩, fun slot => ?_⟩
    · rw [hmasterRanges]
      exact List.Pairwise.imp SlotRange.apart_of_lt (by decide)
    · rw [hmasterRanges]
      simp [SlotRange.mem_iff, keyspace]
      omega
  have hnode : node ∈ (Listing.parse text).nodes := by
    rw [hlisting]
    exact List.mem_cons_self
  have hslotted : node.isSlottedMaster = true := by decide
  exact ⟨hpartitioned, hnode, hslotted, exists_evacuated text hpartitioned hnode hslotted⟩

end Planning

end ClusterSteward
