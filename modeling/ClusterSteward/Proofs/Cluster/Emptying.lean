import ClusterSteward.Migration.Running
import ClusterSteward.Proofs.Cluster.Listing
import ClusterSteward.Proofs.Cluster.Moving
import ClusterSteward.Proofs.Plan.Planning

/-!
# Emptying and merging in memory

Both migrations that empty a member of a cluster in memory move exactly its slots, into one other
member. Main statements: `emptied_of_apply`, by which a plan of all slots of a member empties it,
and `emptied_of_migration`, which says so of the two migrations from listing to last slot.
-/

namespace ClusterSteward

/-- Of the members before, the one at the place `source` has given all its slots to the one at the
place `target`, and no other slots have moved. -/
structure Emptied (before after : List Member) (source target : Nat) : Prop where
  different : source ≠ target
  sameNodes : SameNodes before after
  source_empty : slotsAt after source = .empty
  target_union : slotsAt after target = (slotsAt before target).union (slotsAt before source)
  others : ∀ place, place ≠ source → place ≠ target → slotsAt after place = slotsAt before place

/-- One set of slots touches another when it has the slot just below the lowest one of the other or
the slot just above the highest one. -/
def SlotSet.Touches (border set : SlotSet) : Prop :=
  (∃ slot ∈ border, ∃ lowest ∈ set, (∀ other ∈ set, lowest ≤ other) ∧
    slot.toNat + 1 = lowest.toNat) ∨
  ∃ slot ∈ border, ∃ highest ∈ set, (∀ other ∈ set, other ≤ highest) ∧
    slot.toNat = highest.toNat + 1

/-- A node of a member that touches the range of another member's node has a touching set. -/
theorem Member.touches_of_node {border member : Member} {first last : Slot}
    (hfirst : member.node.firstSlot? = some first) (hlast : member.node.lastSlot? = some last)
    (h : Borders.Touches border.node first last) : border.slots.Touches member.slots := by
  obtain ⟨hfirstMem, hlowest⟩ := SlotSet.min?_first_runs hfirst
  obtain ⟨hlastMem, hhighest⟩ := SlotSet.max?_last_runs hlast
  rcases h with ⟨range, hrange, heq⟩ | ⟨range, hrange, heq⟩
  · exact .inl ⟨range.last, (SlotSet.ends_mem_of_mem_runs hrange).2, first, hfirstMem, hlowest, heq⟩
  · exact .inr ⟨range.first, (SlotSet.ends_mem_of_mem_runs hrange).1, last, hlastMem, hhighest, heq⟩

namespace Cluster

variable {before after : Cluster} {endpoint : Endpoint} {migrated : Migrated}

/-- Applying a plan that moves all slots of one member into another empties the former. -/
theorem emptied_of_apply {source target : Nat} {giver receiver : Member}
    (h : before.apply ⟨receiver.id, .node giver.id, giver.slots.size⟩ = .ok after)
    (hids : (before.members.map Member.id).Nodup)
    (hsource : before.members[source]? = some giver)
    (htarget : before.members[target]? = some receiver) (hne : source ≠ target) :
    Emptied before.members after.members source target := by
  obtain ⟨-, place, withdrawal, hplace, hwithdraw, rfl⟩ := apply_eq_ok_iff.1 h
  obtain rfl : target = place := Option.some.inj ((placeOf?_eq hids htarget).symm.trans hplace)
  have hwithdrawn : withdrawal = withdrawLowest before.members source giver.slots.size := by
    simpa [withdraw, placeOf?_eq hids hsource, eq_comm] using hwithdraw
  subst hwithdrawn
  have hmoved : (withdrawLowest before.members source giver.slots.size).moved = giver.slots := by
    simpa [withdrawLowest, hsource] using SlotSet.takeLowest_of_le (Nat.le_refl _)
  have htransfer := transfer_withdrawLowest target giver.slots.size hsource
  refine ⟨hne, htransfer.sameNodes, ?_, ?_, ?_⟩
  · rw [htransfer.slotsAt_after hsource, if_neg hne, if_pos rfl]
    exact SlotSet.dropLowest_of_le (Nat.le_refl _)
  · rw [htransfer.slotsAt_after htarget, if_pos rfl, if_neg (Ne.symm hne), hmoved,
      slotsAt_eq hsource]
  · intro place hplaceSource hplaceTarget
    cases hmember : before.members[place]? with
    | none => simp [slotsAt, htransfer.after_eq, hmember]
    | some member =>
        rw [htransfer.slotsAt_after hmember, if_neg hplaceTarget, if_neg hplaceSource]

/-- The outcome of a migration with one plan that succeeds: the plan was applied. -/
theorem of_runPlan {name : String} {planned : Except Refusal Plan}
    (h : Migration.runPlan topology endpoint name planned before = .ok (.ok migrated, after)) :
    ∃ plan, planned = .ok plan ∧ before.apply plan = .ok after ∧ migrated = ⟨[plan]⟩ := by
  cases planned with
  | error refusal =>
      cases pure_eq_ok_iff.1 h
  | ok plan =>
      obtain ⟨⟨result, reached⟩, hreshard, hrest⟩ := bind_eq_ok_iff.1 h
      cases result with
      | error cause => cases pure_eq_ok_iff.1 hrest
      | ok =>
          cases pure_eq_ok_iff.1 hrest
          exact ⟨plan, rfl, (reshard_eq_ok_iff.1 hreshard).2, rfl⟩

/-- A listed node with an id is the node of a member with the id. -/
theorem exists_of_find? {id : String} {node : Node}
    (h : (Listing.mk (before.members.map Member.node)).find? id = some node) :
    ∃ (place : Nat) (member : Member), before.members[place]? = some member ∧ member.id = id ∧
      node = member.node := by
  obtain ⟨member, hmember, rfl⟩ := List.mem_map.1 (List.mem_of_find?_eq_some h)
  obtain ⟨place, hplace⟩ := List.mem_iff_getElem?.1 hmember
  have hid : member.node.id = id := by simpa using List.find?_some h
  exact ⟨place, member, hplace, hid, rfl⟩

section

variable (hids : (before.members.map Member.id).Nodup)
  (hnamed : ∀ member ∈ before.members, member.Named)

include hids hnamed

/-- Emptying a member moves its slots into a master that touches them. -/
theorem emptied_of_empty {id : String} {word : UInt64}
    (h : Migration.empty topology endpoint id word before = .ok (.ok migrated, after)) :
    ∃ (source target : Nat) (giver receiver : Member),
      before.members[source]? = some giver ∧ giver.id = id ∧
      before.members[target]? = some receiver ∧ receiver.id ≠ id ∧ receiver.replicaOf = none ∧
      receiver.slots.Touches giver.slots ∧
      Emptied before.members after.members source target ∧
      migrated.slotsMoved = giver.slots.size := by
  obtain ⟨text, htext, hrest⟩ := (listing_bind_eq_ok_iff endpoint).1 h
  obtain ⟨planned, hplanned, hrun⟩ := bind_eq_ok_iff.1 hrest
  obtain ⟨plan, rfl, happly, rfl⟩ := of_runPlan hrun
  rw [parse_text hnamed htext] at hplanned
  obtain ⟨node, receivers, count, hevacuation, hcount, rfl⟩ := Planning.of_empty hplanned
  obtain ⟨hfind, -, first, last, hfirst, hlast, hborders⟩ := Planning.of_evacuation hevacuation
  obtain ⟨source, giver, hsource, rfl, rfl⟩ := exists_of_find? hfind
  obtain ⟨hlisted, hmaster, hid, htouches⟩ := Planning.touches_of_pick hborders word
  obtain ⟨receiver, hreceiver, hnode⟩ := List.mem_map.1 hlisted
  rw [← hnode] at hmaster hid htouches happly
  obtain ⟨target, htarget⟩ := List.mem_iff_getElem?.1 hreceiver
  have hne : source ≠ target := by
    rintro rfl
    obtain rfl : giver = receiver := Option.some.inj (hsource.symm.trans htarget)
    exact hid rfl
  -- the plan counts the slots of the node, which are those of the member
  obtain rfl : giver.slots.size = count :=
    Except.ok.inj ((Member.slotCount_node giver).symm.trans hcount)
  have hrole : receiver.replicaOf = none := by
    simpa [Member.isMaster_node] using hmaster
  have hemptied := emptied_of_apply happly hids hsource htarget hne
  exact ⟨source, target, giver, receiver, hsource, rfl, htarget, hid, hrole,
    Member.touches_of_node hfirst hlast htouches, hemptied, rfl⟩

/-- A merge moves the slots of the source into the target. -/
theorem emptied_of_merge {targetId sourceId : String}
    (h : Migration.merge topology endpoint targetId sourceId before = .ok (.ok migrated, after)) :
    ∃ (source target : Nat) (giver receiver : Member),
      before.members[source]? = some giver ∧ giver.id = sourceId ∧
      before.members[target]? = some receiver ∧ receiver.id = targetId ∧
      Emptied before.members after.members source target ∧
      migrated.slotsMoved = giver.slots.size := by
  obtain ⟨text, htext, hrest⟩ := (listing_bind_eq_ok_iff endpoint).1 h
  obtain ⟨planned, hplanned, hrun⟩ := bind_eq_ok_iff.1 hrest
  obtain ⟨plan, rfl, happly, rfl⟩ := of_runPlan hrun
  rw [parse_text hnamed htext] at hplanned
  obtain ⟨targetNode, sourceNode, count, hpair, hcount, rfl⟩ := Planning.of_merge hplanned
  obtain ⟨hdifferent, hfindTarget, hfindSource⟩ := Planning.of_mergePair hpair
  obtain ⟨source, giver, hsource, rfl, rfl⟩ := exists_of_find? hfindSource
  obtain ⟨target, receiver, htarget, rfl, rfl⟩ := exists_of_find? hfindTarget
  have hne : source ≠ target := by
    rintro rfl
    obtain rfl : giver = receiver := Option.some.inj (hsource.symm.trans htarget)
    exact hdifferent rfl
  obtain rfl : giver.slots.size = count :=
    Except.ok.inj ((Member.slotCount_node giver).symm.trans hcount)
  have hemptied := emptied_of_apply happly hids hsource htarget hne
  exact ⟨source, target, giver, receiver, hsource, rfl, htarget, rfl, hemptied, rfl⟩

end

/-- Each migration that empties a member, when it succeeds, moves exactly its slots into one other
member: that of `empty` into a master that touches them, that of `merge` into the target. -/
theorem emptied_of_migration (before : Cluster)
    (hids : (before.members.map Member.id).Nodup)
    (hnamed : ∀ member ∈ before.members, member.Named) (endpoint : Endpoint) :
    (∀ (id : String) (word : UInt64) (migrated : Migrated) (after : Cluster),
      Migration.empty topology endpoint id word before = .ok (.ok migrated, after) →
        ∃ (source target : Nat) (giver receiver : Member),
          before.members[source]? = some giver ∧ giver.id = id ∧
          before.members[target]? = some receiver ∧ receiver.id ≠ id ∧
          receiver.replicaOf = none ∧ receiver.slots.Touches giver.slots ∧
          Emptied before.members after.members source target ∧
          migrated.slotsMoved = giver.slots.size) ∧
    ∀ (targetId sourceId : String) (migrated : Migrated) (after : Cluster),
      Migration.merge topology endpoint targetId sourceId before = .ok (.ok migrated, after) →
        ∃ (source target : Nat) (giver receiver : Member),
          before.members[source]? = some giver ∧ giver.id = sourceId ∧
          before.members[target]? = some receiver ∧ receiver.id = targetId ∧
          Emptied before.members after.members source target ∧
          migrated.slotsMoved = giver.slots.size :=
  ⟨fun _ _ _ _ h => emptied_of_empty hids hnamed h,
    fun _ _ _ _ h => emptied_of_merge hids hnamed h⟩

/-- A master between two others is emptied into the lower one of them, or merged into the upper one,
whose slots have a gap. -/
theorem emptied_of_migration_neighbors :
    let before : Cluster := { members := [⟨"a", 7000, none, .ofRange ⟨0, 2⟩⟩,
      ⟨"b", 7001, none, .ofRange ⟨3, 5⟩⟩, ⟨"c", 7002, none, .ofRanges [⟨6, 6⟩, ⟨9, 9⟩]⟩] }
    let endpoint : Endpoint := ⟨"127.0.0.1", 7000⟩
    (before.members.map Member.id).Nodup ∧ (∀ member ∈ before.members, member.Named) ∧
      (∃ (migrated : Migrated) (after : Cluster),
        Migration.empty topology endpoint "b" 0 before = .ok (.ok migrated, after) ∧
        ∃ (source target : Nat) (giver receiver : Member),
          before.members[source]? = some giver ∧ giver.id = "b" ∧
          before.members[target]? = some receiver ∧ receiver.id ≠ "b" ∧
          receiver.replicaOf = none ∧ receiver.slots.Touches giver.slots ∧
          Emptied before.members after.members source target ∧
          migrated.slotsMoved = giver.slots.size) ∧
      ∃ (migrated : Migrated) (after : Cluster),
        Migration.merge topology endpoint "c" "b" before = .ok (.ok migrated, after) ∧
        ∃ (source target : Nat) (giver receiver : Member),
          before.members[source]? = some giver ∧ giver.id = "b" ∧
          before.members[target]? = some receiver ∧ receiver.id = "c" ∧
          Emptied before.members after.members source target ∧
          migrated.slotsMoved = giver.slots.size := by
  intro before endpoint
  have hids : (before.members.map Member.id).Nodup := by decide
  have hnamed : ∀ member ∈ before.members, member.Named := by decide
  have hnumbered : before.Numbered := Cluster.numbered_of_map_eq rfl
  have hlisting := listing_eq hnamed hnumbered (by decide) endpoint
  have hempty : Migration.empty topology endpoint "b" 0 before =
      .ok (.ok ⟨[⟨"a", .node "b", 3⟩]⟩, { before with
        members := [⟨"a", 7000, none, .ofRange ⟨0, 5⟩⟩, ⟨"b", 7001, none, .empty⟩,
          ⟨"c", 7002, none, .ofRanges [⟨6, 6⟩, ⟨9, 9⟩]⟩]
        applied := [⟨"a", .node "b", 3⟩]
        listings := 1 }) := by
    rw [Migration.empty, hlisting]
    rfl
  have hmerge : Migration.merge topology endpoint "c" "b" before =
      .ok (.ok ⟨[⟨"c", .node "b", 3⟩]⟩, { before with
        members := [⟨"a", 7000, none, .ofRange ⟨0, 2⟩⟩, ⟨"b", 7001, none, .empty⟩,
          ⟨"c", 7002, none, .ofRanges [⟨3, 6⟩, ⟨9, 9⟩]⟩]
        applied := [⟨"c", .node "b", 3⟩]
        listings := 1 }) := by
    rw [Migration.merge, hlisting]
    rfl
  have hmigration := emptied_of_migration before hids hnamed endpoint
  exact ⟨hids, hnamed, ⟨_, _, hempty, hmigration.1 _ _ _ _ hempty⟩,
    _, _, hmerge, hmigration.2 _ _ _ _ hmerge⟩

end Cluster

end ClusterSteward
