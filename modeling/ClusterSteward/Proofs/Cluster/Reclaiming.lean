import ClusterSteward.Proofs.Cluster.Describing
import ClusterSteward.Proofs.Cluster.Emptying
import ClusterSteward.Proofs.Cluster.Spreading
import ClusterSteward.Proofs.Plan.Evacuation

/-!
# Emptying a master that a spread has filled

A spread leaves the lowest slot of every owner where it is, so no master that it fills gets slot
zero. Such a master then has a border below its slots, and can be emptied again. Main statements:
`Stages.lowest_mem`, by which a spread takes from no owner its lowest slot, `exists_emptied`, by
which a master is emptied unless it owns both ends of the keyspace, and `emptied_after_spread`,
which puts the two together.
-/

namespace ClusterSteward

/-! ## The listing of a covered cluster -/

namespace Member

/-- The node of a member is a master with slots exactly when the member is one. -/
theorem isSlottedMaster_node (member : Member) :
    member.node.isSlottedMaster = true ↔ member.replicaOf = none ∧ member.slots ≠ .empty := by
  rw [Node.isSlottedMaster, isMaster_node, Bool.and_eq_true, Option.isNone_iff_eq_none,
    Bool.not_eq_true', List.isEmpty_eq_false_iff]
  exact and_congr_right fun _ => SlotSet.runs_eq_nil_iff.not

end Member

variable {members : List Member}

/-- The nodes of members have ordered ranges. -/
theorem Listing.ordered_members (members : List Member) :
    (Listing.mk (members.map Member.node)).Ordered := by
  intro node hnode
  obtain ⟨member, -, rfl⟩ := List.mem_map.1 hnode
  exact member.ordered_node

/-- Members that own each slot of the keyspace once are listed as masters that share it out, when
replicas own nothing. -/
theorem Covering.partitioned (h : Covering members)
    (hreplicas : ∀ member ∈ members, member.replicaOf.isSome → member.slots = .empty)
    (hids : (members.map Member.id).Nodup) :
    (Listing.mk (members.map Member.node)).Partitioned := by
  refine ⟨⟨?_, ?_⟩, fun slot => ?_⟩
  · rw [List.map_map]
    exact hids
  · refine List.pairwise_flatMap.2 ⟨fun node hnode => ?_, .filter _ (List.pairwise_map.2 ?_)⟩
    · obtain ⟨member, -, rfl⟩ := List.mem_map.1 (List.mem_filter.1 hnode).1
      exact SlotRange.pairwise_apart_runs member.slots
    · refine h.disjoint.imp fun hapart range hrange other hother slot hslot hotherSlot => ?_
      exact hapart slot (SlotSet.mem_runs_iff.1 ⟨range, hrange, hslot⟩)
        (SlotSet.mem_runs_iff.1 ⟨other, hother, hotherSlot⟩)
  · rw [Listing.mem_covered_masterRanges, ← h.owned_iff slot]
    constructor
    · rintro ⟨node, hnode, -, howns⟩
      obtain ⟨member, hmember, rfl⟩ := List.mem_map.1 hnode
      exact ⟨member, hmember, (member.owns_node slot).1 howns⟩
    · rintro ⟨member, hmember, hslot⟩
      refine ⟨member.node, List.mem_map_of_mem hmember, ?_, (member.owns_node slot).2 hslot⟩
      rw [Member.isMaster_node, ← Option.not_isSome, Bool.not_eq_true']
      refine Bool.eq_false_iff.2 fun hreplica => ?_
      rw [hreplicas member hmember hreplica] at hslot
      exact SlotSet.not_mem_empty slot hslot

/-! ## What a spread leaves to the owners -/

namespace Cluster

/-- A step that takes slots out of all members leaves to each member but the target some of its
lowest slots. -/
theorem exists_takeLowest_of_apply {before after : Cluster} {id : String}
    {count place target : Nat} (h : before.apply ⟨id, .all, count⟩ = .ok after)
    (htarget : placeOf? before.members id = some target) (hplace : place ≠ target) :
    ∃ number, slotsAt after.members place = (slotsAt before.members place).takeLowest number := by
  obtain ⟨-, found, withdrawal, hfound, hwithdraw, rfl⟩ := apply_eq_ok_iff.1 h
  obtain rfl : target = found := Option.some.inj (htarget.symm.trans hfound)
  obtain rfl : withdrawal = _ := by simpa [withdraw_eq_ok_iff] using hwithdraw
  have hlength : (Leveling.level count (offers before.members target)).length =
      before.members.length := by
    rw [Leveling.length_level, offers, List.length_mapIdx]
  have htransfer := transfer_withdrawDown target hlength
  by_cases hlt : place < before.members.length
  · have hafter := htransfer.slotsAt_after (List.getElem?_eq_getElem hlt)
    rw [if_neg hplace, if_neg hplace] at hafter
    exact ⟨_, hafter⟩
  · have hle := Nat.le_of_not_lt hlt
    exact ⟨0, slotsAt_eq_empty (htransfer.sameNodes.length_eq.symm ▸ hle)⟩

end Cluster

namespace Stages

variable {share : Nat} {places : List Nat} {plans : List Plan} {stage : Nat → Cluster}
  (h : Stages share places plans stage)

include h

/-- The steps of a spread leave every slot of the keyspace with exactly one owner. -/
theorem covering (hcovering : Covering (stage 0).members) {last : Nat}
    (hlast : last ≤ plans.length) : Covering (stage last).members := by
  induction last with
  | zero => exact hcovering
  | succ last ih =>
      have hplan := List.getElem?_eq_getElem (Nat.lt_of_succ_le hlast)
      obtain ⟨⟨_, _, _, _, htarget, htransfer⟩, -⟩ :=
        Cluster.transfer_of_apply (h.applied last _ hplan)
      exact (ih (by omega)).transfer htransfer htarget

/-- The steps of a spread do not change what the cluster refuses. -/
theorem refusals_eq {last : Nat} (hlast : last ≤ plans.length) :
    (stage last).failOn = (stage 0).failOn ∧ (stage last).cancelled = (stage 0).cancelled := by
  induction last with
  | zero => exact ⟨rfl, rfl⟩
  | succ last ih =>
      have hplan := List.getElem?_eq_getElem (Nat.lt_of_succ_le hlast)
      obtain ⟨-, _, _, -, -, hafter⟩ := Cluster.apply_eq_ok_iff.1 (h.applied last _ hplan)
      rw [hafter]
      exact ih (by omega)

variable (hids : ((stage 0).members.map Member.id).Nodup)
  (hshares : Shares (stage 0).members share places plans) {place last : Nat}
  (hplace : place ∉ places) (hlast : last ≤ plans.length)

include hids hshares hplace hlast

/-- A spread leaves to each member that it does not fill some of its lowest slots. -/
theorem exists_takeLowest : ∃ number,
    slotsAt (stage last).members place = (slotsAt (stage 0).members place).takeLowest number := by
  induction last with
  | zero => exact ⟨_, (SlotSet.takeLowest_of_le (Nat.le_refl _)).symm⟩
  | succ last ih =>
      have hlt := Nat.lt_of_succ_le hlast
      obtain ⟨number, hnumber⟩ := ih (by omega)
      have hsame := h.sameNodes hlt.le
      have hplaceLt : last < places.length := hshares.length_eq ▸ hlt
      obtain ⟨member, hmember, -, hplan⟩ := hshares.get hplaceLt hlt
      obtain ⟨slots, hreceiver⟩ := hsame.exists_after hmember
      have happly : (stage last).apply ⟨member.id, .all, share⟩ = .ok (stage (last + 1)) :=
        h.applied last _ (hplan ▸ List.getElem?_eq_getElem hlt)
      have hne : place ≠ places[last] := fun heq => hplace (heq ▸ List.getElem_mem _)
      have htarget := Cluster.placeOf?_eq (by rwa [hsame.map_eq _ fun _ _ => rfl]) hreceiver
      obtain ⟨fewer, hfewer⟩ := Cluster.exists_takeLowest_of_apply happly htarget hne
      exact ⟨_, by rw [hfewer, hnumber, SlotSet.takeLowest_takeLowest]⟩

/-- A spread of at least one slot leaves its lowest slot to each owner. -/
theorem lowest_mem (hshare : 0 < share) {slot : Slot}
    (hslot : slot ∈ slotsAt (stage 0).members place)
    (hlowest : ∀ other ∈ slotsAt (stage 0).members place, slot ≤ other) :
    slot ∈ slotsAt (stage last).members place := by
  obtain ⟨number, hnumber⟩ := h.exists_takeLowest hids hshares hplace hlast
  have hbound := h.min_le_size (hshares.length_eq.symm ▸ hlast) hplace
  have hsome : (slotsAt (stage 0).members place).size ≠ 0 := fun hzero =>
    SlotSet.not_mem_empty slot (SlotSet.size_eq_zero_iff.1 hzero ▸ hslot)
  have hleft : slotsAt (stage last).members place ≠ .empty := by
    intro hempty
    rw [hempty, SlotSet.size_empty] at hbound
    omega
  rw [hnumber] at hleft ⊢
  exact SlotSet.mem_takeLowest_of_lowest hslot hlowest hleft

end Stages

namespace Cluster

/-! ## A spread that succeeds -/

/-- Plans that are all carried out were granted. -/
theorem grants_of_runPlans {cluster after : Cluster} {endpoint : Endpoint} {total : Nat}
    {completed plans : List Plan} {migrated : Migrated}
    (h : Migration.runPlans topology endpoint total completed plans cluster =
      .ok (.ok migrated, after)) : cluster.Grants plans.length := by
  induction plans generalizing cluster completed with
  | nil => exact fun step _ => (Nat.lt_or_ge _ step).symm
  | cons plan plans ih =>
      obtain ⟨⟨result, middle⟩, hreshard, hrest⟩ := bind_eq_ok_iff.1 h
      cases result with
      | error cause => cases pure_eq_ok_iff.1 hrest
      | ok =>
          obtain ⟨hfailOn, _, _, -, -, rfl⟩ := apply_eq_ok_iff.1 (reshard_eq_ok_iff.1 hreshard).2
          intro step hstep
          have hbounds := ih hrest step hstep
          have hne : step ≠ cluster.applied.length + 1 := fun heq => hfailOn (heq ▸ hstep)
          simp only [List.length_append, List.length_cons, List.length_nil] at hbounds ⊢
          omega

/-! ## Emptying a master -/

/-- A plan that moves slots from one member to another is applied, unless its number is refused. -/
theorem exists_apply_node (cluster : Cluster) {place target : Nat} {giver receiver : Member}
    (hids : (cluster.members.map Member.id).Nodup) (hgiver : cluster.members[place]? = some giver)
    (hreceiver : cluster.members[target]? = some receiver)
    (hgranted : cluster.failOn ≠ some (cluster.applied.length + 1)) (count : Nat) :
    ∃ after, cluster.apply ⟨receiver.id, .node giver.id, count⟩ = .ok after := by
  have hwithdraw : withdraw cluster.members target (.node giver.id) count =
      .ok (withdrawLowest cluster.members place count) :=
    withdraw_eq_ok_iff.2 (.inl ⟨_, place, rfl, placeOf?_eq hids hgiver, rfl⟩)
  exact ⟨_, apply_eq_ok_iff.2 ⟨hgranted, target, _, placeOf?_eq hids hreceiver, hwithdraw, rfl⟩⟩

/-- A planned emptying succeeds when its plan is applied. -/
theorem empty_eq_ok {cluster after : Cluster} {id : String} {word : UInt64} {plan : Plan}
    (hnamed : ∀ member ∈ cluster.members, member.Named) (hnumbered : cluster.Numbered)
    (hsize : cluster.members.length ≤ 48536) (hcancelled : cluster.cancelled = false)
    (hplan : Planning.empty ⟨cluster.members.map Member.node⟩ id word = .ok (.ok plan))
    (happly : Cluster.apply { cluster with listings := cluster.listings + 1 } plan = .ok after)
    (endpoint : Endpoint) :
    Migration.empty topology endpoint id word cluster = .ok (.ok ⟨[plan]⟩, after) := by
  have hreshard : topology.reshard endpoint plan
      { cluster with listings := cluster.listings + 1 } = .ok (.ok (), after) :=
    reshard_eq_ok_iff.2 ⟨hcancelled, happly⟩
  rw [Migration.empty, listing_eq hnamed hnumbered hsize]
  show (Planning.empty _ id word >>= _) = _
  rw [hplan]
  show Migration.runPlan topology endpoint Migration.emptyOperation (.ok plan) _ = _
  rw [Migration.runPlan, hreshard]
  rfl

section

variable {cluster : Cluster} (hcovering : Covering cluster.members)
  (hreplicas : ∀ member ∈ cluster.members, member.replicaOf.isSome → member.slots = .empty)
  (hids : (cluster.members.map Member.id).Nodup) {place : Nat} {member : Member}
  (hmember : cluster.members[place]? = some member) (hrole : member.replicaOf = none)
  (hslots : member.slots ≠ .empty) (hends : ¬(0 ∈ member.slots ∧ 16383 ∈ member.slots))

include hcovering hreplicas hids hmember hrole hslots hends

/-- Emptying a master with slots is planned, into another member, unless the master owns both ends
of the keyspace. -/
theorem exists_planned (word : UInt64) :
    ∃ (target : Nat) (receiver : Member) (count : Nat),
      cluster.members[target]? = some receiver ∧
      Planning.empty ⟨cluster.members.map Member.node⟩ member.id word =
        .ok (.ok ⟨receiver.id, .node member.id, count⟩) := by
  have hnode : member.node ∈ (Listing.mk (cluster.members.map Member.node)).nodes :=
    List.mem_map_of_mem (List.mem_of_getElem? hmember)
  obtain ⟨first, last, hevacuated⟩ := Planning.exists_evacuated_of_ordered
    (hcovering.partitioned hreplicas hids) (Listing.ordered_members _) hnode
    (member.isSlottedMaster_node.2 ⟨hrole, hslots⟩)
  obtain ⟨⟨_, _, count⟩, hplan⟩ := (hevacuated.planned_iff word).2
    (by rwa [member.owns_node, member.owns_node])
  obtain ⟨hsource, -, receiver, hother, htarget, -⟩ := hevacuated.planned word _ hplan
  obtain ⟨other, hotherMem, rfl⟩ := List.mem_map.1 hother.mem
  obtain ⟨target, hotherPlace⟩ := List.mem_iff_getElem?.1 hotherMem
  cases hsource
  cases htarget
  exact ⟨target, other, count, hotherPlace, hplan⟩

/-- A master with slots that does not own both ends of the keyspace is emptied, and every slot still
has exactly one owner. -/
theorem exists_emptied (hnamed : ∀ member ∈ cluster.members, member.Named)
    (hnumbered : cluster.Numbered) (hsize : cluster.members.length ≤ 48536)
    (hcancelled : cluster.cancelled = false)
    (hgranted : cluster.failOn ≠ some (cluster.applied.length + 1)) (endpoint : Endpoint)
    (word : UInt64) :
    ∃ migrated after, Migration.empty topology endpoint member.id word cluster =
        .ok (.ok migrated, after) ∧
      migrated.slotsMoved = member.slots.size ∧ slotsAt after.members place = .empty ∧
      Covering after.members ∧ SameNodes cluster.members after.members := by
  obtain ⟨target, receiver, count, hreceiver, hplan⟩ :=
    exists_planned hcovering hreplicas hids hmember hrole hslots hends word
  obtain ⟨after, happly⟩ := exists_apply_node { cluster with listings := cluster.listings + 1 } hids
    hmember hreceiver hgranted count
  have hempty := empty_eq_ok hnamed hnumbered hsize hcancelled hplan happly endpoint
  obtain ⟨source, _, giver, _, hgiver, hid, -, -, -, -, hemptied, hmoved⟩ :=
    emptied_of_empty hids hnamed hempty
  obtain rfl : place = source := by
    have hplace := placeOf?_eq hids hmember
    rw [← hid, placeOf?_eq hids hgiver] at hplace
    exact (Option.some.inj hplace).symm
  obtain rfl : member = giver := Option.some.inj (hmember.symm.trans hgiver)
  obtain ⟨⟨_, _, _, _, htarget, htransfer⟩, -⟩ := transfer_of_apply happly
  exact ⟨_, after, hempty, hmoved, hemptied.source_empty, hcovering.transfer htransfer htarget,
    hemptied.sameNodes⟩

end

/-! ## Emptying after a spread -/

/-- The clusters between the steps of a spread that starts from the cluster `before`. The places are
those of the masters without slots. -/
structure Staged (before : Cluster) (places : List Nat) (stage : Nat → Cluster) : Prop where
  start : stage 0 = { before with listings := before.listings + 1 }
  nodup : places.Nodup
  shares : Shares (stage 0).members (keyspace / before.members.length) places
    (sharePlans before.members)
  mem_iff : ∀ place, place ∈ places ↔ ∃ member, before.members[place]? = some member ∧
    member.replicaOf = none ∧ member.slots = .empty
  stages : Stages (keyspace / before.members.length) places (sharePlans before.members) stage

/-- A spread whose steps are granted goes through its stages. -/
theorem exists_staged {before : Cluster} (hpos : 0 < before.members.length)
    (hsize : before.members.length ≤ keyspace) (hnumbered : before.Numbered)
    (hids : (before.members.map Member.id).Nodup)
    (hnamed : ∀ member ∈ before.members, member.Named) (hcovering : Covering before.members)
    (hcancelled : before.cancelled = false)
    (hgrants : before.Grants (sharePlans before.members).length) (endpoint : Endpoint) :
    ∃ places stage, Staged before places stage ∧
      Migration.spread topology endpoint before = .ok (.ok ⟨sharePlans before.members⟩,
        stage (sharePlans before.members).length) := by
  obtain ⟨places, hnodup, hshares, hmem⟩ := exists_shares before.members
  obtain ⟨stage, hstart, hstages, hrun⟩ := exists_stages
    { before with listings := before.listings + 1 } endpoint (sharePlans before.members).length []
    hshares hnodup rfl hcovering hids hcancelled hgrants
  refine ⟨places, stage, ⟨hstart, hnodup, by rwa [hstart], hmem, hstages⟩, ?_⟩
  rw [spread_eq hpos hsize hnumbered hnamed, hrun]
  rfl

namespace Staged

variable {before : Cluster} {places : List Nat} {stage : Nat → Cluster}
  (h : Staged before places stage)

include h

/-- A spread starts from the members of the cluster. -/
theorem members_eq : (stage 0).members = before.members := by
  rw [h.start]

/-- A spread changes nothing of the members but their slots. -/
theorem sameNodes :
    SameNodes before.members (stage (sharePlans before.members).length).members := by
  have hsame := h.stages.sameNodes (Nat.le_refl _)
  rwa [h.members_eq] at hsame

/-- Every slot of the keyspace has exactly one owner after a spread. -/
theorem covering (hcovering : Covering before.members) :
    Covering (stage (sharePlans before.members).length).members :=
  h.stages.covering (h.members_eq ▸ hcovering) (Nat.le_refl _)

/-- A master without slots is filled with a share. -/
theorem size_eq (hids : (before.members.map Member.id).Nodup) {place : Nat} {member : Member}
    (hmember : before.members[place]? = some member) (hrole : member.replicaOf = none)
    (hempty : member.slots = .empty) :
    (slotsAt (stage (sharePlans before.members).length).members place).size =
      keyspace / before.members.length := by
  have hunchanged : Unchanged before (stage 0) := by
    rw [h.start]
    exact ⟨rfl, rfl⟩
  exact (spread_of_stages hids hunchanged h.nodup (h.members_eq ▸ h.shares) h.mem_iff rfl
    h.stages).filled place member hmember hrole hempty

/-- A member that is no master without slots is not filled. -/
theorem not_mem_places {place : Nat} {member : Member}
    (hmember : before.members[place]? = some member)
    (hunfilled : member.replicaOf = none → member.slots ≠ .empty) : place ∉ places := by
  intro hplace
  obtain ⟨filled, hfilled, hrole, hempty⟩ := (h.mem_iff place).1 hplace
  obtain rfl : member = filled := Option.some.inj (hmember.symm.trans hfilled)
  exact hunfilled hrole hempty

variable (hids : (before.members.map Member.id).Nodup)

include hids

/-- Replicas own nothing after a spread if they owned nothing before. -/
theorem replicas_empty
    (hreplicas : ∀ member ∈ before.members, member.replicaOf.isSome → member.slots = .empty) :
    ∀ member ∈ (stage (sharePlans before.members).length).members,
      member.replicaOf.isSome → member.slots = .empty := by
  intro new hnew hrole
  obtain ⟨place, hplace⟩ := List.mem_iff_getElem?.1 hnew
  obtain ⟨old, hold, heq⟩ := h.sameNodes.exists_before hplace
  have hreplica : old.replicaOf.isSome = true := by
    rw [heq] at hrole
    exact hrole
  have hempty := hreplicas old (List.mem_of_getElem? hold) hreplica
  have hunfilled : place ∉ places := h.not_mem_places hold fun hnone => by
    rw [hnone] at hreplica
    cases hreplica
  obtain ⟨number, hnumber⟩ := h.stages.exists_takeLowest (h.members_eq ▸ hids) h.shares hunfilled
    (Nat.le_refl _)
  rw [h.members_eq, slotsAt_eq hplace, slotsAt_eq hold, hempty] at hnumber
  rw [hnumber]
  exact SlotSet.takeLowest_of_le (Nat.zero_le _)

/-- No master that a spread fills owns slot zero, which is left to its owner. -/
theorem zero_not_mem (hsize : before.members.length ≤ keyspace)
    (hcovering : Covering before.members) {place : Nat} (hplace : place ∈ places) :
    0 ∉ slotsAt (stage (sharePlans before.members).length).members place := by
  obtain ⟨giver, hgiver, hzero⟩ := (hcovering.owned_iff 0).2 (by decide)
  obtain ⟨source, hsource⟩ := List.mem_iff_getElem?.1 hgiver
  have hunfilled : source ∉ places := h.not_mem_places hsource fun _ hempty =>
    SlotSet.not_mem_empty 0 (hempty ▸ hzero)
  have hpos : 0 < before.members.length := List.length_pos_of_mem hgiver
  have hkept := h.stages.lowest_mem (h.members_eq ▸ hids) h.shares hunfilled (Nat.le_refl _)
    (Nat.div_pos hsize hpos) (by rwa [h.members_eq, slotsAt_eq hsource])
    fun other _ => UInt16.zero_le
  intro howned
  obtain ⟨owner, howner, hownerZero⟩ := exists_of_mem_slotsAt howned
  obtain ⟨keeper, hkeeper, hkeeperZero⟩ := exists_of_mem_slotsAt hkept
  have hsame : place = source := disjointSlots_iff.1 (h.covering hcovering).disjoint howner hkeeper
    0 hownerZero hkeeperZero
  exact hunfilled (hsame ▸ hplace)

/-- A master without slots ends with a share that does not have slot zero. -/
theorem exists_filled (hsize : before.members.length ≤ keyspace)
    (hcovering : Covering before.members) {place : Nat} {member : Member}
    (hmember : before.members[place]? = some member) (hrole : member.replicaOf = none)
    (hempty : member.slots = .empty) :
    ∃ slots, (stage (sharePlans before.members).length).members[place]? =
        some { member with slots } ∧
      slots.size = keyspace / before.members.length ∧ 0 ∉ slots := by
  obtain ⟨slots, hfilled⟩ := h.sameNodes.exists_after hmember
  have hshare := h.size_eq hids hmember hrole hempty
  have hzero := h.zero_not_mem hids hsize hcovering
    ((h.mem_iff place).2 ⟨member, hmember, hrole, hempty⟩)
  rw [slotsAt_eq hfilled] at hshare hzero
  exact ⟨slots, hfilled, hshare, hzero⟩

end Staged

/-- A master without slots that a successful spread over a covered cluster has filled can be emptied
again, unless the cluster refuses the reshard: its share goes to another master, and every slot
still has exactly one owner. -/
theorem emptied_after_spread (before filled : Cluster) (endpoint other : Endpoint)
    (migrated : Migrated) (place : Nat) (member : Member) (word : UInt64)
    (hsize : before.members.length ≤ 16384) (hnumbered : before.Numbered)
    (hids : (before.members.map Member.id).Nodup)
    (hnamed : ∀ member ∈ before.members, member.Named)
    (hmasters : Covering (masters before.members))
    (hreplicas : ∀ member ∈ before.members, member.replicaOf.isSome → member.slots = .empty)
    (hcancelled : before.cancelled = false)
    (hspread : Migration.spread topology endpoint before = .ok (.ok migrated, filled))
    (hmember : before.members[place]? = some member) (hrole : member.replicaOf = none)
    (hempty : member.slots = .empty)
    (hgranted : filled.failOn ≠ some (filled.applied.length + 1)) :
    ∃ emptied after,
      Migration.empty topology other member.id word filled = .ok (.ok emptied, after) ∧
      emptied.slotsMoved = 16384 / before.members.length ∧
      slotsAt after.members place = .empty ∧ Covering after.members ∧
      SameNodes before.members after.members := by
  have hpos : 0 < before.members.length := List.length_pos_of_mem (List.mem_of_getElem? hmember)
  have hcovering := hmasters.of_masters hreplicas
  have hgrants : before.Grants (sharePlans before.members).length := by
    rw [spread_eq hpos hsize hnumbered hnamed] at hspread
    -- what is granted does not depend on how often the cluster was listed
    have hlisted : Cluster.Grants { before with listings := before.listings + 1 } _ :=
      grants_of_runPlans hspread
    exact hlisted
  obtain ⟨places, stage, hstaged, hrun⟩ :=
    exists_staged hpos hsize hnumbered hids hnamed hcovering hcancelled hgrants endpoint
  obtain ⟨-, rfl⟩ : Migrated.mk (sharePlans before.members) = migrated ∧
      stage (sharePlans before.members).length = filled := by
    simpa using hrun.symm.trans hspread
  obtain ⟨slots, hfilled, hshare, hzero⟩ :=
    hstaged.exists_filled hids hsize hcovering hmember hrole hempty
  have hslots : slots ≠ .empty := by
    rintro rfl
    have hpositive : 0 < keyspace / before.members.length := Nat.div_pos hsize hpos
    exact absurd hshare (Nat.ne_of_lt hpositive)
  have huncancelled : (stage (sharePlans before.members).length).cancelled = false := by
    rw [(hstaged.stages.refusals_eq (Nat.le_refl _)).2, hstaged.start]
    exact hcancelled
  have hsame := hstaged.sameNodes
  obtain ⟨emptied, after, hmigration, hmoved, hnone, hafter, hnodes⟩ := exists_emptied
    (hstaged.covering hcovering) (hstaged.replicas_empty hids hreplicas)
    (by rwa [hsame.map_eq _ fun _ _ => rfl]) hfilled hrole hslots (fun hends => hzero hends.1)
    (hsame.named hnamed) (hsame.numbered hnumbered)
    (hsame.length_eq ▸ hsize.trans (by decide)) huncancelled hgranted other word
  exact ⟨emptied, after, hmigration, hmoved.trans hshare, hnone, hafter, hnodes.trans hsame⟩

/-- The first of the two masters that get a quarter can be emptied again. -/
theorem emptied_after_spread_lopsided :
    let endpoint : Endpoint := ⟨"127.0.0.1", 7000⟩
    ∃ migrated filled,
      Migration.spread topology endpoint lopsided = .ok (.ok migrated, filled) ∧
      filled.failOn ≠ some (filled.applied.length + 1) ∧
      ∃ emptied after, Migration.empty topology endpoint "c" 0 filled = .ok (.ok emptied, after) ∧
        emptied.slotsMoved = 4096 ∧ slotsAt after.members 2 = .empty ∧ Covering after.members ∧
        SameNodes lopsided.members after.members := by
  intro endpoint
  have hnumbered : lopsided.Numbered := numbered_of_map_eq rfl
  have hids : (lopsided.members.map Member.id).Nodup := by decide
  have hnamed : ∀ member ∈ lopsided.members, member.Named := by decide
  have hmasters : Covering (masters lopsided.members) :=
    covering_of_owner rfl (by simp)
  have hreplicas : ∀ member ∈ lopsided.members,
      member.replicaOf.isSome → member.slots = .empty := by
    simp [lopsided]
  obtain ⟨places, stage, hstaged, hspread⟩ := exists_staged (by decide) (by decide) hnumbered hids
    hnamed (hmasters.of_masters hreplicas) rfl (Grants.of_failOn_eq_none rfl _) endpoint
  have hgranted : (stage (sharePlans lopsided.members).length).failOn = none := by
    rw [(hstaged.stages.refusals_eq (Nat.le_refl _)).1, hstaged.start]
    rfl
  have hfail : (stage (sharePlans lopsided.members).length).failOn ≠
      some ((stage (sharePlans lopsided.members).length).applied.length + 1) := by
    simp [hgranted]
  exact ⟨_, _, hspread, hfail, emptied_after_spread lopsided _ endpoint endpoint _ 2
    ⟨"c", 7002, none, .empty⟩ 0 (by decide) hnumbered hids hnamed hmasters hreplicas rfl hspread rfl
    rfl rfl hfail⟩

end Cluster

end ClusterSteward
