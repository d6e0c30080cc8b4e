import Mathlib
import ClusterSteward.Migration.Running
import ClusterSteward.Proofs.Cluster.Jobs
import ClusterSteward.Proofs.Cluster.Leveling
import ClusterSteward.Proofs.Slot.Coverage

/-!
# Spreading in memory

Slotless masters of a cluster in memory get their shares one after another, each out of all other
members. Main statements: `Covering.sum_sizes`, which counts the slots of the keyspace by their
owners, `exists_apply_share`, which says what one step does, and `spread_shares`, which says what
the whole migration does.
-/

namespace ClusterSteward

/-- Every slot of the keyspace has exactly one owner, and no other slot has any. -/
structure Covering (members : List Member) : Prop where
  disjoint : DisjointSlots members
  owned_iff : ∀ slot, OwnedSlot members slot ↔ slot.toNat < keyspace

/-- The members that replicate no other one. -/
def masters (members : List Member) : List Member :=
  members.filter fun member ↦ member.replicaOf.isNone

/-- The keyspace is covered when the masters cover it and replicas own nothing. -/
theorem Covering.of_masters {members : List Member} (h : Covering (masters members))
    (hreplicas : ∀ member ∈ members, member.replicaOf.isSome → member.slots = .empty) :
    Covering members := by
  have hmaster : ∀ member ∈ members, ∀ slot ∈ member.slots, member.replicaOf.isNone = true := by
    intro member hmember slot hslot
    rw [← Option.not_isSome, Bool.not_eq_true']
    refine Bool.eq_false_iff.2 fun hreplica => ?_
    rw [hreplicas member hmember hreplica] at hslot
    exact SlotSet.not_mem_empty slot hslot
  constructor
  · have hdisjoint := h.disjoint
    rw [DisjointSlots, masters, List.pairwise_filter] at hdisjoint
    refine hdisjoint.imp_of_mem fun hleft hright hapart slot hslot hother => ?_
    exact hapart (hmaster _ hleft slot hslot) (hmaster _ hright slot hother) slot hslot hother
  · intro slot
    rw [← h.owned_iff slot]
    constructor
    · rintro ⟨member, hmember, hslot⟩
      exact ⟨member, List.mem_filter.2 ⟨hmember, hmaster member hmember slot hslot⟩, hslot⟩
    · rintro ⟨member, hmember, hslot⟩
      exact ⟨member, (List.mem_filter.1 hmember).1, hslot⟩

/-- A member that owns the whole keyspace covers it when no other member owns anything. -/
theorem covering_of_owner {owner : Member} {others : List Member}
    (howner : owner.slots = .ofRange ⟨0, 16383⟩)
    (hothers : ∀ member ∈ others, member.slots = .empty) : Covering (owner :: others) := by
  have hnone : ∀ member ∈ others, ∀ slot, slot ∉ member.slots := by
    intro member hmember slot hslot
    rw [hothers member hmember] at hslot
    exact SlotSet.not_mem_empty slot hslot
  refine ⟨List.pairwise_cons.2 ⟨fun other hother slot _ => hnone other hother slot, ?_⟩,
    fun slot => ?_⟩
  · exact List.pairwise_of_forall_mem_list fun left _ right hright slot _ => hnone right hright slot
  · have hrange : slot ∈ owner.slots ↔ slot.toNat < keyspace := by
      rw [howner, SlotSet.mem_ofRange, SlotRange.mem_keyspace_iff]
    have hother : ¬∃ other ∈ others, slot ∈ other.slots := by
      rintro ⟨other, hother, hslot⟩
      exact hnone other hother slot hslot
    rw [← hrange, OwnedSlot, List.exists_mem_cons_iff]
    exact or_iff_left hother

/-- The numbers of slots that the members own. -/
def sizes (members : List Member) : List Nat :=
  members.map fun member ↦ member.slots.size

/-- The number of slots at a place. -/
theorem getElem?_sizes (members : List Member) (place : Nat) :
    (sizes members)[place]? =
      if place < members.length then some (slotsAt members place).size else none := by
  rw [sizes, List.getElem?_map, slotsAt]
  split
  next hlt => simp [List.getElem?_eq_getElem hlt]
  next hge => simp [List.getElem?_eq_none (Nat.le_of_not_lt hge)]

/-- The owned slots add up to the keyspace. -/
theorem Covering.sum_sizes {members : List Member} (h : Covering members) :
    (sizes members).sum = keyspace := by
  have hnodup : (members.flatMap fun member ↦ member.slots.slots).Nodup := by
    refine List.nodup_flatMap.2 ⟨fun member _ => member.slots.nodup, ?_⟩
    exact h.disjoint.imp fun hapart => fun slot hslot hother => hapart slot hslot hother
  have hspace : (SlotSet.upFrom 0 keyspace).Nodup :=
    (SlotSet.pairwise_upFrom 0 keyspace).imp fun hlt => UInt16.ne_of_lt hlt
  have hperm : (members.flatMap fun member ↦ member.slots.slots).Perm
      (SlotSet.upFrom 0 keyspace) := by
    refine (List.perm_ext_iff_of_nodup hnodup hspace).2 fun slot => ?_
    rw [SlotSet.mem_upFrom, List.mem_flatMap]
    refine (h.owned_iff slot).trans ?_
    omega
  have hlength := hperm.length_eq
  rw [SlotSet.length_upFrom (by decide), List.length_flatMap] at hlength
  exact hlength

/-- The members after one of them, at the place `target`, got a share out of all others: it has the
share, members with at most a share are as before, and no others fall below the share. -/
structure Shared (share : Nat) (before after : List Member) (target : Nat) : Prop where
  filled : (slotsAt after target).size = share
  kept : ∀ place, place ≠ target → (slotsAt before place).size ≤ share →
    slotsAt after place = slotsAt before place
  bounded : ∀ place, place ≠ target →
    min (slotsAt before place).size share ≤ (slotsAt after place).size

/-! ## One step -/

section

variable {members : List Member} {target : Nat} {member : Member}

/-- A member without slots does not limit what is offered. -/
theorem offers_eq (htarget : members[target]? = some member) (hempty : member.slots = .empty) :
    Cluster.offers members target = sizes members := by
  refine List.ext_getElem? fun place => ?_
  rw [Cluster.offers, sizes, List.getElem?_mapIdx, List.getElem?_map]
  by_cases hplace : place = target
  · subst hplace
    simp [htarget, hempty]
  · simp [hplace]

/-- The members have enough slots in excess of their shares to give a share to one without slots. -/
theorem Covering.share_le_excess (h : Covering members)
    (htarget : members[target]? = some member) (hempty : member.slots = .empty) :
    keyspace / members.length ≤
      Leveling.excess (keyspace / members.length) (sizes members) := by
  have hzero : 0 ∈ sizes members :=
    List.mem_map.2 ⟨member, List.mem_of_getElem? htarget, by simp [hempty]⟩
  -- the member without slots leaves its own share over
  have hexcess := Leveling.sum_add_le_excess_add (keyspace / members.length) hzero
  have hlength : (sizes members).length = members.length := List.length_map _
  have hshares := Nat.div_mul_le_self keyspace members.length
  rw [h.sum_sizes, hlength] at hexcess
  omega

/-- Putting a number in the place of a zero adds it to the sum. -/
theorem sum_set_of_zero {numbers : List Nat} {place : Nat} (number : Nat)
    (hzero : numbers[place]? = some 0) :
    (numbers.set place number).sum = numbers.sum + number := by
  induction numbers generalizing place with
  | nil => cases hzero
  | cons head tail ih =>
      cases place with
      | zero =>
          obtain rfl : head = 0 := Option.some.inj hzero
          rw [List.set_cons_zero, List.sum_cons, List.sum_cons]
          omega
      | succ place =>
          rw [List.set_cons_succ, List.sum_cons, List.sum_cons, ih hzero]
          omega

/-- A transfer to a member leaves every slot of the keyspace with exactly one owner. -/
theorem Covering.transfer (h : Covering members) {kept given : Nat → SlotSet} {moved : SlotSet}
    {after : List Member} (htransfer : Transfer members target kept given moved after)
    (htarget : target < members.length) : Covering after where
  disjoint := htransfer.disjoint h.disjoint
  owned_iff slot := (htransfer.owned_iff htarget slot).trans (h.owned_iff slot)

section

variable {share : Nat} {left : List Nat}
  (hlowered : List.Forall₂ (Leveling.Lowered share) (sizes members) left)

include hlowered

/-- As many members are left with slots as there are. -/
theorem length_lowered : left.length = members.length := by
  rw [← hlowered.length_eq, sizes, List.length_map]

/-- A member that gives slots up keeps its lowest ones, as many as it is left with. -/
theorem slotsAt_withdrawDown {place : Nat} (hlt : place < members.length)
    (hplace : place ≠ target) :
    ∃ number, left[place]? = some number ∧
      Leveling.Lowered share (slotsAt members place).size number ∧
      slotsAt (Cluster.deposit (Cluster.withdrawDown members target left) target) place =
        (slotsAt members place).takeLowest number := by
  have hother := List.getElem?_eq_getElem hlt
  have hsize : (sizes members)[place]? = some (slotsAt members place).size := by
    rw [getElem?_sizes, if_pos hlt]
  obtain ⟨number, hnumber, hbounds⟩ := Leveling.exists_lowered hlowered hsize
  have htransfer := Cluster.transfer_withdrawDown target (length_lowered hlowered)
  refine ⟨number, hnumber, hbounds, ?_⟩
  rw [htransfer.slotsAt_after hother, if_neg hplace, if_neg hplace, hnumber]
  rfl

/-- A member without slots is left with none. -/
theorem getElem?_lowered_eq_zero (htarget : members[target]? = some member)
    (hempty : member.slots = .empty) : left[target]? = some 0 := by
  obtain ⟨hlt, -⟩ := List.getElem?_eq_some_iff.1 htarget
  have hsize : (sizes members)[target]? = some 0 := by
    rw [getElem?_sizes, if_pos hlt, slotsAt_eq htarget, hempty, SlotSet.size_empty]
  obtain ⟨number, hnumber, hbounds⟩ := Leveling.exists_lowered hlowered hsize
  rw [hnumber, Nat.le_zero.1 hbounds.2]

/-- After slots were given up to the target, the others have as many as they are left with. -/
theorem sizes_withdrawDown :
    let after := Cluster.deposit (Cluster.withdrawDown members target left) target
    sizes after = left.set target (slotsAt after target).size := by
  intro after
  have hlength := length_lowered hlowered
  have hafter : after.length = members.length :=
    (Cluster.transfer_withdrawDown target hlength).sameNodes.length_eq
  refine List.ext_getElem? fun place => ?_
  rw [getElem?_sizes, List.getElem?_set, hlength, hafter]
  by_cases hplace : target = place
  · rw [if_pos hplace, hplace]
  · rw [if_neg hplace]
    by_cases hlt : place < members.length
    · obtain ⟨number, hnumber, hbounds, hslots⟩ :=
        slotsAt_withdrawDown hlowered hlt (Ne.symm hplace)
      have hsize : (slotsAt after place).size = number := by
        rw [hslots, SlotSet.size_takeLowest]
        exact Nat.min_eq_left hbounds.2
      rw [if_pos hlt, hnumber, hsize]
    · rw [if_neg hlt, List.getElem?_eq_none (by omega)]

end

/-- Leveling gives the target its share, and every other member keeps its share or what it has. -/
theorem shared_of_withdrawDown (h : Covering members) (htarget : members[target]? = some member)
    (hempty : member.slots = .empty) :
    let share := keyspace / members.length
    Shared share members (Cluster.deposit (Cluster.withdrawDown members target
      (Leveling.level share (Cluster.offers members target))) target) target := by
  intro share
  have hexcess : share ≤ Leveling.excess share (sizes members) :=
    h.share_le_excess htarget hempty
  have hlowered := Leveling.lowered_level hexcess
  have hsum := Leveling.sum_level hexcess
  rw [h.sum_sizes] at hsum
  rw [offers_eq htarget hempty]
  generalize Leveling.level share (sizes members) = left at hlowered hsum ⊢
  obtain ⟨htargetLt, -⟩ := List.getElem?_eq_some_iff.1 htarget
  have htransfer := Cluster.transfer_withdrawDown target (length_lowered hlowered)
  refine ⟨?_, ?_, ?_⟩
  · -- the sum is the same as before, so the target has what leveling took from it
    have hzero := getElem?_lowered_eq_zero hlowered htarget hempty
    have htotal := (h.transfer htransfer htargetLt).sum_sizes
    rw [sizes_withdrawDown hlowered, sum_set_of_zero _ hzero] at htotal
    omega
  · intro place hplace hsmall
    by_cases hlt : place < members.length
    · obtain ⟨number, -, hbounds, hslots⟩ := slotsAt_withdrawDown hlowered hlt hplace
      have hmin := hbounds.1
      rw [hslots, SlotSet.takeLowest_of_le (by omega)]
    · have hle := Nat.le_of_not_lt hlt
      rw [slotsAt_eq_empty hle, slotsAt_eq_empty (htransfer.sameNodes.length_eq.symm ▸ hle)]
  · intro place hplace
    by_cases hlt : place < members.length
    · obtain ⟨number, -, hbounds, hslots⟩ := slotsAt_withdrawDown hlowered hlt hplace
      have hmin := hbounds.1
      rw [hslots, SlotSet.size_takeLowest]
      omega
    · rw [slotsAt_eq_empty (Nat.le_of_not_lt hlt), SlotSet.size_empty, Nat.zero_min]
      exact Nat.zero_le _

end

namespace Cluster

/-- A plan of a share for a member without slots is applied, unless its number is refused. -/
theorem exists_apply_share {cluster : Cluster} {target : Nat} {member : Member}
    (h : Covering cluster.members) (hids : (cluster.members.map Member.id).Nodup)
    (htarget : cluster.members[target]? = some member) (hempty : member.slots = .empty)
    (hfail : cluster.failOn ≠ some (cluster.applied.length + 1)) :
    let share := keyspace / cluster.members.length
    ∃ after, cluster.apply ⟨member.id, .all, share⟩ = .ok after ∧
      Shared share cluster.members after.members target ∧
      after.failOn = cluster.failOn ∧ after.cancelled = cluster.cancelled := by
  intro share
  have hplace := placeOf?_eq hids htarget
  exact ⟨_, apply_eq_ok_iff.2 ⟨hfail, target, _, hplace, rfl, rfl⟩,
    shared_of_withdrawDown h htarget hempty, rfl, rfl⟩

end Cluster

/-! ## All steps -/

/-- Each plan gives a share, out of all members, to the member at its place, which has no slots. -/
def Shares (members : List Member) (share : Nat) (places : List Nat) (plans : List Plan) : Prop :=
  List.Forall₂ (fun place plan ↦ ∃ member, members[place]? = some member ∧
    member.slots = .empty ∧ plan = ⟨member.id, .all, share⟩) places plans

/-- The clusters between the steps of a spread. Each step applies its plan and gives a share to the
member at its place. -/
structure Stages (share : Nat) (places : List Nat) (plans : List Plan) (stage : Nat → Cluster) :
    Prop where
  applied : ∀ (number : Nat) (plan : Plan), plans[number]? = some plan →
    (stage number).apply plan = .ok (stage (number + 1))
  shared : ∀ (number : Nat) (place : Nat), places[number]? = some place →
    Shared share (stage number).members (stage (number + 1)).members place

/-- A member that gets a share is not the only one of the plans that are left, so these still are
for members without slots. -/
theorem Shares.of_shared {before after : List Member} {share target : Nat} {places : List Nat}
    {plans : List Plan} (h : Shares before share places plans)
    (hshared : Shared share before after target) (hsame : SameNodes before after)
    (htarget : target ∉ places) : Shares after share places plans := by
  unfold Shares at *
  induction h with
  | nil => exact .nil
  | cons hplan hplans ih =>
      obtain ⟨hfirst, hothers⟩ := List.ne_and_not_mem_of_not_mem_cons htarget
      refine .cons ?_ (ih hothers)
      obtain ⟨member, hmember, hempty, rfl⟩ := hplan
      obtain ⟨slots, hafter⟩ := hsame.exists_after hmember
      have hbefore := slotsAt_eq hmember
      rw [hempty] at hbefore
      have hkept := hshared.kept _ (Ne.symm hfirst) (by rw [hbefore]; exact Nat.zero_le _)
      rw [slotsAt_eq hafter, hbefore] at hkept
      exact ⟨_, hafter, hkept, rfl⟩

namespace Stages

variable {share : Nat} {places : List Nat} {plans : List Plan} {stage : Nat → Cluster}

/-- A cluster and then the others. -/
def following (cluster : Cluster) (stage : Nat → Cluster) : Nat → Cluster
  | 0 => cluster
  | number + 1 => stage number

/-- A step before others is one more of them. -/
theorem cons {cluster : Cluster} {place : Nat} {plan : Plan}
    (happly : cluster.apply plan = .ok (stage 0))
    (hshared : Shared share cluster.members (stage 0).members place)
    (h : Stages share places plans stage) :
    Stages share (place :: places) (plan :: plans) (following cluster stage) where
  applied := by
    intro number next hnext
    cases number with
    | zero =>
        cases hnext
        exact happly
    | succ number => exact h.applied number next hnext
  shared := by
    intro number other hother
    cases number with
    | zero =>
        cases hother
        exact hshared
    | succ number => exact h.shared number other hother

/-- The steps of a spread change nothing of the members but their slots. -/
theorem sameNodes (h : Stages share places plans stage) {last : Nat} (hlast : last ≤ plans.length) :
    SameNodes (stage 0).members (stage last).members := by
  induction last with
  | zero => rfl
  | succ last ih =>
      have hplan := List.getElem?_eq_getElem (Nat.lt_of_succ_le hlast)
      obtain ⟨⟨_, _, _, _, -, htransfer⟩, -⟩ :=
        Cluster.transfer_of_apply (h.applied last _ hplan)
      exact htransfer.sameNodes.trans (ih (by omega))

/-- Members with at most a share are as they are until a step gives them a share. -/
theorem slotsAt_eq (h : Stages share places plans stage) {place first last : Nat}
    (hle : first ≤ last) (hlast : last ≤ places.length)
    (hother : ∀ number, first ≤ number → number < last → places[number]? ≠ some place)
    (hsmall : (slotsAt (stage first).members place).size ≤ share) :
    slotsAt (stage last).members place = slotsAt (stage first).members place := by
  induction last, hle using Nat.le_induction with
  | base => rfl
  | succ last hle ih =>
      -- the step gives to another member, and takes nothing from one with at most a share
      have hbefore := ih (by omega) fun number hfirst hlt => hother number hfirst (by omega)
      have htarget := List.getElem?_eq_getElem (Nat.lt_of_succ_le hlast)
      have hplace : place ≠ places[last] := by
        rintro rfl
        exact hother last hle (Nat.lt_succ_self last) htarget
      rw [(h.shared last _ htarget).kept place hplace (by rwa [hbefore]), hbefore]

/-- No step takes a member that is not given a share below its share. -/
theorem min_le_size (h : Stages share places plans stage) {place last : Nat}
    (hlast : last ≤ places.length) (hplace : place ∉ places) :
    min (slotsAt (stage 0).members place).size share ≤
      (slotsAt (stage last).members place).size := by
  induction last with
  | zero => exact Nat.min_le_left _ _
  | succ last ih =>
      have hbefore := ih (by omega)
      have htarget := List.getElem?_eq_getElem (Nat.lt_of_succ_le hlast)
      have hne : place ≠ places[last] := by
        rintro rfl
        exact hplace (List.getElem_mem _)
      have hstep := (h.shared last _ htarget).bounded place hne
      omega

/-- What a step gives to a member stays with it. -/
theorem slotsAt_eq_filled (h : Stages share places plans stage) (hplaces : places.Nodup)
    {place number later : Nat} (hplace : places[number]? = some place) (hlt : number < later)
    (hlater : later ≤ places.length) :
    slotsAt (stage later).members place = slotsAt (stage (number + 1)).members place := by
  refine h.slotsAt_eq (by omega) hlater (fun other hother hlt heq => ?_) ?_
  · have hsame := List.nodup_iff_getElem?_ne_getElem?.1 hplaces number other (by omega) (by omega)
    exact hsame (hplace.trans heq.symm)
  · rw [(h.shared number place hplace).filled]

end Stages

namespace Cluster

variable {share : Nat} {places : List Nat} {plans : List Plan}

/-- An applied plan is one more step of a run of plans. -/
theorem runPlans_cons {cluster after : Cluster} {endpoint : Endpoint} {total : Nat}
    {completed : List Plan} {plan : Plan} (hcancelled : cluster.cancelled = false)
    (happly : cluster.apply plan = .ok after) :
    Migration.runPlans topology endpoint total completed (plan :: plans) cluster =
      Migration.runPlans topology endpoint total (completed ++ [plan]) plans after := by
  rw [Migration.runPlans, reshard_eq_ok_iff.2 ⟨hcancelled, happly⟩]
  rfl

/-- The cluster refuses none of its next reshards, of which there are `count`. -/
def Grants (cluster : Cluster) (count : Nat) : Prop :=
  ∀ step ∈ cluster.failOn,
    step ≤ cluster.applied.length ∨ cluster.applied.length + count < step

/-- A cluster that refuses nothing grants every reshard. -/
theorem Grants.of_failOn_eq_none {cluster : Cluster} (h : cluster.failOn = none) (count : Nat) :
    cluster.Grants count := by
  intro step hstep
  cases h.symm.trans hstep

/-- A cluster that grants more reshards does not refuse the next one. -/
theorem Grants.failOn_ne {cluster : Cluster} {count : Nat} (h : cluster.Grants (count + 1)) :
    cluster.failOn ≠ some (cluster.applied.length + 1) := by
  intro hstep
  have hbounds := h _ hstep
  omega

/-- After a reshard the cluster grants one less. -/
theorem Grants.after {cluster after : Cluster} {count : Nat} {plan : Plan}
    (h : cluster.Grants (count + 1)) (hfailOn : after.failOn = cluster.failOn)
    (happlied : after.applied = cluster.applied ++ [plan]) : after.Grants count := by
  intro step hstep
  have hbounds := h step (hfailOn ▸ hstep)
  rw [happlied, List.length_append, List.length_singleton]
  omega

/-- Plans of shares are all applied, when none of them is refused. -/
theorem exists_stages (cluster : Cluster) (endpoint : Endpoint) (total : Nat)
    (completed : List Plan) (hplans : Shares cluster.members share places plans)
    (hplaces : places.Nodup) (hshare : keyspace / cluster.members.length = share)
    (hcovering : Covering cluster.members) (hids : (cluster.members.map Member.id).Nodup)
    (hcancelled : cluster.cancelled = false) (hgrants : cluster.Grants plans.length) :
    ∃ stage, stage 0 = cluster ∧ Stages share places plans stage ∧
      Migration.runPlans topology endpoint total completed plans cluster =
        .ok (.ok ⟨completed ++ plans⟩, stage plans.length) := by
  induction plans generalizing places cluster completed with
  | nil =>
      cases hplans
      refine ⟨fun _ => cluster, rfl, ⟨nofun, nofun⟩, ?_⟩
      rw [Migration.runPlans, List.append_nil]
      rfl
  | cons plan plans ih =>
      cases hplans with
      | @cons place _ places _ hplan hrest =>
          obtain ⟨member, hmember, hempty, rfl⟩ := hplan
          obtain ⟨hfirst, hothers⟩ := List.nodup_cons.1 hplaces
          obtain ⟨after, happly, hshared, hfailOn, hcancelledAfter⟩ :=
            exists_apply_share hcovering hids hmember hempty hgrants.failOn_ne
          rw [hshare] at happly hshared
          obtain ⟨⟨target, kept, given, moved, htarget, htransfer⟩, happlied⟩ :=
            transfer_of_apply happly
          have hsame := htransfer.sameNodes
          -- all that the step needs of the cluster holds of the next one too
          obtain ⟨stage, rfl, hstages, hrun⟩ := ih after (completed ++ [_])
            (Shares.of_shared hrest hshared hsame hfirst) hothers (by rw [hsame.length_eq, hshare])
            (hcovering.transfer htransfer htarget) (by rwa [hsame.map_eq _ fun _ _ => rfl])
            (hcancelledAfter.trans hcancelled) (hgrants.after hfailOn happlied)
          refine ⟨Stages.following cluster stage, rfl, hstages.cons happly hshared, ?_⟩
          rw [runPlans_cons hcancelled happly, hrun, List.append_assoc]
          rfl

/-! ## The whole migration -/

/-- The masters without slots, in listing order. -/
def newMasters (members : List Member) : List Member :=
  members.filter fun member ↦ member.replicaOf = none ∧ member.slots = .empty

/-- The plans of a spread: a share out of all members for each master without slots. -/
def sharePlans (members : List Member) : List Plan :=
  (newMasters members).map fun member ↦ ⟨member.id, .all, keyspace / members.length⟩

/-- Planning a spread from the nodes of the members gives a share to each master without slots. -/
theorem planning_spread {members : List Member} (hpos : 0 < members.length)
    (hsize : members.length ≤ keyspace) :
    Planning.spread ⟨members.map Member.node⟩ = .ok (sharePlans members) := by
  have hlt : members.length < countLimit := Nat.lt_of_le_of_lt hsize (by decide)
  have hshare : keyspace / members.length ≠ 0 := Nat.ne_of_gt (Nat.div_pos hsize hpos)
  have hmasters : (Listing.mk (members.map Member.node)).slotlessMasters =
      (newMasters members).map Member.node := by
    rw [Listing.slotlessMasters, List.filter_map, newMasters]
    refine congrArg (List.map Member.node) (List.filter_congr fun member _ => ?_)
    rw [Bool.eq_iff_iff, decide_eq_true_eq]
    exact Member.isSlotlessMaster_node member
  rw [Planning.spread, Listing.size, List.length_map, Share.perNode_of_lt hpos hlt, hmasters]
  show (if keyspace / members.length = 0 then _ else _) = _
  rw [if_neg hshare, List.map_map]
  rfl

/-- A spread runs the plans of the shares. -/
theorem spread_eq {cluster : Cluster} (hpos : 0 < cluster.members.length)
    (hsize : cluster.members.length ≤ keyspace) (hnumbered : cluster.Numbered)
    (hnamed : ∀ member ∈ cluster.members, member.Named) (endpoint : Endpoint) :
    Migration.spread topology endpoint cluster =
      Migration.runPlans topology endpoint (sharePlans cluster.members).length []
        (sharePlans cluster.members) { cluster with listings := cluster.listings + 1 } := by
  have hlength : cluster.members.length ≤ 48536 := Nat.le_trans hsize (by decide)
  rw [Migration.spread, listing_eq hnamed hnumbered hlength]
  show (Planning.spread _ >>= _) = _
  rw [planning_spread hpos hsize]
  rfl

/-- A spread without masters to fill does nothing. -/
theorem spread_eq_of_nil {cluster : Cluster} (hpos : 0 < cluster.members.length)
    (hsize : cluster.members.length ≤ keyspace) (hnumbered : cluster.Numbered)
    (hnamed : ∀ member ∈ cluster.members, member.Named) (hnone : newMasters cluster.members = [])
    (endpoint : Endpoint) :
    Migration.spread topology endpoint cluster =
      .ok (.ok ⟨[]⟩, { cluster with listings := cluster.listings + 1 }) := by
  rw [spread_eq hpos hsize hnumbered hnamed, sharePlans, hnone]
  rfl

/-- The plans of the shares belong to the places of the masters without slots. -/
theorem exists_shares (members : List Member) :
    ∃ places, places.Nodup ∧
      Shares members (keyspace / members.length) places (sharePlans members) ∧
      ∀ place, place ∈ places ↔ ∃ member, members[place]? = some member ∧
        member.replicaOf = none ∧ member.slots = .empty := by
  let found := members.zipIdx.filter fun pair ↦ pair.1.replicaOf = none ∧ pair.1.slots = .empty
  have hmem : ∀ {member : Member} {place : Nat}, (member, place) ∈ found ↔
      members[place]? = some member ∧ member.replicaOf = none ∧ member.slots = .empty := by
    intro member place
    simp [found, List.mem_filter, List.mk_mem_zipIdx_iff_getElem?]
  refine ⟨found.map Prod.snd, ?_, ?_, ?_⟩
  · have hall : (members.zipIdx.map Prod.snd).Nodup := by
      rw [List.zipIdx_map_snd]
      exact List.nodup_range'
    exact hall.sublist (List.filter_sublist.map Prod.snd)
  · have hplans : sharePlans members = found.map fun pair ↦
        ⟨pair.1.id, .all, keyspace / members.length⟩ := by
      have hmasters : newMasters members = found.map Prod.fst := by
        conv_lhs => rw [newMasters, ← List.zipIdx_map_fst 0 members, List.filter_map]
        rfl
      rw [sharePlans, hmasters, List.map_map]
      rfl
    rw [hplans, Shares, List.forall₂_map_left_iff, List.forall₂_map_right_iff, List.forall₂_same]
    rintro ⟨member, place⟩ hfound
    obtain ⟨hmember, -, hempty⟩ := hmem.1 hfound
    exact ⟨member, hmember, hempty, rfl⟩
  · intro place
    rw [List.mem_map]
    constructor
    · rintro ⟨⟨member, place⟩, hfound, rfl⟩
      exact ⟨member, hmem.1 hfound⟩
    · rintro ⟨member, hmember⟩
      exact ⟨(member, place), hmem.2 hmember, rfl⟩

/-- What a spread of shares has done, told by the clusters between its steps. -/
structure Spread (share : Nat) (before : Cluster) (migrated : Migrated) (stage : Nat → Cluster) :
    Prop where
  /-- It starts from the members as they were listed. -/
  start : Unchanged before (stage 0)
  /-- Its steps apply its plans. -/
  applied : ∀ (number : Nat) (plan : Plan), migrated.completed[number]? = some plan →
    (stage number).apply plan = .ok (stage (number + 1))
  /-- What a step gives to its target is never taken back by a later step. -/
  kept : ∀ (number : Nat) (plan : Plan) (place later : Nat),
    migrated.completed[number]? = some plan →
    placeOf? before.members plan.target = some place → number < later →
    later ≤ migrated.completed.length →
    slotsAt (stage later).members place = slotsAt (stage (number + 1)).members place
  /-- Every master without slots ends with a share. -/
  filled : ∀ (place : Nat) (member : Member), before.members[place]? = some member →
    member.replicaOf = none → member.slots = .empty →
    (slotsAt (stage migrated.completed.length).members place).size = share
  /-- No owner falls below the share. -/
  bounded : ∀ (place : Nat) (member : Member), before.members[place]? = some member →
    member.slots ≠ .empty → min member.slots.size share ≤
      (slotsAt (stage migrated.completed.length).members place).size
  /-- An owner with at most a share is untouched. -/
  untouched : ∀ (place : Nat) (member : Member), before.members[place]? = some member →
    member.slots ≠ .empty → member.slots.size ≤ share →
    slotsAt (stage migrated.completed.length).members place = member.slots
  /-- A share is moved for each master without slots. -/
  moved : migrated.slotsMoved = (newMasters before.members).length * share

/-- The plans of the shares move a share for each master without slots. -/
theorem slotsMoved_sharePlans (members : List Member) :
    (Migrated.mk (sharePlans members)).slotsMoved =
      (newMasters members).length * (keyspace / members.length) := by
  show ((sharePlans members).map Plan.count).sum = _
  rw [sharePlans, List.map_map]
  simp [Function.comp_def]

/-- The stages of the plans of the shares are those of a spread. -/
theorem spread_of_stages {before : Cluster} {stage : Nat → Cluster}
    (hids : (before.members.map Member.id).Nodup) (hunchanged : Unchanged before (stage 0))
    (hplaces : places.Nodup)
    (hshares : Shares before.members share places (sharePlans before.members))
    (hmem : ∀ place, place ∈ places ↔ ∃ member, before.members[place]? = some member ∧
      member.replicaOf = none ∧ member.slots = .empty)
    (hshare : keyspace / before.members.length = share)
    (hstages : Stages share places (sharePlans before.members) stage) :
    Spread share before ⟨sharePlans before.members⟩ stage := by
  have hlength : places.length = (sharePlans before.members).length := hshares.length_eq
  have hslots : ∀ {place : Nat} {member : Member}, before.members[place]? = some member →
      slotsAt (stage 0).members place = member.slots := by
    intro place member hmember
    rw [hunchanged.members_eq]
    exact slotsAt_eq hmember
  have howner : ∀ {place : Nat} {member : Member}, before.members[place]? = some member →
      member.slots ≠ .empty → place ∉ places := by
    intro place member hmember hne hplace
    obtain ⟨other, hother, -, hempty⟩ := (hmem place).1 hplace
    obtain rfl : member = other := Option.some.inj (hmember.symm.trans hother)
    exact hne hempty
  refine ⟨hunchanged, hstages.applied, ?_, ?_, ?_, ?_, ?_⟩
  · intro number plan place later hplan hplace hlt hlater
    obtain ⟨hplanLt, rfl⟩ := List.getElem?_eq_some_iff.1 hplan
    obtain ⟨member, hmember, -, heq⟩ := hshares.get (hlength ▸ hplanLt) hplanLt
    have htarget : (sharePlans before.members)[number].target = member.id :=
      congrArg Plan.target heq
    rw [htarget, placeOf?_eq hids hmember] at hplace
    have hnumber : places[number]? = some place := by
      rw [List.getElem?_eq_getElem (hlength ▸ hplanLt)]
      exact hplace
    exact hstages.slotsAt_eq_filled hplaces hnumber hlt (hlength ▸ hlater)
  · intro place member hmember hrole hempty
    have hplace : place ∈ places := (hmem place).2 ⟨member, hmember, hrole, hempty⟩
    obtain ⟨number, hnumber⟩ := List.mem_iff_getElem?.1 hplace
    obtain ⟨hlt, -⟩ := List.getElem?_eq_some_iff.1 hnumber
    rw [hstages.slotsAt_eq_filled hplaces hnumber (hlength ▸ hlt) (Nat.le_of_eq hlength.symm)]
    exact (hstages.shared number place hnumber).filled
  · intro place member hmember hne
    have hbound := hstages.min_le_size (Nat.le_of_eq hlength.symm) (howner hmember hne)
    rwa [hslots hmember] at hbound
  · intro place member hmember hne hsmall
    have hother : ∀ number : Nat, 0 ≤ number → number < (sharePlans before.members).length →
        places[number]? ≠ some place :=
      fun _ _ _ hplace => howner hmember hne (List.mem_of_getElem? hplace)
    have hkept := hstages.slotsAt_eq (Nat.zero_le _) (Nat.le_of_eq hlength.symm) hother
      (by rwa [hslots hmember])
    rw [hkept, hslots hmember]
  · rw [slotsMoved_sharePlans, hshare]

/-- A spread of at least one share leaves no master without slots. -/
theorem Spread.newMasters_eq_nil {share : Nat} {before : Cluster} {migrated : Migrated}
    {stage : Nat → Cluster} (h : Spread share before migrated stage) (hshare : 0 < share)
    (hsame : SameNodes before.members (stage migrated.completed.length).members) :
    newMasters (stage migrated.completed.length).members = [] := by
  refine List.filter_eq_nil_iff.2 fun new hnew => ?_
  rw [decide_eq_true_eq]
  rintro ⟨hrole, hempty⟩
  obtain ⟨place, hplace⟩ := List.mem_iff_getElem?.1 hnew
  obtain ⟨old, hold, heq⟩ := hsame.exists_before hplace
  have hrole : old.replicaOf = none := by
    rw [heq] at hrole
    exact hrole
  have hnone : (slotsAt (stage migrated.completed.length).members place).size = 0 := by
    rw [slotsAt_eq hplace, hempty, SlotSet.size_empty]
  by_cases hold' : old.slots = .empty
  · have hfilled := h.filled place old hold hrole hold'
    omega
  · have hbounded := h.bounded place old hold hold'
    have hsize : old.slots.size ≠ 0 := fun hzero => hold' (SlotSet.size_eq_zero_iff.1 hzero)
    omega

/-- A spread over a cluster whose masters own each slot once gives each master without slots its
share, takes no owner below the share, takes nothing back, and leaves nothing to a second spread. -/
theorem spread_shares (before : Cluster) (endpoint : Endpoint) (hpos : 1 ≤ before.members.length)
    (hsize : before.members.length ≤ 16384) (hnumbered : before.Numbered)
    (hids : (before.members.map Member.id).Nodup)
    (hnamed : ∀ member ∈ before.members, member.Named)
    (hmasters : Covering (masters before.members))
    (hreplicas : ∀ member ∈ before.members, member.replicaOf.isSome → member.slots = .empty)
    (hcancelled : before.cancelled = false)
    (hfail : ∀ step ∈ before.failOn, step ≤ before.applied.length ∨
      before.applied.length + (newMasters before.members).length < step) :
    ∃ (migrated : Migrated) (stage : Nat → Cluster),
      Migration.spread topology endpoint before =
        .ok (.ok migrated, stage migrated.completed.length) ∧
      Spread (16384 / before.members.length) before migrated stage ∧
      ∃ again, Migration.spread topology endpoint (stage migrated.completed.length) =
          .ok (.ok ⟨[]⟩, again) ∧
        Unchanged (stage migrated.completed.length) again := by
  have hcovering := hmasters.of_masters hreplicas
  obtain ⟨places, hplaces, hshares, hmem⟩ := exists_shares before.members
  have hlength : (sharePlans before.members).length = (newMasters before.members).length :=
    List.length_map _
  obtain ⟨stage, hstart, hstages, hrun⟩ := exists_stages
    { before with listings := before.listings + 1 } endpoint
    (sharePlans before.members).length [] hshares hplaces rfl hcovering hids hcancelled
    (by rwa [hlength])
  have hunchanged : Unchanged before (stage 0) := by
    rw [hstart]
    exact ⟨rfl, rfl⟩
  have hspread := spread_of_stages hids hunchanged hplaces hshares hmem rfl hstages
  -- the second spread lists the same nodes, none of which is a master without slots any more
  have hsame : SameNodes before.members (stage (sharePlans before.members).length).members := by
    have hlast := hstages.sameNodes (Nat.le_refl _)
    rwa [hunchanged.members_eq] at hlast
  refine ⟨⟨sharePlans before.members⟩, stage, ?_, hspread, ?_⟩
  · rw [spread_eq hpos hsize hnumbered hnamed, hrun]
    rfl
  · have hnone := hspread.newMasters_eq_nil (Nat.div_pos hsize hpos) hsame
    have hcount := hsame.length_eq
    exact ⟨_, spread_eq_of_nil (hcount ▸ hpos) (hcount ▸ hsize) (hsame.numbered hnumbered)
      (hsame.named hnamed) hnone endpoint, rfl, rfl⟩

/-- A master that owns all slots, its replica, and two masters that are to get a quarter each. -/
def lopsided : Cluster where
  members := [⟨"a", 7000, none, .ofRange ⟨0, 16383⟩⟩, ⟨"b", 7001, some "a", .empty⟩,
    ⟨"c", 7002, none, .empty⟩, ⟨"d", 7003, none, .empty⟩]

/-- The owner gives a quarter to each of the two masters, and the second step leaves the first its
quarter. The replica counts, but gets nothing. -/
theorem spread_shares_lopsided :
    let endpoint : Endpoint := ⟨"127.0.0.1", 7000⟩
    lopsided.Numbered ∧ (lopsided.members.map Member.id).Nodup ∧
      (∀ member ∈ lopsided.members, member.Named) ∧ Covering (masters lopsided.members) ∧
      (∀ member ∈ lopsided.members, member.replicaOf.isSome → member.slots = .empty) ∧
      ∃ (migrated : Migrated) (stage : Nat → Cluster),
        Migration.spread topology endpoint lopsided =
          .ok (.ok migrated, stage migrated.completed.length) ∧
        Spread 4096 lopsided migrated stage ∧ migrated.slotsMoved = 8192 ∧
        ∃ again, Migration.spread topology endpoint (stage migrated.completed.length) =
            .ok (.ok ⟨[]⟩, again) ∧
          Unchanged (stage migrated.completed.length) again := by
  intro endpoint
  have hnumbered : lopsided.Numbered := Cluster.numbered_of_map_eq rfl
  have hids : (lopsided.members.map Member.id).Nodup := by decide
  have hnamed : ∀ member ∈ lopsided.members, member.Named := by decide
  have hmasters : Covering (masters lopsided.members) := covering_of_owner rfl (by simp)
  have hreplicas : ∀ member ∈ lopsided.members, member.replicaOf.isSome → member.slots = .empty := by
    simp [lopsided]
  obtain ⟨migrated, stage, hrun, hspread, hagain⟩ := spread_shares lopsided endpoint (by decide)
    (by decide) hnumbered hids hnamed hmasters hreplicas rfl (Grants.of_failOn_eq_none rfl _)
  have hmoved : migrated.slotsMoved = 8192 := hspread.moved.trans (by decide)
  exact ⟨hnumbered, hids, hnamed, hmasters, hreplicas, migrated, stage, hrun, hspread, hmoved, hagain⟩

end Cluster

end ClusterSteward
