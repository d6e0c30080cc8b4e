import ClusterSteward.Cluster.Moving
import ClusterSteward.Proofs.Sequencing
import ClusterSteward.Proofs.Slot.Counting

/-!
# What moving slots does to a cluster

Applying a plan is a transfer: each member splits its slots into those it keeps and those it gives
up, and the target gets all that is given up. Main statements: `apply_eq_ok_iff`, which says when a
plan is applied and to what effect, and `Transfer.disjoint` and `Transfer.owned_iff`, by which a
transfer among members with disjoint slots neither loses nor duplicates a slot.
-/

namespace ClusterSteward

/-- The slots of the member at a place; there are none at a place without a member. -/
def slotsAt (members : List Member) (place : Nat) : SlotSet :=
  (members[place]?.map Member.slots).getD .empty

/-- No slot is owned by two of the members. -/
def DisjointSlots (members : List Member) : Prop :=
  members.Pairwise fun left right ↦ ∀ slot ∈ left.slots, slot ∉ right.slots

/-- One of the members owns the slot. -/
def OwnedSlot (members : List Member) (slot : Slot) : Prop :=
  ∃ member ∈ members, slot ∈ member.slots

/-- The member without its slots. -/
def Member.unslotted (member : Member) : Member :=
  { member with slots := .empty }

/-- The members are the same before and after, their slots aside. -/
def SameNodes (before after : List Member) : Prop :=
  after.map Member.unslotted = before.map Member.unslotted

/-- The members `after` come from the members `before` when the one at each place keeps and gives up
the slots that `kept` and `given` say, and the one at the place `target` gets the slots `moved`,
which are those that were given up. -/
structure Transfer (before : List Member) (target : Nat) (kept given : Nat → SlotSet)
    (moved : SlotSet) (after : List Member) : Prop where
  split : ∀ {place : Nat} {member : Member}, before[place]? = some member →
    ∀ slot, slot ∈ member.slots ↔ slot ∈ kept place ∨ slot ∈ given place
  apart : ∀ {place : Nat} {member : Member}, before[place]? = some member →
    ∀ slot ∈ kept place, slot ∉ given place
  moved_iff : ∀ slot, slot ∈ moved ↔
    ∃ (place : Nat) (member : Member), before[place]? = some member ∧ slot ∈ given place
  after_eq : ∀ place, after[place]? = before[place]?.map fun (member : Member) ↦
    { member with slots := if place = target then (kept place).union moved else kept place }

section

variable {members before after : List Member} {target place : Nat} {member : Member}

/-- The slots at the place of a member are its slots. -/
theorem slotsAt_eq (h : members[place]? = some member) : slotsAt members place = member.slots := by
  simp [slotsAt, h]

/-- There are no slots at a place after the last member. -/
theorem slotsAt_eq_empty (h : members.length ≤ place) : slotsAt members place = .empty := by
  simp [slotsAt, List.getElem?_eq_none h]

/-- Slots are disjoint when a slot that is owned at two places shows that these are the same. -/
theorem disjointSlots_iff :
    DisjointSlots members ↔ ∀ {first second : Nat} {left right : Member},
      members[first]? = some left →
      members[second]? = some right → ∀ slot ∈ left.slots, slot ∈ right.slots → first = second := by
  rw [DisjointSlots, List.pairwise_iff_getElem]
  constructor
  · intro h first second left right hleft hright slot hslot hother
    obtain ⟨hfirst, rfl⟩ := List.getElem?_eq_some_iff.1 hleft
    obtain ⟨hsecond, rfl⟩ := List.getElem?_eq_some_iff.1 hright
    rcases Nat.lt_trichotomy first second with hlt | heq | hgt
    · exact absurd hother (h first second hfirst hsecond hlt slot hslot)
    · exact heq
    · exact absurd hslot (h second first hsecond hfirst hgt slot hother)
  · intro h first second hfirst hsecond hlt slot hslot hother
    have heq := h (List.getElem?_eq_getElem hfirst) (List.getElem?_eq_getElem hsecond) slot hslot
      hother
    omega

/-- A slot at a place is owned by the member at the place. -/
theorem exists_of_mem_slotsAt {slot : Slot} (h : slot ∈ slotsAt members place) :
    ∃ member, members[place]? = some member ∧ slot ∈ member.slots := by
  cases hmember : members[place]? with
  | none => simp [slotsAt, hmember] at h
  | some member => exact ⟨member, rfl, slotsAt_eq hmember ▸ h⟩

/-- A slot is owned when it is owned at some place. -/
theorem ownedSlot_iff {slot : Slot} :
    OwnedSlot members slot ↔
      ∃ (place : Nat) (member : Member), members[place]? = some member ∧ slot ∈ member.slots := by
  constructor
  · rintro ⟨member, hmember, hslot⟩
    obtain ⟨place, hplace⟩ := List.mem_iff_getElem?.1 hmember
    exact ⟨place, member, hplace, hslot⟩
  · rintro ⟨place, member, hplace, hslot⟩
    exact ⟨member, List.mem_of_getElem? hplace, hslot⟩

namespace SameNodes

/-- Whatever does not depend on the slots is the same before and after. -/
theorem map_eq (h : SameNodes before after) {β : Type} (f : Member → β)
    (hf : ∀ (member : Member) (slots : SlotSet), f { member with slots } = f member) :
    after.map f = before.map f := by
  have hunslotted : ∀ members : List Member, members.map f =
      (members.map Member.unslotted).map f := by
    intro members
    rw [List.map_map]
    exact List.map_congr_left fun member _ => (hf member .empty).symm
  rw [hunslotted after, hunslotted before, h]

/-- The number of members is the same before and after. -/
theorem length_eq (h : SameNodes before after) : after.length = before.length := by
  simpa using congrArg List.length h

/-- A member after is the member before at the same place with other slots. -/
theorem exists_before (h : SameNodes before after) {new : Member}
    (hnew : after[place]? = some new) :
    ∃ old, before[place]? = some old ∧ new = { old with slots := new.slots } := by
  have hplace := congrArg (fun members : List Member ↦ members[place]?) h
  simp only [List.getElem?_map, hnew, Option.map_some] at hplace
  obtain ⟨old, hold, heq⟩ := Option.map_eq_some_iff.1 hplace.symm
  refine ⟨old, hold, ?_⟩
  cases new
  cases old
  simp_all [Member.unslotted]

/-- Every member before is found after at the same place, with other slots. -/
theorem exists_after (h : SameNodes before after) (hmember : before[place]? = some member) :
    ∃ slots, after[place]? = some { member with slots } := by
  obtain ⟨hlt, -⟩ := List.getElem?_eq_some_iff.1 hmember
  have hplace : place < after.length := h.length_eq.symm ▸ hlt
  have hafter := List.getElem?_eq_getElem hplace
  obtain ⟨old, hold, heq⟩ := h.exists_before hafter
  obtain rfl : member = old := Option.some.inj (hmember.symm.trans hold)
  exact ⟨after[place].slots, by rw [hafter, ← heq]⟩

end SameNodes

namespace Transfer

variable {kept given : Nat → SlotSet} {moved : SlotSet}

/-- A transfer changes nothing of the members but their slots. -/
theorem sameNodes (h : Transfer before target kept given moved after) :
    SameNodes before after := by
  refine List.ext_getElem? fun place => ?_
  rw [List.getElem?_map, List.getElem?_map, h.after_eq, Option.map_map]
  rfl

/-- The slots of a transfer at the place of a member. -/
theorem slotsAt_after (h : Transfer before target kept given moved after)
    (hmember : before[place]? = some member) :
    slotsAt after place = if place = target then (kept place).union moved else kept place := by
  have hafter := h.after_eq place
  rw [hmember] at hafter
  exact slotsAt_eq hafter

/-- A member after a transfer is a member from before with other slots. -/
theorem exists_before (h : Transfer before target kept given moved after) {new : Member}
    (hnew : after[place]? = some new) :
    ∃ old, before[place]? = some old ∧
      new = { old with
        slots := if place = target then (kept place).union moved else kept place } := by
  rw [h.after_eq, Option.map_eq_some_iff] at hnew
  obtain ⟨old, hold, rfl⟩ := hnew
  exact ⟨old, hold, rfl⟩

/-- A member after a transfer owns what it kept, and the target also owns what was moved. -/
theorem mem_after_iff (h : Transfer before target kept given moved after) {new : Member}
    (hnew : after[place]? = some new) (slot : Slot) :
    slot ∈ new.slots ↔ slot ∈ kept place ∨ (place = target ∧ slot ∈ moved) := by
  obtain ⟨old, -, rfl⟩ := h.exists_before hnew
  by_cases htarget : place = target
  · simp [htarget, SlotSet.mem_union]
  · simp [htarget]

/-- A transfer among disjoint slots leaves them disjoint. -/
theorem disjoint (h : Transfer before target kept given moved after)
    (hdisjoint : DisjointSlots before) : DisjointSlots after := by
  rw [disjointSlots_iff] at hdisjoint ⊢
  -- a slot that one member kept was given up by no member
  have hkept : ∀ {place : Nat} {old : Member}, before[place]? = some old →
      ∀ slot ∈ kept place, slot ∉ moved := by
    intro place old hold slot hslot hmoved
    obtain ⟨giver, other, hother, hgiven⟩ := (h.moved_iff slot).1 hmoved
    have hmem := (h.split hold slot).2 (.inl hslot)
    obtain rfl := hdisjoint hold hother slot hmem ((h.split hother slot).2 (.inr hgiven))
    exact h.apart hold slot hslot hgiven
  intro first second left right hleft hright slot hslot hother
  obtain ⟨oldLeft, holdLeft, -⟩ := h.exists_before hleft
  obtain ⟨oldRight, holdRight, -⟩ := h.exists_before hright
  rw [h.mem_after_iff hleft] at hslot
  rw [h.mem_after_iff hright] at hother
  -- of two owners, neither or both have the slot from the transfer
  rcases hslot with hslot | ⟨hfirst, hmoved⟩
  · rcases hother with hother | ⟨-, hmoved⟩
    · exact hdisjoint holdLeft holdRight slot ((h.split holdLeft slot).2 (.inl hslot))
        ((h.split holdRight slot).2 (.inl hother))
    · exact absurd hmoved (hkept holdLeft slot hslot)
  · rcases hother with hother | ⟨hsecond, -⟩
    · exact absurd hmoved (hkept holdRight slot hother)
    · rw [hfirst, hsecond]

/-- A transfer to a member loses no slot and adds none. -/
theorem owned_iff (h : Transfer before target kept given moved after)
    (htarget : target < before.length) (slot : Slot) :
    OwnedSlot after slot ↔ OwnedSlot before slot := by
  rw [ownedSlot_iff, ownedSlot_iff]
  constructor
  · rintro ⟨place, new, hnew, hslot⟩
    obtain ⟨old, hold, -⟩ := h.exists_before hnew
    rcases (h.mem_after_iff hnew slot).1 hslot with hkept | ⟨-, hmoved⟩
    · exact ⟨place, old, hold, (h.split hold slot).2 (.inl hkept)⟩
    · obtain ⟨giver, other, hother, hgiven⟩ := (h.moved_iff slot).1 hmoved
      exact ⟨giver, other, hother, (h.split hother slot).2 (.inr hgiven)⟩
  · rintro ⟨place, old, hold, hslot⟩
    -- a slot that was kept is at its place still, and one that was given up is at the target
    rcases (h.split hold slot).1 hslot with hkept | hgiven
    · obtain ⟨new, hnew⟩ : ∃ new, after[place]? = some new := ⟨_, by rw [h.after_eq, hold]; rfl⟩
      exact ⟨place, new, hnew, (h.mem_after_iff hnew slot).2 (.inl hkept)⟩
    · obtain ⟨new, hnew⟩ : ∃ new, after[target]? = some new :=
        ⟨_, List.getElem?_eq_getElem (h.sameNodes.length_eq.symm ▸ htarget)⟩
      have hmoved : slot ∈ moved := (h.moved_iff slot).2 ⟨place, old, hold, hgiven⟩
      exact ⟨target, new, hnew, (h.mem_after_iff hnew slot).2 (.inr ⟨rfl, hmoved⟩)⟩

end Transfer

end

namespace Cluster

/-! ## Finding the members of a plan -/

section

variable {members : List Member} {place : Nat} {member : Member} {id : String}

/-- The place that is found for an id is that of a member with the id. -/
theorem exists_of_placeOf? (h : placeOf? members id = some place) :
    ∃ member, members[place]? = some member ∧ member.id = id := by
  obtain ⟨hlt, hid, -⟩ := List.findIdx?_eq_some_iff_getElem.1 h
  exact ⟨members[place], List.getElem?_eq_getElem hlt, of_decide_eq_true hid⟩

/-- When the ids are different, a member is found at its place. -/
theorem placeOf?_eq (hids : (members.map Member.id).Nodup) (h : members[place]? = some member) :
    placeOf? members member.id = some place := by
  obtain ⟨hlt, rfl⟩ := List.getElem?_eq_some_iff.1 h
  refine List.findIdx?_eq_some_iff_getElem.2 ⟨hlt, decide_eq_true rfl, fun other hother => ?_⟩
  have hne := List.pairwise_iff_getElem.1 hids other place
    (by simpa using Nat.lt_trans hother hlt) (by simpa using hlt) hother
  simpa using hne

end

/-! ## Giving slots up -/

section

variable {members : List Member} {source : Nat} {left : List Nat}

/-- The members after a deposit: the target has the moved slots in addition to its own. -/
theorem getElem?_deposit (withdrawal : Withdrawal) (target place : Nat) :
    (deposit withdrawal target)[place]? =
      withdrawal.members[place]?.map fun (member : Member) ↦
        { member with
          slots := if place = target then member.slots.union withdrawal.moved
            else member.slots } := by
  rw [deposit, List.getElem?_modify]
  cases withdrawal.members[place]? with
  | none => rfl
  | some member =>
      by_cases htarget : place = target
      · simp [htarget]
      · simp [htarget, Ne.symm htarget]

/-- A slot is given up by leveling when it is above those that some other member is left with. -/
theorem mem_moved_withdrawDown {target : Nat} (hlength : left.length = members.length)
    (slot : Slot) :
    slot ∈ (withdrawDown members target left).moved ↔
      ∃ (place : Nat) (member : Member), members[place]? = some member ∧ place ≠ target ∧
        slot ∈ member.slots.dropLowest (left[place]?.getD 0) := by
  have hunion : ∀ pairs : List ((Member × Nat) × Nat),
      slot ∈ pairs.foldr (fun pair moved ↦ if pair.2 = target then moved
        else (pair.1.1.slots.dropLowest pair.1.2).union moved) .empty ↔
      ∃ pair ∈ pairs, pair.2 ≠ target ∧ slot ∈ pair.1.1.slots.dropLowest pair.1.2 := by
    intro pairs
    induction pairs with
    | nil => simp
    | cons pair pairs ih =>
        rw [List.foldr_cons, List.exists_mem_cons_iff, ← ih]
        by_cases htarget : pair.2 = target
        · simp [htarget]
        · simp [htarget, SlotSet.mem_union]
  rw [withdrawDown]
  refine (hunion _).trans ?_
  constructor
  · rintro ⟨⟨⟨member, kept⟩, place⟩, hpair, htarget, hslot⟩
    rw [List.mk_mem_zipIdx_iff_getElem?, List.getElem?_zip_eq_some] at hpair
    refine ⟨place, member, hpair.1, htarget, ?_⟩
    rw [hpair.2]
    exact hslot
  · rintro ⟨place, member, hmember, htarget, hslot⟩
    obtain ⟨hlt, -⟩ := List.getElem?_eq_some_iff.1 hmember
    have hleft := List.getElem?_eq_getElem (hlength.symm ▸ hlt : place < left.length)
    rw [hleft] at hslot
    refine ⟨((member, left[place]), place), ?_, htarget, hslot⟩
    rw [List.mk_mem_zipIdx_iff_getElem?, List.getElem?_zip_eq_some]
    exact ⟨hmember, hleft⟩

/-- The members after one of them has given up its lowest slots. -/
theorem getElem?_withdrawLowest {giver : Member} (hsource : members[source]? = some giver)
    (count place : Nat) :
    (withdrawLowest members source count).members[place]? =
      members[place]?.map fun (member : Member) ↦
        { member with
          slots := if place = source then giver.slots.dropLowest count
            else slotsAt members place } := by
  rw [withdrawLowest, List.getElem?_modify]
  cases hmember : members[place]? with
  | none => rfl
  | some member =>
      by_cases hplace : place = source
      · obtain rfl : giver = member := Option.some.inj (hsource.symm.trans (hplace ▸ hmember))
        simp [hplace]
      · simp [hplace, Ne.symm hplace, slotsAt_eq hmember]

/-- The members after all but the target have given up the slots above those that they are left
with. -/
theorem getElem?_withdrawDown {target : Nat} (hlength : left.length = members.length)
    (place : Nat) :
    (withdrawDown members target left).members[place]? =
      members[place]?.map fun (member : Member) ↦
        { member with
          slots := if place = target then slotsAt members place
            else (slotsAt members place).takeLowest (left[place]?.getD 0) } := by
  rw [withdrawDown, List.getElem?_mapIdx]
  cases hmember : members[place]? with
  | none =>
      have hshort := List.getElem?_eq_none_iff.1 hmember
      rw [List.getElem?_eq_none_iff.2 (by simpa using .inl hshort)]
      rfl
  | some member =>
      obtain ⟨hlt, -⟩ := List.getElem?_eq_some_iff.1 hmember
      have hleft := List.getElem?_eq_getElem (hlength.symm ▸ hlt : place < left.length)
      rw [(List.getElem?_zip_eq_some (z := (member, left[place]))).2 ⟨hmember, hleft⟩]
      by_cases htarget : place = target
      · subst htarget
        simp [slotsAt_eq hmember]
      · simp [htarget, slotsAt_eq hmember, hleft]

/-- One member gives up its lowest slots to the target. -/
theorem transfer_withdrawLowest {giver : Member} (target count : Nat)
    (hsource : members[source]? = some giver) :
    Transfer members target
      (fun place ↦ if place = source then giver.slots.dropLowest count else slotsAt members place)
      (fun place ↦ if place = source then giver.slots.takeLowest count else .empty)
      (withdrawLowest members source count).moved
      (deposit (withdrawLowest members source count) target) where
  split := by
    intro place member hmember slot
    by_cases hplace : place = source
    · obtain rfl : giver = member := Option.some.inj (hsource.symm.trans (hplace ▸ hmember))
      simp only [hplace, if_true]
      rw [or_comm, SlotSet.mem_takeLowest_or_mem_dropLowest]
    · simp [hplace, slotsAt_eq hmember]
  apart := by
    intro place member hmember slot
    by_cases hplace : place = source
    · simp only [hplace, if_true]
      exact fun hkept hgiven => SlotSet.not_mem_dropLowest hgiven hkept
    · simp [hplace]
  moved_iff := by
    intro slot
    have hmoved : (withdrawLowest members source count).moved = giver.slots.takeLowest count := by
      simp [withdrawLowest, hsource]
    rw [hmoved]
    constructor
    · intro hslot
      exact ⟨source, giver, hsource, by simpa using hslot⟩
    · rintro ⟨place, member, -, hslot⟩
      by_cases hplace : place = source
      · simpa [hplace] using hslot
      · simp [hplace] at hslot
  after_eq := by
    intro place
    rw [getElem?_deposit, getElem?_withdrawLowest hsource, Option.map_map]
    rfl

/-- Every member but the target gives up its highest slots to it. -/
theorem transfer_withdrawDown (target : Nat) (hlength : left.length = members.length) :
    Transfer members target
      (fun place ↦ if place = target then slotsAt members place
        else (slotsAt members place).takeLowest (left[place]?.getD 0))
      (fun place ↦ if place = target then .empty
        else (slotsAt members place).dropLowest (left[place]?.getD 0))
      (withdrawDown members target left).moved
      (deposit (withdrawDown members target left) target) where
  split := by
    intro place member hmember slot
    by_cases hplace : place = target
    · simp [hplace, ← slotsAt_eq hmember]
    · simp only [hplace, if_false, slotsAt_eq hmember]
      exact (SlotSet.mem_takeLowest_or_mem_dropLowest _).symm
  apart := by
    intro place member hmember slot
    by_cases hplace : place = target
    · simp [hplace]
    · simp only [hplace, if_false]
      exact SlotSet.not_mem_dropLowest
  moved_iff := by
    intro slot
    rw [mem_moved_withdrawDown hlength]
    constructor
    · rintro ⟨place, member, hmember, htarget, hslot⟩
      exact ⟨place, member, hmember, by simpa [htarget, slotsAt_eq hmember] using hslot⟩
    · rintro ⟨place, member, hmember, hslot⟩
      by_cases htarget : place = target
      · simp [htarget] at hslot
      · exact ⟨place, member, hmember, htarget, by simpa [htarget, slotsAt_eq hmember] using hslot⟩
  after_eq := by
    intro place
    rw [getElem?_deposit, getElem?_withdrawDown hlength, Option.map_map]
    rfl

end

/-! ## Applying a plan -/

/-- Slots are withdrawn from one known member, or from all members but the target. -/
theorem withdraw_eq_ok_iff {members : List Member} {target count : Nat} {source : Source}
    {withdrawal : Withdrawal} :
    withdraw members target source count = .ok withdrawal ↔
      (∃ id place, source = .node id ∧ placeOf? members id = some place ∧
        withdrawal = withdrawLowest members place count) ∨
      (source = .all ∧
        withdrawal =
          withdrawDown members target (Leveling.level count (offers members target))) := by
  cases source with
  | all => simp [withdraw, eq_comm]
  | node id => cases hplace : placeOf? members id <;> simp [withdraw, hplace, eq_comm]

/-- What is withdrawn and deposited is a transfer. -/
theorem exists_transfer {members : List Member} {target count : Nat} {source : Source}
    {withdrawal : Withdrawal} (h : withdraw members target source count = .ok withdrawal) :
    ∃ kept given, Transfer members target kept given withdrawal.moved
      (deposit withdrawal target) := by
  rcases withdraw_eq_ok_iff.1 h with ⟨id, place, -, hplace, rfl⟩ | ⟨-, rfl⟩
  · obtain ⟨giver, hgiver, -⟩ := exists_of_placeOf? hplace
    exact ⟨_, _, transfer_withdrawLowest target count hgiver⟩
  · have hlength : (Leveling.level count (offers members target)).length = members.length := by
      rw [Leveling.length_level, offers, List.length_mapIdx]
    exact ⟨_, _, transfer_withdrawDown target hlength⟩

variable {cluster after : Cluster} {plan : Plan}

/-- A plan is applied when its number is not refused and its nodes are known. -/
theorem apply_eq_ok_iff :
    cluster.apply plan = .ok after ↔
      cluster.failOn ≠ some (cluster.applied.length + 1) ∧
      ∃ target withdrawal, placeOf? cluster.members plan.target = some target ∧
        withdraw cluster.members target plan.source plan.count = .ok withdrawal ∧
        after = { cluster with
          members := deposit withdrawal target
          applied := cluster.applied ++ [plan] } := by
  rw [Cluster.apply]
  by_cases hfail : cluster.failOn = some (cluster.applied.length + 1)
  · simp [hfail, bind_eq_ok_iff]
  · cases htarget : placeOf? cluster.members plan.target with
    | none => simp [hfail]
    | some target =>
        cases hwithdraw : withdraw cluster.members target plan.source plan.count <;>
          simp [hfail, hwithdraw, eq_comm]

/-- A reshard succeeds when the cluster is not cancelled and the plan is applied. -/
theorem reshard_eq_ok_iff {endpoint : Endpoint} :
    topology.reshard endpoint plan cluster = .ok (.ok (), after) ↔
      cluster.cancelled = false ∧ cluster.apply plan = .ok after := by
  show Except.ok (cluster.reshard plan) = _ ↔ _
  rw [Cluster.reshard]
  cases cluster.cancelled <;> cases cluster.apply plan <;> simp

end Cluster

end ClusterSteward
