import ClusterSteward.Proofs.Cluster.Listing
import ClusterSteward.Proofs.Plan.Ownership

/-!
# What a listing tells of a cluster

A cluster in memory is listed as text, and what is read from the text is all that a listing says of
the members: their names, ports and roles, and their slots as maximal runs. Main statement:
`Cluster.exists_text_described`.
-/

namespace ClusterSteward

namespace Member

variable {member : Member}

/-- The node tells all of the member. -/
structure Described (member : Member) (node : Node) : Prop where
  id_eq : node.id = member.id
  port_eq : node.port = member.port
  busPort_eq : node.busPort.toNat = member.port.toNat + busOffset
  isMaster_eq : node.isMaster = member.replicaOf.isNone
  isReplica_eq : node.isReplica = member.replicaOf.isSome
  masterId_eq : node.masterId = member.replicaOf
  linkState_eq : node.linkState = "connected"
  /-- The ranges of the node are the maximal runs of the member's slots, in ascending order. -/
  slots_runs : SlotRange.AreRuns member.slots node.slots
  owns_iff : ∀ slot, node.owns slot = true ↔ slot ∈ member.slots
  slotCount_eq : node.slotCount = .ok member.slots.size
  firstSlot_eq : ∀ slot, node.firstSlot? = some slot ↔ IsLeast {slot | slot ∈ member.slots} slot
  lastSlot_eq : ∀ slot, node.lastSlot? = some slot ↔ IsGreatest {slot | slot ∈ member.slots} slot

/-- The node of a member is a replica exactly when the member replicates another one. -/
theorem isReplica_node (member : Member) : member.node.isReplica = member.replicaOf.isSome := by
  cases hmaster : member.replicaOf <;>
    simp [node, Node.isReplica, Flags.isReplica, Flags.contains, hmaster]

/-- The node of a member owns the slots of the member. -/
theorem owns_node (member : Member) (slot : Slot) :
    member.node.owns slot = true ↔ slot ∈ member.slots :=
  Node.owns_iff.trans SlotSet.mem_runs_iff

/-- The ranges of a member's node are ordered. -/
theorem ordered_node (member : Member) : member.node.Ordered :=
  fun _ hrange => SlotSet.le_of_mem_runsOf hrange

/-- The node of a listable member tells all of it, unless its master goes by the sign for none. -/
theorem described_node (hlistable : member.Listable) (hmaster : member.replicaOf ≠ some "-") :
    member.Described member.node := by
  have howned : {slot | member.node.owns slot = true} = {slot | slot ∈ member.slots} :=
    Set.ext member.owns_node
  constructor
  case id_eq => rfl
  case port_eq => rfl
  case busPort_eq => exact UInt16.toNat_ofNat_of_lt' hlistable
  case isMaster_eq => exact isMaster_node member
  case isReplica_eq => exact isReplica_node member
  case masterId_eq =>
    cases hreplica : member.replicaOf with
    | none => simp [node, hreplica]
    | some master =>
        have hnamed : master ≠ "-" := fun heq => hmaster (hreplica.trans (congrArg some heq))
        simp [node, hreplica, Option.filter, hnamed]
  case linkState_eq => rfl
  case slots_runs => exact SlotRange.areRuns_runs member.slots
  case owns_iff => exact member.owns_node
  case slotCount_eq => exact slotCount_node member
  case firstSlot_eq =>
    intro slot
    rw [← howned]
    exact (ordered_node member).firstSlot?_eq_some_iff
  case lastSlot_eq =>
    intro slot
    rw [← howned]
    exact (ordered_node member).lastSlot?_eq_some_iff

end Member

namespace Cluster

variable {cluster : Cluster}

/-- A cluster whose members have proper names has a text as long as the bus ports are port numbers,
and reading the text gives a node for each member, in order, that tells all of the member. -/
theorem exists_text_described (hnumbered : cluster.Numbered)
    (hsize : cluster.members.length ≤ 48536) (hnamed : ∀ member ∈ cluster.members, member.Named)
    (hmaster : ∀ member ∈ cluster.members, member.replicaOf ≠ some "-") :
    ∃ text, cluster.text = .ok text ∧
      List.Forall₂ Member.Described cluster.members (Listing.parse text).nodes := by
  obtain ⟨text, htext⟩ := hnumbered.exists_text hsize
  have hlistable := (text_eq_ok_iff.1 htext).1
  refine ⟨text, htext, ?_⟩
  rw [parse_text hnamed htext, List.forall₂_map_right_iff, List.forall₂_same]
  exact fun member hmember =>
    Member.described_node (hlistable member hmember) (hmaster member hmember)

/-- A cluster of a fragmented master, its replica, and a master that owns the last slot numbers. -/
theorem exists_text_described_fragmented :
    let cluster : Cluster := { members := [⟨"a", 7000, none, .ofRanges [⟨0, 2⟩, ⟨4, 4⟩]⟩,
      ⟨"r", 7001, some "a", .empty⟩, ⟨"b", 7002, none, .ofRange ⟨65534, 65535⟩⟩] }
    cluster.Numbered ∧ cluster.members.length ≤ 48536 ∧
      (∀ member ∈ cluster.members, member.Named) ∧
      (∀ member ∈ cluster.members, member.replicaOf ≠ some "-") ∧
      ∃ text, cluster.text = .ok text ∧
        List.Forall₂ Member.Described cluster.members (Listing.parse text).nodes := by
  intro cluster
  have hnumbered : cluster.Numbered := numbered_of_map_eq rfl
  have hnamed : ∀ member ∈ cluster.members, member.Named := by decide
  have hmaster : ∀ member ∈ cluster.members, member.replicaOf ≠ some "-" := by decide
  exact ⟨hnumbered, by decide, hnamed, hmaster,
    exists_text_described hnumbered (by decide) hnamed hmaster⟩

end Cluster

end ClusterSteward
