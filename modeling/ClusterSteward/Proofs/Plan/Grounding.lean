import ClusterSteward.Proofs.Migration.Course
import ClusterSteward.Proofs.Plan.Ownership

/-!
# What plans rest on

Where the plans for a goal come from, whatever text the listing was read from: `Origin` has a case
for each migration. A spread and an emptying look for masters to give slots to. A merge only keeps
away from replicas, so that its target may also be a node that carries no role at all. Main
statement: `grounded_of_planned`.
-/

namespace ClusterSteward

/-- No flag of the node tells its role. -/
def Node.Roleless (node : Node) : Prop :=
  node.flags.isMaster = false ∧ node.flags.isReplica = false

/-- A node that is no replica is a master or has no role. -/
theorem Node.isMaster_or_roleless {node : Node} (h : node.isReplica = false) :
    node.isMaster = true ∨ node.Roleless := by
  cases hmaster : node.flags.isMaster with
  | true =>
      have hreplica : node.flags.isReplica = false := h
      exact .inl (by simp [Node.isMaster, hmaster, hreplica])
  | false => exact .inr ⟨hmaster, h⟩

/-- A node with ordered ranges owns the slots at their ends, if it has any. -/
theorem Node.Ordered.exists_owns {node : Node} (h : node.Ordered) (hslots : node.slots ≠ []) :
    ∃ slot, node.owns slot = true := by
  obtain ⟨range, hrange⟩ := List.exists_mem_of_ne_nil node.slots hslots
  exact ⟨range.first, Node.owns_iff.2 ⟨range, hrange, (h range hrange).ends_mem.1⟩⟩

namespace Migration.Goal

variable {listing : Listing} {goal : Goal} {plans : List Plan} {plan : Plan}

/-- How planning for a goal comes to a plan. -/
inductive Origin (listing : Listing) : Goal → Plan → Prop where
  /-- A slotless master gets a share. -/
  | shared {node : Node} {share : Nat} (hnode : node ∈ listing.slotlessMasters)
      (hshare : Share.perNode listing.size = .ok share) (hpos : share ≠ 0) :
      Origin listing .spread ⟨node.id, .all, share⟩
  /-- A master is emptied into a master that borders it. -/
  | emptied {id : String} {word : UInt64} {node : Node} {receivers : Planning.Receivers}
      {count : Nat} (hfound : Planning.evacuation listing id = .ok (node, receivers))
      (hcount : node.slotCount = .ok count) :
      Origin listing (.empty id word) ⟨(receivers.pick word).id, .node id, count⟩
  /-- All slots of a node go to another node. -/
  | merged {target source : String} {receiver node : Node} {count : Nat}
      (hpair : Planning.mergePair listing target source = .ok (receiver, node))
      (hcount : node.slotCount = .ok count) (hpos : count ≠ 0) :
      Origin listing (.merge target source) ⟨receiver.id, .node node.id, count⟩

/-- Every plan for a goal comes about in one of these ways. -/
theorem Planned.origin (h : goal.Planned listing plans) (hplan : plan ∈ plans) :
    Origin listing goal plan := by
  cases goal with
  | spread =>
      obtain ⟨share, hshare, hpos, node, hnode, rfl⟩ := Planning.of_spread h hplan
      exact .shared hnode hshare hpos
  | empty id word =>
      obtain ⟨only, rfl, honly⟩ := h
      obtain rfl := List.mem_singleton.1 hplan
      obtain ⟨node, receivers, count, hfound, hcount, rfl⟩ := Planning.of_empty honly
      exact .emptied hfound hcount
  | merge target source =>
      obtain ⟨only, rfl, honly⟩ := h
      obtain rfl := List.mem_singleton.1 hplan
      have hpos := Planning.count_ne_zero_of_merge honly
      obtain ⟨receiver, node, count, hpair, hcount, rfl⟩ := Planning.of_merge honly
      exact .merged hpair hcount hpos

/-- What the plan needs is in the listing. -/
structure Grounded (listing : Listing) (goal : Goal) (plan : Plan) : Prop where
  /-- The target is a listed master. Only the target of a merge may have no role instead. -/
  target_listed : ∃ node ∈ listing.nodes, node.id = plan.target ∧
    (node.isMaster = true ∨ node.Roleless ∧ ∃ source, goal = .merge plan.target source)
  /-- A node that slots are taken from is listed, owns some, and is not the target. -/
  source_listed : ∀ id, plan.source = .node id → id ≠ plan.target ∧
    ∃ node ∈ listing.nodes, node.id = id ∧ ∃ slot, node.owns slot = true

/-- A plan for a goal on a listing with ordered ranges is grounded, whichever way it comes about. -/
theorem Origin.grounded (h : Origin listing goal plan) (hordered : listing.Ordered) :
    Grounded listing goal plan := by
  cases h with
  | @shared node share hnode =>
      obtain ⟨hlisted, hrole⟩ := List.mem_filter.1 hnode
      have hmaster : node.isMaster = true := (Bool.and_eq_true _ _ ▸ hrole).1
      exact ⟨⟨node, hlisted, rfl, .inl hmaster⟩, nofun⟩
  | @emptied id word node receivers count hfound hcount =>
      obtain ⟨hfind, -, first, last, -, -, hborders⟩ := Planning.of_evacuation hfound
      obtain ⟨hreceiver, hmaster, hdifferent, -⟩ := Planning.touches_of_pick hborders word
      obtain ⟨hlisted, hid⟩ := Listing.mem_of_find?_eq_some hfind
      have hslots := Planning.slots_ne_nil_of_evacuation hfound
      refine ⟨⟨receivers.pick word, hreceiver, rfl, .inl hmaster⟩, ?_⟩
      rintro _ ⟨⟩
      exact ⟨hdifferent.symm, node, hlisted, hid, (hordered node hlisted).exists_owns hslots⟩
  | @merged target source receiver node count hpair hcount hpos =>
      obtain ⟨hdifferent, htarget, hsource⟩ := Planning.of_mergePair hpair
      obtain ⟨hreceiver, rfl⟩ := Listing.mem_of_find?_eq_some htarget
      obtain ⟨hlisted, rfl⟩ := Listing.mem_of_find?_eq_some hsource
      have hslots : node.slots ≠ [] := by
        intro hnil
        rw [Node.slotCount, hnil] at hcount
        exact hpos (Except.ok.inj hcount).symm
      have hrole := Node.isMaster_or_roleless (Planning.isReplica_of_mergePair hpair)
      refine ⟨⟨receiver, hreceiver, rfl, hrole.imp_right fun h => ⟨h, node.id, rfl⟩⟩, ?_⟩
      rintro _ ⟨⟩
      exact ⟨Ne.symm hdifferent, node, hlisted, rfl, (hordered node hlisted).exists_owns hslots⟩

/-- On a listing that was read from any text, every plan for a goal moves slots into a listed master,
or by a merge into a listed node without a role, and takes them from all masters or from another
listed node that owns some. -/
theorem grounded_of_planned (text : String) (h : goal.Planned (.parse text) plans) :
    ∀ plan ∈ plans, Grounded (.parse text) goal plan :=
  fun _ hplan => (h.origin hplan).grounded (Listing.ordered_parse text)

/-- A merge is planned between a fragmented master and the first of two nodes with one id, the
second of which is a replica. -/
theorem grounded_of_planned_twice :
    let text := "a 10.0.0.1:7000@17000 myself,master - 0 0 1 connected 0-4
a 10.0.0.2:7000@17000 slave b 0 0 2 connected
b 10.0.0.3:7000@17000 master - 0 0 3 connected 5-7 9"
    let plan : Plan := ⟨"a", .node "b", 4⟩
    (Goal.merge "a" "b").Planned (.parse text) [plan] ∧
      Grounded (.parse text) (.merge "a" "b") plan := by
  intro text plan
  have hplanned : (Goal.merge "a" "b").Planned (.parse text) [plan] :=
    ⟨plan, rfl, by decide +kernel⟩
  exact ⟨hplanned, grounded_of_planned text hplanned plan List.mem_cons_self⟩

/-- A merge is planned into a node whose flags tell no role. -/
theorem not_isMaster_of_planned :
    let text := "a 10.0.0.1:7000@17000 noflags - 0 0 1 connected
b 10.0.0.2:7000@17000 master - 0 0 2 connected 0-5"
    (Goal.merge "a" "b").Planned (.parse text) [⟨"a", .node "b", 6⟩] ∧
      ∀ node ∈ (Listing.parse text).nodes, node.id = "a" → node.isMaster = false :=
  ⟨⟨_, rfl, by decide +kernel⟩, by decide +kernel⟩

end Migration.Goal

end ClusterSteward
