import ClusterSteward.Plan.Planning
import ClusterSteward.Proofs.Sequencing
import ClusterSteward.Proofs.Slot.Dividing

/-!
# What planning finds

The plans that each migration can come to, and when its arithmetic fails. Main statements:
`of_spread`, `of_empty` and `of_merge`, which take a plan apart, `touches_of_pick`, by which the
receiver of an emptied master touches its range, and `spread_eq_error_iff`, `empty_eq_error_iff` and
`merge_eq_error_iff`.
-/

namespace ClusterSteward

variable {listing : Listing} {id target source : String} {word : UInt64} {node : Node}

/-- A node that is found by an id is listed under it. -/
theorem Listing.mem_of_find?_eq_some (h : listing.find? id = some node) :
    node ∈ listing.nodes ∧ node.id = id := by
  rw [Listing.find?] at h
  exact ⟨List.mem_of_find?_eq_some h, by simpa using List.find?_some h⟩

namespace Borders

/-- The last node with a property is one of the nodes and has the property. -/
theorem mem_of_lastSuch {property : Node → Bool} {nodes : List Node}
    (h : lastSuch property nodes = some node) : node ∈ nodes ∧ property node = true :=
  ⟨List.mem_reverse.1 (List.mem_of_find?_eq_some h), List.find?_some h⟩

/-- A node touches a range from one side when a range of its own ends or starts there. -/
def Touches (node : Node) (first last : Slot) : Prop :=
  (∃ range ∈ node.slots, range.last.toNat + 1 = first.toNat) ∨
    ∃ range ∈ node.slots, range.first.toNat = last.toNat + 1

/-- A candidate for a border is a slotted master of the listing that is not excluded. -/
theorem mem_candidates {excluded : String}
    (h : node ∈ listing.nodes.filter fun node ↦ node.isSlottedMaster && node.id != excluded) :
    node ∈ listing.nodes ∧ node.isMaster = true ∧ node.id ≠ excluded := by
  obtain ⟨hmem, hnode⟩ := List.mem_filter.1 h
  rw [Bool.and_eq_true, Node.isSlottedMaster, Bool.and_eq_true, bne_iff_ne] at hnode
  exact ⟨hmem, hnode.1.1, hnode.2⟩

/-- The border below is a master other than the excluded one that touches the range. -/
theorem touches_below {first last : Slot} (h : (find listing id first last).below = some node) :
    node ∈ listing.nodes ∧ node.isMaster = true ∧ node.id ≠ id ∧ Touches node first last := by
  obtain ⟨number, hnumber, hnode⟩ := Option.bind_eq_some_iff.1 h
  obtain ⟨hmem, hends⟩ := mem_of_lastSuch hnode
  obtain ⟨hlisted, hmaster, hid⟩ := mem_candidates hmem
  obtain ⟨range, hrange, hlast⟩ := List.any_eq_true.1 hends
  have hfirst : 0 < first.toNat ∧ first.toNat - 1 = number := by
    simpa [slotBelow?] using hnumber
  have heq : range.last.toNat = number := by simpa using hlast
  exact ⟨hlisted, hmaster, hid, .inl ⟨range, hrange, by omega⟩⟩

/-- The border above is a master other than the excluded one that touches the range. -/
theorem touches_above {first last : Slot} (h : (find listing id first last).above = some node) :
    node ∈ listing.nodes ∧ node.isMaster = true ∧ node.id ≠ id ∧ Touches node first last := by
  obtain ⟨number, hnumber, hnode⟩ := Option.bind_eq_some_iff.1 h
  obtain ⟨hmem, hstarts⟩ := mem_of_lastSuch hnode
  obtain ⟨hlisted, hmaster, hid⟩ := mem_candidates hmem
  obtain ⟨range, hrange, hfirst⟩ := List.any_eq_true.1 hstarts
  have hlast : last.toNat + 1 < keyspace ∧ last.toNat + 1 = number := by
    simpa [slotAbove?] using hnumber
  have heq : range.first.toNat = number := by simpa using hfirst
  exact ⟨hlisted, hmaster, hid, .inr ⟨range, hrange, by omega⟩⟩

end Borders

namespace Planning

/-- The receiver that is picked is one of the borders. -/
theorem Receivers.eq_of_pick {borders : Borders} {receivers : Receivers}
    (h : ofBorders? borders = some receivers) (word : UInt64) :
    borders.below = some (receivers.pick word) ∨ borders.above = some (receivers.pick word) := by
  obtain ⟨below, above⟩ := borders
  cases below with
  | none =>
      cases above with
      | none => cases h
      | some above =>
          cases h
          exact .inr rfl
  | some below =>
      cases above with
      | none =>
          cases h
          exact .inl rfl
      | some above =>
          cases h
          by_cases hword : word.toNat < UInt64.size / 2
          · simp [pick, hword]
          · simp [pick, hword]

/-- The receiver that is picked is a master other than the emptied one that touches its range. -/
theorem touches_of_pick {first last : Slot} {receivers : Receivers}
    (h : Receivers.ofBorders? (Borders.find listing id first last) = some receivers)
    (word : UInt64) :
    receivers.pick word ∈ listing.nodes ∧ (receivers.pick word).isMaster = true ∧
      (receivers.pick word).id ≠ id ∧ Borders.Touches (receivers.pick word) first last := by
  rcases Receivers.eq_of_pick h word with hbelow | habove
  · exact Borders.touches_below hbelow
  · exact Borders.touches_above habove

/-- A master that can be emptied is listed, owns slots and has a border. -/
theorem of_evacuation {receivers : Receivers} (h : evacuation listing id = .ok (node, receivers)) :
    listing.find? id = some node ∧ node.isReplica = false ∧
      ∃ first last, node.firstSlot? = some first ∧ node.lastSlot? = some last ∧
        Receivers.ofBorders? (Borders.find listing id first last) = some receivers := by
  unfold evacuation at h
  -- one case for each check, in their order: a failed one contradicts the success
  cases hnode : listing.find? id with
  | none => simp [hnode] at h
  | some found =>
      cases hrole : found.isReplica || !found.isMaster with
      | true => simp [hnode, hrole, bind_eq_ok_iff] at h
      | false =>
          cases hfirst : found.firstSlot? with
          | none => simp [hnode, hrole, hfirst] at h
          | some first =>
              cases hlast : found.lastSlot? with
              | none => simp [hnode, hrole, hfirst, hlast] at h
              | some last =>
                  cases hborders : Receivers.ofBorders? (Borders.find listing id first last) with
                  | none => simp [hnode, hrole, hfirst, hlast, hborders] at h
                  | some picked =>
                      have heq : found = node ∧ picked = receivers := by
                        simpa [hnode, hrole, hfirst, hlast, hborders] using h
                      obtain ⟨rfl, rfl⟩ := heq
                      rw [Bool.or_eq_false_iff] at hrole
                      exact ⟨rfl, hrole.1, first, last, hfirst, hlast, hborders⟩

/-- A master that can be emptied has ranges. -/
theorem slots_ne_nil_of_evacuation {receivers : Receivers}
    (h : evacuation listing id = .ok (node, receivers)) : node.slots ≠ [] := by
  obtain ⟨-, -, first, last, hfirst, -, -⟩ := of_evacuation h
  intro hnil
  simp [Node.firstSlot?, hnil] at hfirst

/-- The plan that empties a master moves all its slots into the receiver that the word picks. -/
theorem of_empty {plan : Plan} (h : empty listing id word = .ok (.ok plan)) :
    ∃ node receivers count, evacuation listing id = .ok (node, receivers) ∧
      node.slotCount = .ok count ∧ plan = ⟨(receivers.pick word).id, .node id, count⟩ := by
  unfold empty at h
  cases hevacuation : evacuation listing id with
  | error refusal => simp [hevacuation] at h
  | ok found =>
      obtain ⟨node, receivers⟩ := found
      rw [hevacuation] at h
      obtain ⟨count, hcount, hplan⟩ := bind_eq_ok_iff.1 h
      rw [pure_eq_ok_iff, Except.ok.injEq] at hplan
      exact ⟨node, receivers, count, rfl, hcount, hplan.symm⟩

/-- A merge pairs a listed node that is no replica with another listed node. -/
theorem of_mergePair {targetNode sourceNode : Node}
    (h : mergePair listing target source = .ok (targetNode, sourceNode)) :
    target ≠ source ∧ listing.find? target = some targetNode ∧
      listing.find? source = some sourceNode := by
  unfold mergePair at h
  by_cases hsame : target = source
  · simp [hsame, bind_eq_ok_iff] at h
  · cases htarget : listing.find? target with
    | none => simp [hsame, htarget] at h
    | some foundTarget =>
        cases hsource : listing.find? source with
        | none => simp [hsame, htarget, hsource] at h
        | some foundSource =>
            cases hrole : foundTarget.isReplica with
            | true => simp [hsame, htarget, hsource, hrole, map_eq_ok_iff] at h
            | false =>
                have heq : foundTarget = targetNode ∧ foundSource = sourceNode := by
                  simpa [hsame, htarget, hsource, hrole] using h
                obtain ⟨rfl, rfl⟩ := heq
                exact ⟨hsame, rfl, rfl⟩

/-- The plan of a merge moves all slots of the source into the target. -/
theorem of_merge {plan : Plan} (h : merge listing target source = .ok (.ok plan)) :
    ∃ targetNode sourceNode count,
      mergePair listing target source = .ok (targetNode, sourceNode) ∧
      sourceNode.slotCount = .ok count ∧ plan = ⟨targetNode.id, .node sourceNode.id, count⟩ := by
  unfold merge at h
  cases hpair : mergePair listing target source with
  | error refusal => simp [hpair] at h
  | ok pair =>
      obtain ⟨targetNode, sourceNode⟩ := pair
      rw [hpair] at h
      obtain ⟨count, hcount, hplan⟩ := bind_eq_ok_iff.1 h
      by_cases hzero : count = 0
      · simp [hzero] at hplan
      · rw [if_neg hzero, pure_eq_ok_iff, Except.ok.injEq] at hplan
        exact ⟨targetNode, sourceNode, count, rfl, hcount, hplan.symm⟩

/-- The target of a merge is no replica. -/
theorem isReplica_of_mergePair {targetNode sourceNode : Node}
    (h : mergePair listing target source = .ok (targetNode, sourceNode)) :
    targetNode.isReplica = false := by
  obtain ⟨hdifferent, htarget, hsource⟩ := of_mergePair h
  cases hrole : targetNode.isReplica with
  | false => rfl
  | true => simp [mergePair, hdifferent, htarget, hsource, hrole, map_eq_ok_iff] at h

/-- The plan of a merge does not move nothing. -/
theorem count_ne_zero_of_merge {plan : Plan} (h : merge listing target source = .ok (.ok plan)) :
    plan.count ≠ 0 := by
  obtain ⟨targetNode, sourceNode, count, hpair, hcount, rfl⟩ := of_merge h
  rintro rfl
  simp only [merge, hpair, hcount] at h
  cases h

/-- A plan of a spread gives a share that is not empty to a slotless master. -/
theorem of_spread {plans : List Plan} {plan : Plan} (h : spread listing = .ok plans)
    (hplan : plan ∈ plans) :
    ∃ share, Share.perNode listing.size = .ok share ∧ share ≠ 0 ∧
      ∃ node ∈ listing.slotlessMasters, plan = ⟨node.id, .all, share⟩ := by
  obtain ⟨share, hshare, hplans⟩ := bind_eq_ok_iff.1 h
  by_cases hzero : share = 0
  · rw [if_pos hzero, pure_eq_ok_iff] at hplans
    exact absurd hplan (hplans ▸ List.not_mem_nil)
  · rw [if_neg hzero, pure_eq_ok_iff] at hplans
    obtain ⟨node, hnode, heq⟩ := List.mem_map.1 (hplans ▸ hplan)
    exact ⟨share, hshare, hzero, node, hnode, heq.symm⟩

/-- The arithmetic of a spread fails with that of the share. -/
theorem spread_eq_error_iff {fault : Fault} :
    spread listing = .error fault ↔ Share.perNode listing.size = .error fault := by
  rw [spread, bind_eq_error_iff, or_iff_left]
  rintro ⟨share, -, hplans⟩
  split at hplans <;> exact pure_ne_error hplans

/-- The arithmetic of emptying a master fails with its slot count. -/
theorem empty_eq_error_iff {fault : Fault} :
    empty listing id word = .error fault ↔
      ∃ node, (∃ receivers, evacuation listing id = .ok (node, receivers)) ∧
        node.slotCount = .error fault := by
  rw [empty]
  cases hfound : evacuation listing id with
  | error refusal => simp
  | ok found =>
      obtain ⟨node, receivers⟩ := found
      rw [bind_eq_error_iff, or_iff_left (by simp)]
      simp

/-- The arithmetic of a merge fails with the slot count of its source. -/
theorem merge_eq_error_iff {fault : Fault} :
    merge listing target source = .error fault ↔
      ∃ node, (∃ receiver, mergePair listing target source = .ok (receiver, node)) ∧
        node.slotCount = .error fault := by
  rw [merge]
  cases hpair : mergePair listing target source with
  | error refusal => simp
  | ok pair =>
      obtain ⟨receiver, node⟩ := pair
      rw [bind_eq_error_iff, or_iff_left]
      · simp
      · rintro ⟨count, -, hplan⟩
        split at hplan <;> exact pure_ne_error hplan

end Planning

end ClusterSteward
