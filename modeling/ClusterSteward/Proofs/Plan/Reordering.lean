import ClusterSteward.Proofs.Plan.Ownership

/-!
# Planning on reordered listings

Planning looks for the first node with an id and for the last one beside a range, but in an
unambiguous listing there is at most one of each, so that the order of the nodes does not matter.
Main statement: `Planning.plannedAlike_of_perm`.
-/

namespace ClusterSteward

variable {left right : Listing} {id excluded target source : String} {node : Node}
  {first last : Slot} {word : UInt64}

namespace Listing

/-- Reordering a listing does not touch its ranges. -/
theorem Ordered.perm (h : left.Ordered) (hperm : left.nodes.Perm right.nodes) : right.Ordered :=
  fun node hnode => h node (hperm.mem_iff.2 hnode)

/-- Reordered listings have the same masters beside a node. -/
theorem otherMaster_perm (hperm : left.nodes.Perm right.nodes) :
    left.OtherMaster id node ↔ right.OtherMaster id node :=
  ⟨fun h => ⟨hperm.mem_iff.1 h.mem, h.isMaster, h.id_ne⟩,
    fun h => ⟨hperm.mem_iff.2 h.mem, h.isMaster, h.id_ne⟩⟩

/-- Reordered listings find the same node by an id. -/
theorem Unambiguous.find?_perm (h : left.Unambiguous) (hperm : left.nodes.Perm right.nodes) :
    left.find? id = right.find? id := by
  refine Option.ext fun node => ?_
  rw [h.find?_eq_some_iff, (h.perm hperm).find?_eq_some_iff, hperm.mem_iff]

end Listing

section

variable (h : left.Unambiguous) (hordered : left.Ordered) (hperm : left.nodes.Perm right.nodes)

include h hordered hperm

/-- Reordered listings have the same borders of a range. -/
theorem Borders.find_perm : find left excluded first last = find right excluded first last := by
  have hright := h.perm hperm
  have hrightOrdered := hordered.perm hperm
  have hbelow : (find left excluded first last).below = (find right excluded first last).below := by
    refine Option.ext fun node => ?_
    rw [below_eq_some_iff h hordered, below_eq_some_iff hright hrightOrdered,
      Listing.otherMaster_perm hperm]
  have habove : (find left excluded first last).above = (find right excluded first last).above := by
    refine Option.ext fun node => ?_
    rw [above_eq_some_iff h hordered, above_eq_some_iff hright hrightOrdered,
      Listing.otherMaster_perm hperm]
  calc find left excluded first last
      = ⟨(find left excluded first last).below, (find left excluded first last).above⟩ := rfl
    _ = find right excluded first last := by rw [hbelow, habove]

namespace Planning

/-- Reordered listings allow the same masters to be emptied, into the same receivers. -/
theorem evacuation_perm : evacuation left id = evacuation right id := by
  simp only [evacuation, h.find?_perm hperm, Borders.find_perm h hordered hperm]

omit hordered in
/-- Reordered listings allow the same merges. -/
theorem mergePair_perm : mergePair left target source = mergePair right target source := by
  simp only [mergePair, h.find?_perm hperm]

end Planning

end

namespace Planning

/-- The plan that gives a node a share of the slots, if it is a slotless master. -/
def sharePlan? (share : Nat) (node : Node) : Option Plan :=
  if share ≠ 0 ∧ node.isSlotlessMaster = true then some ⟨node.id, .all, share⟩ else none

/-- Each slotless master gets a plan of its own, and the share depends on the number of nodes. -/
theorem spread_eq (listing : Listing) :
    spread listing =
      (Share.perNode listing.size).map fun share => listing.nodes.filterMap (sharePlan? share) := by
  rw [spread]
  cases Share.perNode listing.size with
  | error fault => rfl
  | ok share =>
      show (if share = 0 then .ok [] else .ok _) = Except.ok _
      split
      next hzero =>
        have hnone : sharePlan? share = fun _ => none := by
          funext node
          simp [sharePlan?, hzero]
        simp only [hnone, List.filterMap_none]
      next hshare =>
        have hplan : sharePlan? share = fun node : Node =>
            if node.isSlotlessMaster then some ⟨node.id, .all, share⟩ else none := by
          funext node
          simp [sharePlan?, hshare]
        simp only [hplan, Listing.slotlessMasters, ← List.filterMap_eq_map, List.filterMap_filter]
        rfl

/-- Planning comes to the same on both listings. -/
structure PlannedAlike (left right : Listing) : Prop where
  /-- Every range has the same borders, whichever node is excluded. -/
  find_eq : ∀ excluded first last,
    Borders.find left excluded first last = Borders.find right excluded first last
  /-- Emptying a master gives the same plan, or the same refusal. -/
  empty_eq : ∀ id word, empty left id word = empty right id word
  /-- Emptying a master takes the same number of random words. -/
  draws_eq : ∀ id, draws left id = draws right id
  /-- A merge gives the same plan, or the same refusal. -/
  merge_eq : ∀ target source, merge left target source = merge right target source
  /-- A node that gets a share gets the same one, at its place in each listing. -/
  spread_eq : ∃ shared : Counted (Node → Option Plan), ∀ listing ∈ [left, right],
    spread listing = shared.map listing.nodes.filterMap
  /-- The shares are the same up to their order. -/
  spread_perm : ∀ leftPlans rightPlans, spread left = .ok leftPlans →
    spread right = .ok rightPlans → leftPlans.Perm rightPlans

/-- Planning comes to the same on reordered listings whose ranges are ordered. -/
theorem plannedAlike_of_ordered (h : left.Unambiguous) (hordered : left.Ordered)
    (hperm : left.nodes.Perm right.nodes) : PlannedAlike left right := by
  have hsize : left.size = right.size := hperm.length_eq
  constructor
  case find_eq => exact fun _ _ _ => Borders.find_perm h hordered hperm
  case empty_eq =>
    intro id word
    rw [empty, empty, evacuation_perm h hordered hperm]
  case draws_eq =>
    intro id
    rw [draws, draws, evacuation_perm h hordered hperm]
  case merge_eq =>
    intro target source
    rw [merge, merge, mergePair_perm h hperm]
  case spread_eq =>
    refine ⟨(Share.perNode left.size).map sharePlan?, ?_⟩
    have hspread : ∀ listing : Listing, listing.size = left.size → spread listing =
        ((Share.perNode left.size).map sharePlan?).map listing.nodes.filterMap := by
      intro listing hlisting
      rw [Planning.spread_eq, hlisting]
      cases Share.perNode left.size <;> rfl
    intro listing hlisting
    rw [List.mem_pair] at hlisting
    rcases hlisting with rfl | rfl
    · exact hspread listing rfl
    · exact hspread listing hsize.symm
  case spread_perm =>
    intro leftPlans rightPlans hleft hright
    rw [Planning.spread_eq] at hleft hright
    rw [← hsize] at hright
    cases hshare : Share.perNode left.size with
    | error fault => simp [hshare, Except.map] at hleft
    | ok share =>
        rw [hshare] at hleft hright
        rw [← Except.ok.inj hleft, ← Except.ok.inj hright]
        exact hperm.filterMap _

/-- Planning comes to the same on listings that were read from two texts and have the same nodes, in
whichever order. -/
theorem plannedAlike_of_perm (left right : String) (h : (Listing.parse left).Unambiguous)
    (hperm : (Listing.parse left).nodes.Perm (Listing.parse right).nodes) :
    PlannedAlike (Listing.parse left) (Listing.parse right) :=
  plannedAlike_of_ordered h (Listing.ordered_parse left) hperm

/-- Planning comes to the same when a fragmented master, its neighbor, a slotless master and a
replica are listed the other way round. -/
theorem plannedAlike_of_perm_reversed :
    let left := "a 10.0.0.1:7000@17000 master - 0 0 1 connected 5-7 9
b 10.0.0.2:7000@17000 master - 0 0 2 connected 0-4 8
c 10.0.0.3:7000@17000 master - 0 0 3 connected
d 10.0.0.4:7000@17000 slave a 0 0 1 connected"
    let right := "d 10.0.0.4:7000@17000 slave a 0 0 1 connected
c 10.0.0.3:7000@17000 master - 0 0 3 connected
b 10.0.0.2:7000@17000 master - 0 0 2 connected 0-4 8
a 10.0.0.1:7000@17000 master - 0 0 1 connected 5-7 9"
    (Listing.parse left).Unambiguous ∧
      (Listing.parse left).nodes.Perm (Listing.parse right).nodes ∧
      PlannedAlike (Listing.parse left) (Listing.parse right) := by
  intro left right
  let a : Node :=
    { id := "a", host := "10.0.0.1", port := 7000, busPort := 17000,
      flags := Flags.parse "master", linkState := "connected", slots := [⟨5, 7⟩, ⟨9, 9⟩] }
  let b : Node :=
    { id := "b", host := "10.0.0.2", port := 7000, busPort := 17000,
      flags := Flags.parse "master", linkState := "connected", slots := [⟨0, 4⟩, ⟨8, 8⟩] }
  let c : Node :=
    { id := "c", host := "10.0.0.3", port := 7000, busPort := 17000,
      flags := Flags.parse "master", linkState := "connected" }
  let d : Node :=
    { id := "d", host := "10.0.0.4", port := 7000, busPort := 17000,
      flags := Flags.parse "slave", masterId := some "a", linkState := "connected" }
  have hleft : Listing.parse left = ⟨[a, b, c, d]⟩ := by decide +kernel
  have hright : Listing.parse right = ⟨[d, c, b, a]⟩ := by decide +kernel
  have hunambiguous : (Listing.parse left).Unambiguous := by
    rw [hleft]
    exact ⟨by decide, List.Pairwise.imp SlotRange.apart_of_lt (by decide)⟩
  have hperm : (Listing.parse left).nodes.Perm (Listing.parse right).nodes := by
    rw [hleft, hright]
    exact List.reverse_perm [d, c, b, a]
  exact ⟨hunambiguous, hperm, plannedAlike_of_perm left right hunambiguous hperm⟩

end Planning

end ClusterSteward
