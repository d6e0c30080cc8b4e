import ClusterSteward.Proofs.Cluster.Listing
import ClusterSteward.Proofs.Plan.Grounding

/-!
# How many slots plans move

A share is at least one slot and at most the keyspace. The plans that empty a node count its slots
by the widths of its ranges. Reading keeps ranges that overlap and numbers beyond the keyspace, so
that the widths may add up to more than the keyspace, and to more than a count word holds. Main
statement: `measured`.
-/

namespace ClusterSteward

/-! ## Counts of listed slots -/

namespace Node

variable {node : Node}

/-- The widths of the node's ranges together. A slot that two ranges list counts twice. -/
def listedWidth (node : Node) : Nat :=
  (node.slots.map SlotRange.width).sum

/-- The ranges of the node list slots of the keyspace only, and each of them once. -/
structure Tidy (node : Node) : Prop where
  apart : node.slots.Pairwise SlotRange.Apart
  lt_keyspace : ∀ slot, node.owns slot = true → slot.toNat < keyspace

/-- The slot count of a node is the width of its ranges, while that fits a count word. -/
theorem slotCount_eq (node : Node) :
    node.slotCount =
      if node.listedWidth < countLimit then .ok node.listedWidth else .error .additionOverflow :=
  sumCounts_eq _

/-- A slot count that is defined is the width of the ranges. -/
theorem eq_listedWidth_of_slotCount {count : Nat} (h : node.slotCount = .ok count) :
    count = node.listedWidth := by
  rw [slotCount_eq] at h
  split at h
  next => exact (Except.ok.inj h).symm
  next => cases h

/-- A slot count is undefined when the ranges are wider than a count word holds. -/
theorem slotCount_eq_error_iff {fault : Fault} :
    node.slotCount = .error fault ↔ fault = .additionOverflow ∧ countLimit ≤ node.listedWidth := by
  rw [slotCount_eq]
  split
  next hlt => simp [Nat.not_le.2 hlt]
  next hle => simp [Nat.not_lt.1 hle, eq_comm]

/-- Ranges are not empty. -/
theorem listedWidth_pos (h : node.slots ≠ []) : 0 < node.listedWidth := by
  obtain ⟨range, ranges, hranges⟩ := List.exists_cons_of_ne_nil h
  rw [listedWidth, hranges, List.map_cons, List.sum_cons, SlotRange.width]
  omega

/-- A tidy node does not list more slots than the keyspace has. -/
theorem Tidy.listedWidth_le (h : node.Tidy) (hordered : node.Ordered) :
    node.listedWidth ≤ keyspace := by
  have hwidth : (SlotRange.covered node.slots).card = node.listedWidth :=
    eq_listedWidth_of_slotCount (SlotRange.totalWidth_of_apart hordered h.apart)
  have hrange : (Finset.range keyspace).card = keyspace := Finset.card_range _
  rw [← hwidth, ← hrange]
  refine Finset.card_le_card_of_injOn UInt16.toNat (fun slot hslot => ?_)
    fun _ _ _ _ heq => UInt16.toNat_inj.1 heq
  have howned := Node.owns_iff.2 (SlotRange.mem_covered.1 (Finset.mem_coe.1 hslot))
  exact Finset.mem_coe.2 (Finset.mem_range.2 (h.lt_keyspace slot howned))

end Node

/-! ## A listing in excess -/

namespace Planning

/-- The lines of a master `a` without slots, and of a master `b` that lists the whole keyspace a
number of times. -/
def repeatedLines (count : Nat) : List NodeLine :=
  let receiver : Member := ⟨"a", 7000, none, .empty⟩
  let giver : Member := ⟨"b", 7001, none, .empty⟩
  [receiver.written, { giver.written with items := List.replicate count (.span 0 16383) }]

/-- The text of these lines. -/
def repeated (count : Nat) : String :=
  String.ofList (['\n'].intercalate ((repeatedLines count).map NodeLine.chars))

/-- The lines are well formed, however often the keyspace is listed. -/
theorem wellFormed_repeatedLines {count : Nat} {line : NodeLine} (h : line ∈ repeatedLines count) :
    line.WellFormed ∧ line.suffix = none := by
  have hreceiver : Member.Named ⟨"a", 7000, none, .empty⟩ := by decide
  have hgiver : Member.Named ⟨"b", 7001, none, .empty⟩ := by decide
  rcases List.mem_pair.1 h with rfl | rfl
  · exact ⟨Member.wellFormed_written hreceiver, rfl⟩
  · refine ⟨{ Member.wellFormed_written hgiver with items_wellFormed := ?_ }, rfl⟩
    intro item hitem
    obtain rfl := List.eq_of_mem_replicate hitem
    trivial

/-- Merging `b` into `a` moves the keyspace as often as `b` lists it, until that overflows. -/
theorem merge_repeated (count : Nat) :
    merge (.parse (repeated count)) "a" "b" =
      if count = 0 then .ok (.error (.noSlots "b"))
      else if count * keyspace < countLimit then .ok (.ok ⟨"a", .node "b", count * keyspace⟩)
      else .error .additionOverflow := by
  have hparse : Listing.parse (repeated count) = ⟨(repeatedLines count).map NodeLine.node⟩ := by
    rw [Listing.parse, repeated, String.toList_ofList]
    exact Listing.ofChars_lines (fun line h => (wellFormed_repeatedLines h).1) fun line h =>
      Node.newline_not_mem_line (wellFormed_repeatedLines h).1 (wellFormed_repeatedLines h).2
  obtain ⟨receiver, giver, hlines, hreceiver, hgiver⟩ : ∃ receiver giver,
      repeatedLines count = [receiver, giver] ∧
        (receiver.node.id = "a" ∧ receiver.node.isReplica = false) ∧
        giver.node.id = "b" ∧ giver.node.slots = List.replicate count ⟨0, 16383⟩ := by
    refine ⟨_, _, rfl, by decide, rfl, ?_⟩
    have hrange : (SlotItem.span 0 16383).range? = some ⟨0, 16383⟩ := by decide
    simp [NodeLine.node, hrange]
  have hwidth : giver.node.listedWidth = count * keyspace := by
    have hkeyspace : SlotRange.width ⟨0, 16383⟩ = keyspace := by decide
    simp [Node.listedWidth, hgiver.2, hkeyspace]
  have hpair : mergePair (.parse (repeated count)) "a" "b" = .ok (receiver.node, giver.node) := by
    rw [hparse, hlines]
    simp [mergePair, Listing.find?, hreceiver, hgiver]
  have hzero : count * keyspace = 0 ↔ count = 0 := by
    rw [keyspace]
    omega
  rw [merge, hpair]
  show (giver.node.slotCount >>= _) = _
  rw [Node.slotCount_eq, hwidth]
  by_cases hlt : count * keyspace < countLimit
  · rw [if_pos hlt, if_pos hlt, ← hreceiver.1, ← hgiver.1]
    show (if count * keyspace = 0 then _ else _) = _
    simp only [hzero]
    rfl
  · have hpos : count ≠ 0 := by
      rintro rfl
      exact hlt (by decide)
    rw [if_neg hlt, if_neg hpos, if_neg hlt]
    rfl

end Planning

/-! ## Goals -/

namespace Migration.Goal

variable {listing : Listing} {goal : Goal} {plan : Plan}

/-- The goal is to empty the node, and planning gets as far as counting its slots. -/
def Empties (listing : Listing) (node : Node) : Goal → Prop
  | .spread => False
  | .empty id _ => ∃ receivers, Planning.evacuation listing id = .ok (node, receivers)
  | .merge target source =>
      ∃ receiver, Planning.mergePair listing target source = .ok (receiver, node)

/-- A node to be emptied is listed. -/
theorem Empties.mem {node : Node} (h : goal.Empties listing node) : node ∈ listing.nodes := by
  cases goal with
  | spread => exact h.elim
  | empty id word =>
      obtain ⟨receivers, hfound⟩ := h
      exact (Listing.mem_of_find?_eq_some (Planning.of_evacuation hfound).1).1
  | merge target source =>
      obtain ⟨receiver, hpair⟩ := h
      exact (Listing.mem_of_find?_eq_some (Planning.of_mergePair hpair).2.2).1

/-- Nothing that planning for the goal counts is too much for the keyspace: the nodes fit a count
word, and a node to be emptied lists its slots properly. -/
structure Tidy (listing : Listing) (goal : Goal) : Prop where
  size_lt : listing.size < countLimit
  empties : ∀ node, goal.Empties listing node → node.Tidy

/-- How many slots the plans for a goal move, and when planning ends in a fault instead. -/
structure Measured (listing : Listing) (goal : Goal) : Prop where
  /-- A share is undefined when the number of nodes is narrowed to zero, and the slots of an emptied
  node are not counted when its ranges are wider than a count word holds. Nothing else fails. -/
  faults_iff : ∀ fault, goal.Faults listing fault ↔
    goal = .spread ∧ fault = .divisionByZero ∧ listing.size ≠ 0 ∧ countLimit ∣ listing.size ∨
      fault = .additionOverflow ∧
        ∃ node, goal.Empties listing node ∧ countLimit ≤ node.listedWidth
  /-- Every plan moves a slot at least. -/
  count_pos : ∀ plans, goal.Planned listing plans → ∀ plan ∈ plans, 1 ≤ plan.count
  /-- A plan moves a share of the keyspace or as many slots as the ranges of a node are wide. -/
  count_cases : ∀ plans, goal.Planned listing plans → ∀ plan ∈ plans,
    plan.source = .all ∧ plan.count ≤ keyspace ∨
      ∃ node, goal.Empties listing node ∧ plan.source = .node node.id ∧
        plan.count = node.listedWidth
  /-- Without excess in the listing, planning does not fail and no plan exceeds the keyspace. -/
  within : goal.Tidy listing → (∀ fault, ¬ goal.Faults listing fault) ∧
    ∀ plans, goal.Planned listing plans → ∀ plan ∈ plans, plan.count ≤ keyspace

/-- Planning for a goal faults when the share is undefined or the slots of the node to be emptied
cannot be counted. -/
theorem faults_iff {fault : Fault} :
    goal.Faults listing fault ↔
      goal = .spread ∧ Share.perNode listing.size = .error fault ∨
        ∃ node, goal.Empties listing node ∧ node.slotCount = .error fault := by
  cases goal with
  | spread => simp [Faults, Empties, Planning.spread_eq_error_iff]
  | empty id word => simp [Faults, Empties, Planning.empty_eq_error_iff]
  | merge target source => simp [Faults, Empties, Planning.merge_eq_error_iff]

/-- A plan moves a share of at least one slot, or the slots of a node that has some. -/
theorem Origin.amount (h : Origin listing goal plan) :
    plan.source = .all ∧ Share.perNode listing.size = .ok plan.count ∧ plan.count ≠ 0 ∨
      ∃ node, goal.Empties listing node ∧ plan.source = .node node.id ∧
        plan.count = node.listedWidth ∧ node.slots ≠ [] := by
  cases h with
  | shared hnode hshare hpos => exact .inl ⟨rfl, hshare, hpos⟩
  | @emptied id word node receivers count hfound hcount =>
      have hid := (Listing.mem_of_find?_eq_some (Planning.of_evacuation hfound).1).2
      exact .inr ⟨node, ⟨receivers, hfound⟩, congrArg Source.node hid.symm,
        Node.eq_listedWidth_of_slotCount hcount, Planning.slots_ne_nil_of_evacuation hfound⟩
  | @merged target source receiver node count hpair hcount hpos =>
      have hwidth := Node.eq_listedWidth_of_slotCount hcount
      refine .inr ⟨node, ⟨receiver, hpair⟩, rfl, hwidth, fun hnil => hpos ?_⟩
      rw [hwidth, Node.listedWidth, hnil]
      rfl

/-- Planning on a listing with ordered ranges is measured. -/
theorem measured_of_ordered (goal : Goal) (hordered : listing.Ordered) :
    Measured listing goal := by
  have hfaults : ∀ fault, goal.Faults listing fault ↔
      goal = .spread ∧ fault = .divisionByZero ∧ listing.size ≠ 0 ∧ countLimit ∣ listing.size ∨
        fault = .additionOverflow ∧
          ∃ node, goal.Empties listing node ∧ countLimit ≤ node.listedWidth := by
    intro fault
    simp only [faults_iff, Share.perNode_eq_error_iff, Node.slotCount_eq_error_iff]
    exact or_congr_right ⟨fun ⟨node, h, hfault, hle⟩ => ⟨hfault, node, h, hle⟩,
      fun ⟨hfault, node, h, hle⟩ => ⟨node, h, hfault, hle⟩⟩
  have hcases : ∀ plans, goal.Planned listing plans → ∀ plan ∈ plans,
      plan.source = .all ∧ plan.count ≤ keyspace ∨
        ∃ node, goal.Empties listing node ∧ plan.source = .node node.id ∧
          plan.count = node.listedWidth := by
    intro plans hplans plan hplan
    rcases (hplans.origin hplan).amount with ⟨hall, hshare, -⟩ | ⟨node, h, hsource, hcount, -⟩
    · exact .inl ⟨hall, Share.le_keyspace_of_perNode hshare⟩
    · exact .inr ⟨node, h, hsource, hcount⟩
  constructor
  case faults_iff => exact hfaults
  case count_cases => exact hcases
  case count_pos =>
    intro plans hplans plan hplan
    rcases (hplans.origin hplan).amount with ⟨-, -, hpos⟩ | ⟨node, -, -, hcount, hslots⟩
    · exact Nat.one_le_iff_ne_zero.2 hpos
    · exact hcount ▸ Node.listedWidth_pos hslots
  case within =>
    intro htidy
    have hwidth : ∀ node, goal.Empties listing node → node.listedWidth ≤ keyspace :=
      fun node h => (htidy.empties node h).listedWidth_le (hordered node h.mem)
    constructor
    · intro fault hfault
      rcases (hfaults fault).1 hfault with ⟨-, -, hsize, hdvd⟩ | ⟨-, node, h, hle⟩
      · exact Nat.not_le.2 htidy.size_lt (Nat.le_of_dvd (Nat.pos_of_ne_zero hsize) hdvd)
      · exact absurd (Nat.le_trans hle (hwidth node h)) (by decide)
    · intro plans hplans plan hplan
      rcases hcases plans hplans plan hplan with ⟨-, hle⟩ | ⟨node, h, -, hcount⟩
      · exact hle
      · exact hcount ▸ hwidth node h

/-- On a listing that was read from any text, planning counts what the listing says: every plan
moves at least one slot, and only ranges that overlap or leave the keyspace, or a number of nodes
beyond the count word, make a plan exceed the keyspace or planning fail. -/
theorem measured (text : String) (goal : Goal) : Measured (.parse text) goal :=
  measured_of_ordered goal (Listing.ordered_parse text)

/-- A merge from a fragmented master is tidy, so that it is planned within the keyspace. -/
theorem measured_fragmented :
    let text := "a 10.0.0.1:7000@17000 master - 0 0 1 connected 0-4
b 10.0.0.2:7000@17000 master - 0 0 2 connected 5-7 9"
    let goal : Goal := .merge "a" "b"
    let plan : Plan := ⟨"a", .node "b", 4⟩
    Tidy (.parse text) goal ∧ (∀ fault, ¬ goal.Faults (.parse text) fault) ∧
      goal.Planned (.parse text) [plan] ∧ 1 ≤ plan.count ∧ plan.count ≤ keyspace := by
  intro text goal plan
  have htidy : Tidy (.parse text) goal := by
    refine ⟨by decide +kernel, ?_⟩
    rintro node ⟨receiver, hpair⟩
    have hslots : (Planning.mergePair (.parse text) "a" "b").map (·.2.slots) =
        .ok [⟨5, 7⟩, ⟨9, 9⟩] := by
      decide +kernel
    rw [hpair] at hslots
    have hnode : node.slots = [⟨5, 7⟩, ⟨9, 9⟩] := Except.ok.inj hslots
    have hlast : ∀ range ∈ node.slots, range.last.toNat < keyspace := by
      rw [hnode]
      decide
    refine ⟨hnode ▸ List.Pairwise.imp SlotRange.apart_of_lt (by decide), fun slot hslot => ?_⟩
    obtain ⟨range, hrange, hin⟩ := Node.owns_iff.1 hslot
    exact Nat.lt_of_le_of_lt (SlotRange.mem_iff.1 hin).2 (hlast range hrange)
  have hplanned : goal.Planned (.parse text) [plan] := ⟨plan, rfl, by decide +kernel⟩
  have hmeasured := measured text goal
  obtain ⟨hfaults, hle⟩ := hmeasured.within htidy
  exact ⟨htidy, hfaults, hplanned, hmeasured.count_pos _ hplanned plan List.mem_cons_self,
    hle _ hplanned plan List.mem_cons_self⟩

/-- A merge from a master that lists the keyspace twice is planned to move more slots than there
are, and listing it more often makes planning fail. -/
theorem not_measured_repeated :
    Planning.repeated 2 = "a 127.0.0.1:7000@17000 master - 0 0 1 connected
b 127.0.0.1:7001@17001 master - 0 0 1 connected 0-16383 0-16383" ∧
      (Goal.merge "a" "b").Planned (.parse (Planning.repeated 2)) [⟨"a", .node "b", 32768⟩] ∧
      keyspace < 32768 ∧
      (Goal.merge "a" "b").Faults (.parse (Planning.repeated 262144)) .additionOverflow := by
  refine ⟨by decide +kernel, ⟨_, rfl, ?_⟩, by decide, ?_⟩
  · rw [Planning.merge_repeated]
    decide
  · rw [Faults, Planning.merge_repeated]
    decide

end Migration.Goal

end ClusterSteward
