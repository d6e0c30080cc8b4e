import Mathlib
import ClusterSteward.Proofs.Slot.Counting

/-!
# Slots covered by ranges

Which slots lie in some ranges, and how many. The runs of a set hold its members and cannot be
extended. The widths of ranges add up to the slots, each counted once for every range that it lies
in, and so to the number of covered slots exactly when no two ranges share one. Main statements:
`areRuns_runs`, `sum_width_eq`, `sum_width_eq_card_iff` and `totalWidth_of_apart`.
-/

namespace ClusterSteward.SlotRange

/-- The bounds of the range are in order. -/
def Ordered (range : SlotRange) : Prop :=
  range.first ≤ range.last

/-- No slot lies in both ranges. -/
def Apart (left right : SlotRange) : Prop :=
  ∀ slot, slot ∈ left → slot ∉ right

/-- The slots that lie in one of the ranges. -/
def covered (ranges : List SlotRange) : Finset Slot :=
  {slot | ∃ range ∈ ranges, slot ∈ range}

variable {ranges : List SlotRange} {range left right : SlotRange} {slot : Slot}

/-- A slot is covered when it lies in one of the ranges. -/
@[simp] theorem mem_covered : slot ∈ covered ranges ↔ ∃ range ∈ ranges, slot ∈ range := by
  simp [covered]

/-- It does not matter which of two ranges is apart from the other. -/
theorem Apart.symm (h : left.Apart right) : right.Apart left :=
  fun slot hright hleft => h slot hleft hright

/-- Ranges are apart when one of them ends before the other begins. -/
theorem apart_of_lt (h : left.last < right.first ∨ right.last < left.first) :
    left.Apart right := by
  intro slot hleft hright
  rw [mem_iff] at hleft hright
  simp only [UInt16.lt_iff_toNat_lt] at h
  omega

/-- Both bounds of an ordered range lie in it. -/
theorem Ordered.ends_mem (h : range.Ordered) : range.first ∈ range ∧ range.last ∈ range :=
  ⟨⟨UInt16.le_refl _, h⟩, ⟨h, UInt16.le_refl _⟩⟩

/-- A range between two slots is ordered. -/
theorem ordered_between (left right : Slot) : (between left right).Ordered := by
  rw [between]
  split
  next hle => exact hle
  next hle => exact (UInt16.le_total left right).resolve_left hle

/-- The range of the whole keyspace holds the slots below its size. -/
theorem mem_keyspace_iff {slot : Slot} :
    slot ∈ (⟨0, 16383⟩ : SlotRange) ↔ slot.toNat < keyspace := by
  rw [mem_iff]
  exact (and_iff_right (Nat.zero_le _)).trans Nat.lt_succ_iff.symm

/-- The runs of a set are apart from each other. -/
theorem pairwise_apart_runs (set : SlotSet) : set.runs.Pairwise Apart :=
  (SlotSet.pairwise_runsOf set.ascending).imp fun h => apart_of_lt (.inl h)

/-- The ranges are the maximal runs of the set, in ascending order: together they hold its members
and nothing else, and no member touches a range from outside. -/
structure AreRuns (set : SlotSet) (ranges : List SlotRange) : Prop where
  ordered : ∀ range ∈ ranges, range.Ordered
  ascending : ranges.Pairwise fun left right ↦ left.last < right.first
  mem_iff : ∀ slot, (∃ range ∈ ranges, slot ∈ range) ↔ slot ∈ set
  maximal : ∀ range ∈ ranges, ∀ slot ∈ set,
    slot.toNat + 1 ≠ range.first.toNat ∧ slot.toNat ≠ range.last.toNat + 1

/-- The runs of a set are its maximal runs in ascending order. -/
theorem areRuns_runs (set : SlotSet) : AreRuns set set.runs := by
  refine ⟨fun range hrange => SlotSet.le_of_mem_runsOf hrange,
    SlotSet.pairwise_runsOf set.ascending, fun slot => SlotSet.mem_runs_iff, ?_⟩
  intro range hrange slot hslot
  obtain ⟨other, hother, hin⟩ := SlotSet.mem_runs_iff.2 hslot
  obtain ⟨hfirst, hlast⟩ := mem_iff.1 hin
  by_cases hsame : range = other
  · subst hsame
    omega
  · -- the member is in another run, which is a gap away on one side or the other
    have hsymm : Std.Symm fun left right : SlotRange ↦
        left.last.toNat + 1 < right.first.toNat ∨ right.last.toNat + 1 < left.first.toNat :=
      ⟨fun _ _ => Or.symm⟩
    have hgaps : set.runs.Pairwise fun left right : SlotRange ↦
        left.last.toNat + 1 < right.first.toNat ∨ right.last.toNat + 1 < left.first.toNat :=
      (SlotSet.pairwise_gap_runsOf set.ascending).imp fun hgap => .inl hgap
    have hordered : range.first.toNat ≤ range.last.toNat := SlotSet.le_of_mem_runsOf hrange
    rcases hgaps.forall hrange hother hsame with hgap | hgap <;> omega

/-! ## Counting -/

/-- An ordered range is as wide as it has slots. -/
theorem Ordered.card_eq (h : range.Ordered) :
    (Finset.univ.filter fun slot : Slot ↦ slot ∈ range).card = range.width := by
  have hwidth : range.width = (Finset.Icc range.first.toNat range.last.toNat).card := by
    have hle : range.first.toNat ≤ range.last.toNat := h
    rw [Nat.card_Icc, width]
    omega
  rw [hwidth]
  refine Finset.card_nbij UInt16.toNat ?_ ?_ ?_
  · intro slot hslot
    simpa [mem_iff] using hslot
  · intro first _ second _ heq
    exact UInt16.toNat_inj.1 heq
  · intro number hnumber
    have hbounds := Finset.mem_Icc.1 (Finset.mem_coe.1 hnumber)
    have hlt : number < UInt16.size := Nat.lt_of_le_of_lt hbounds.2 range.last.toNat_lt_size
    have hnat : (UInt16.ofNat number).toNat = number := UInt16.toNat_ofNat_of_lt' hlt
    exact ⟨UInt16.ofNat number, by simpa [mem_iff, hnat] using hbounds, hnat⟩

/-- The widths of ordered ranges add up to the slots, each counted once for every range that it lies
in. -/
theorem sum_width_eq (h : ∀ range ∈ ranges, range.Ordered) :
    (ranges.map width).sum = ∑ slot : Slot, ranges.countP (slot ∈ ·) := by
  induction ranges with
  | nil => simp
  | cons range ranges ih =>
      have hrange := (h range List.mem_cons_self).card_eq
      have hranges := ih fun other hother => h other (List.mem_cons_of_mem _ hother)
      rw [List.map_cons, List.sum_cons, hranges, ← hrange, Finset.card_filter,
        ← Finset.sum_add_distrib]
      refine Finset.sum_congr rfl fun slot _ => ?_
      rw [List.countP_cons, Nat.add_comm]
      simp

/-- Of ranges that are apart, a slot lies in one at most. -/
theorem countP_of_apart (h : ranges.Pairwise Apart) (slot : Slot) :
    ranges.countP (slot ∈ ·) = if slot ∈ covered ranges then 1 else 0 := by
  induction ranges with
  | nil => simp
  | cons range ranges ih =>
      obtain ⟨hrange, hranges⟩ := List.pairwise_cons.1 h
      rw [List.countP_cons, ih hranges]
      by_cases hslot : slot ∈ range
      · have hother : slot ∉ covered ranges := by
          rw [mem_covered]
          rintro ⟨other, hother, hin⟩
          exact hrange other hother slot hslot hin
        simp [hslot, hother]
      · simp [hslot]

/-- A covered slot lies in one of the ranges at least. -/
theorem covered_le_countP (ranges : List SlotRange) (slot : Slot) :
    (if slot ∈ covered ranges then 1 else 0) ≤ ranges.countP (slot ∈ ·) := by
  split
  next hcovered =>
    obtain ⟨range, hrange, hslot⟩ := mem_covered.1 hcovered
    exact List.countP_pos_iff.2 ⟨range, hrange, decide_eq_true hslot⟩
  next => exact Nat.zero_le _

/-- Ranges are apart when every slot lies in one of them at most. -/
theorem apart_of_countP_le (h : ∀ slot, ranges.countP (slot ∈ ·) ≤ 1) : ranges.Pairwise Apart := by
  induction ranges with
  | nil => exact .nil
  | cons range ranges ih =>
      simp only [List.countP_cons, decide_eq_true_eq] at h
      refine List.pairwise_cons.2 ⟨fun other hother slot hslot hin => ?_, ih fun slot => ?_⟩
      · have hrest : 0 < ranges.countP (slot ∈ ·) :=
          List.countP_pos_iff.2 ⟨other, hother, decide_eq_true hin⟩
        have htwice := h slot
        rw [if_pos hslot] at htwice
        omega
      · exact Nat.le_trans (Nat.le_add_right _ _) (h slot)

/-- The covered slots, counted one by one. -/
theorem card_covered (ranges : List SlotRange) :
    (covered ranges).card = ∑ slot : Slot, if slot ∈ covered ranges then 1 else 0 := by
  rw [Finset.sum_boole, Finset.filter_univ_mem]
  rfl

/-- Ordered ranges do not cover more slots than they are wide. -/
theorem card_covered_le_sum_width (h : ∀ range ∈ ranges, range.Ordered) :
    (covered ranges).card ≤ (ranges.map width).sum := by
  rw [card_covered, sum_width_eq h]
  exact Finset.sum_le_sum fun slot _ => covered_le_countP ranges slot

/-- Ordered ranges are as wide as they cover slots exactly when they are apart. -/
theorem sum_width_eq_card_iff (h : ∀ range ∈ ranges, range.Ordered) :
    (ranges.map width).sum = (covered ranges).card ↔ ranges.Pairwise Apart := by
  rw [card_covered, sum_width_eq h, eq_comm,
    Finset.sum_eq_sum_iff_of_le fun slot _ => covered_le_countP ranges slot]
  constructor
  · intro hsame
    refine apart_of_countP_le fun slot => ?_
    rw [← hsame slot (Finset.mem_univ slot)]
    split <;> decide
  · exact fun hapart slot _ => (countP_of_apart hapart slot).symm

/-- There are no more covered slots than slot numbers. -/
theorem card_covered_le (ranges : List SlotRange) : (covered ranges).card ≤ UInt16.size := by
  have hrange : (Finset.range UInt16.size).card = UInt16.size := Finset.card_range _
  rw [← hrange]
  exact Finset.card_le_card_of_injOn UInt16.toNat
    (fun slot _ => Finset.mem_coe.2 (Finset.mem_range.2 slot.toNat_lt_size))
    fun _ _ _ _ heq => UInt16.toNat_inj.1 heq

/-- The widths of ordered ranges that are apart add up to the number of slots that they cover. -/
theorem totalWidth_of_apart (hordered : ∀ range ∈ ranges, range.Ordered)
    (hapart : ranges.Pairwise Apart) : totalWidth ranges = .ok (covered ranges).card := by
  have hsum := (sum_width_eq_card_iff hordered).2 hapart
  have hlt : (covered ranges).card < countLimit :=
    Nat.lt_of_le_of_lt (card_covered_le ranges) (by decide)
  rw [totalWidth, sumCounts_of_lt (by rwa [hsum]), hsum]

end ClusterSteward.SlotRange
