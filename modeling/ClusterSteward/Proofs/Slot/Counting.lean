import Mathlib
import ClusterSteward.Slot.Set

/-!
# Counting slots

How many slots a set has after each operation, and that its runs tell all about it: the widths of
the runs add up to its size, and the first and last slots of the runs reach from its lowest to its
highest member. Main statements: `ext`, `totalWidth_runs`, `min?_first_runs` and `max?_last_runs`.
-/

namespace ClusterSteward

/-- The greater of two slots is the greater of their numbers. -/
instance instLawfulMaxSlot : Std.LawfulOrderLeftLeaningMax UInt16 :=
  .of_eq fun left right => by
    show (if left ≤ right then right else left) = if right ≤ left then left else right
    by_cases hle : left ≤ right
    · by_cases hge : right ≤ left
      · rw [if_pos hle, if_pos hge]
        exact UInt16.le_antisymm hge hle
      · rw [if_pos hle, if_neg hge]
    · rw [if_neg hle, if_pos ((UInt16.le_total left right).resolve_left hle)]

/-! ## Sums of counts -/

/-- A sum of counts that starts with some count and fits a count word is the exact sum. -/
theorem foldlM_addCounts {counts : List Nat} (start : Nat)
    (hlt : start + counts.sum < countLimit) :
    counts.foldlM addCounts start = .ok (start + counts.sum) := by
  induction counts generalizing start with
  | nil => simp [pure, Except.pure]
  | cons count counts ih =>
      rw [List.sum_cons] at hlt
      have hcount : addCounts start count = .ok (start + count) :=
        addCounts_eq_ok_iff.2 ⟨rfl, by omega⟩
      rw [List.foldlM_cons, hcount, List.sum_cons]
      show counts.foldlM addCounts (start + count) = _
      rw [ih (start + count) (by omega), Nat.add_assoc]

/-- A sum of counts that fits a count word is the exact sum. -/
theorem sumCounts_of_lt {counts : List Nat} (hlt : counts.sum < countLimit) :
    sumCounts counts = .ok counts.sum := by
  rw [sumCounts, foldlM_addCounts 0 (by omega), Nat.zero_add]

/-- A sum of counts that starts with a count and outgrows the count word overflows. -/
theorem foldlM_addCounts_of_le {counts : List Nat} {start : Nat} (hstart : start < countLimit)
    (hle : countLimit ≤ start + counts.sum) :
    counts.foldlM addCounts start = .error .additionOverflow := by
  induction counts generalizing start with
  | nil =>
      rw [List.sum_nil] at hle
      omega
  | cons count counts ih =>
      rw [List.sum_cons] at hle
      rw [List.foldlM_cons, addCounts]
      -- the overflow comes with this count or with a later one
      split
      next hlt => exact ih hlt (by omega)
      next => rfl

/-- A sum of counts is exact while it fits a count word, and overflows otherwise. -/
theorem sumCounts_eq (counts : List Nat) :
    sumCounts counts =
      if counts.sum < countLimit then .ok counts.sum else .error .additionOverflow := by
  split
  next hlt => exact sumCounts_of_lt hlt
  next hle =>
    exact foldlM_addCounts_of_le (by decide) (by omega)

namespace SlotSet

variable {set left right : SlotSet}

/-! ## Sets and their sizes -/

/-- The members of a set are listed once each. -/
theorem nodup (set : SlotSet) : set.slots.Nodup :=
  set.ascending.imp fun h => UInt16.ne_of_lt h

/-- Sets with the same members are equal. -/
theorem ext (h : ∀ slot, slot ∈ left ↔ slot ∈ right) : left = right := by
  have hperm : left.slots.Perm right.slots :=
    (List.perm_ext_iff_of_nodup left.nodup right.nodup).2 h
  have hslots : left.slots = right.slots := by
    refine hperm.eq_of_pairwise (fun a b _ _ hlt hgt => ?_) left.ascending right.ascending
    exact absurd (UInt16.lt_trans hlt hgt) (UInt16.lt_irrefl a)
  cases left
  cases right
  simpa using hslots

/-- Nothing is in the empty set. -/
@[simp] theorem not_mem_empty (slot : Slot) : slot ∉ empty :=
  List.not_mem_nil

/-- The empty set has no members. -/
@[simp] theorem size_empty : empty.size = 0 :=
  rfl

/-- A set without members is the empty set. -/
theorem size_eq_zero_iff : set.size = 0 ↔ set = empty := by
  constructor
  · intro hsize
    have hnil : set.slots = [] := List.eq_nil_of_length_eq_zero hsize
    exact ext fun slot => by
      show slot ∈ set.slots ↔ slot ∈ []
      rw [hnil]
  · rintro rfl
    rfl

/-- There are no more members than slot numbers. -/
theorem size_le (set : SlotSet) : set.size ≤ UInt16.size := by
  have hnodup : (set.slots.map UInt16.toNat).Nodup :=
    set.nodup.map fun _ _ heq => UInt16.toNat_inj.1 heq
  have hsub : set.slots.map UInt16.toNat ⊆ List.range UInt16.size := by
    intro number hnumber
    obtain ⟨slot, -, rfl⟩ := List.mem_map.1 hnumber
    exact List.mem_range.2 slot.toNat_lt_size
  simpa [size] using hnodup.length_le_of_subset hsub

/-- As many slots are listed from a slot on as there are up to the last slot number. -/
theorem length_upFrom {first count : Nat} (h : first + count ≤ UInt16.size) :
    (upFrom first count).length = count := by
  induction count generalizing first with
  | zero => rfl
  | succ count ih =>
      have hlt : first < UInt16.size := by omega
      rw [upFrom, dif_pos hlt, List.length_cons, ih (by omega)]

/-- As many of the lowest members are taken as there are. -/
@[simp] theorem size_takeLowest (count : Nat) (set : SlotSet) :
    (set.takeLowest count).size = min count set.size :=
  List.length_take

/-- Taking as many members as there are takes them all. -/
theorem takeLowest_of_le {count : Nat} (h : set.size ≤ count) : set.takeLowest count = set := by
  cases set
  simpa [takeLowest, size] using h

/-- Of the lowest members, as many are taken twice as the fewer times. -/
theorem takeLowest_takeLowest (count fewer : Nat) (set : SlotSet) :
    (set.takeLowest count).takeLowest fewer = set.takeLowest (min fewer count) := by
  cases set
  simp [takeLowest, List.take_take]

/-- Dropping as many members as there are leaves none. -/
theorem dropLowest_of_le {count : Nat} (h : set.size ≤ count) : set.dropLowest count = empty := by
  simpa [dropLowest, empty, size] using h

/-- No member is both taken and left. -/
theorem not_mem_dropLowest {count : Nat} {slot : Slot} (h : slot ∈ set.takeLowest count) :
    slot ∉ set.dropLowest count := by
  have hnodup := set.nodup
  rw [← List.take_append_drop count set.slots] at hnodup
  intro hdrop
  exact (List.nodup_append.1 hnodup).2.2 slot h slot hdrop rfl

/-- The lowest member is among those that are taken, if there are any. -/
theorem mem_takeLowest_of_lowest {count : Nat} {slot : Slot} (hslot : slot ∈ set)
    (hlowest : ∀ other ∈ set, slot ≤ other) (htaken : set.takeLowest count ≠ empty) :
    slot ∈ set.takeLowest count := by
  obtain ⟨slots, hascending⟩ := set
  cases slots with
  | nil => exact absurd hslot List.not_mem_nil
  | cons head slots =>
      obtain ⟨count, rfl⟩ : ∃ fewer, count = fewer + 1 :=
        Nat.exists_eq_succ_of_ne_zero fun hzero => htaken (hzero ▸ rfl)
      rcases List.mem_cons.1 hslot with rfl | hmem
      · exact List.mem_cons_self
      · -- the head would be lower still
        have hlt : head < slot := (List.pairwise_cons.1 hascending).1 slot hmem
        exact absurd (hlowest head List.mem_cons_self) (UInt16.not_le.2 hlt)

/-! ## Runs -/

/-- Between the runs of ascending slots there are gaps. -/
theorem pairwise_gap_runsOf {slots : List Slot} (h : slots.Pairwise (· < ·)) :
    (runsOf slots).Pairwise fun left right ↦ left.last.toNat + 1 < right.first.toNat := by
  induction slots with
  | nil => exact .nil
  | cons slot slots ih =>
      obtain ⟨hslot, hslots⟩ := List.pairwise_cons.1 h
      have hcons : runsOf (slot :: slots) = extendRuns slot (runsOf slots) := rfl
      have hfirst : ∀ run ∈ runsOf slots, slot.toNat < run.first.toNat := fun run hrun =>
        UInt16.lt_iff_toNat_lt.1 (hslot run.first (mem_runsOf_iff.1
          ⟨run, hrun, SlotRange.mem_iff.2 ⟨Nat.le_refl _, le_of_mem_runsOf hrun⟩⟩))
      have hruns := ih hslots
      have hordered : ∀ run ∈ runsOf slots, run.first.toNat ≤ run.last.toNat :=
        fun run hrun => le_of_mem_runsOf hrun
      rw [hcons]
      cases hcase : runsOf slots with
      | nil => exact List.pairwise_singleton _ _
      | cons run runs =>
          rw [hcase] at hruns hfirst hordered
          rw [extendRuns]
          -- a longer first run ends where it did, and a run of its own keeps away from the first
          split
          next => exact List.pairwise_cons.2 (List.pairwise_cons.1 hruns)
          next hapart =>
            have hgap : slot.toNat + 1 < run.first.toNat := by
              have := hfirst run List.mem_cons_self
              omega
            refine List.pairwise_cons.2 ⟨fun other hother => ?_, hruns⟩
            show slot.toNat + 1 < other.first.toNat
            rcases List.mem_cons.1 hother with rfl | hlater
            · exact hgap
            · have hafter := (List.pairwise_cons.1 hruns).1 other hlater
              have hrun := hordered run List.mem_cons_self
              omega

/-- The runs of ascending slots follow one another. -/
theorem pairwise_runsOf {slots : List Slot} (h : slots.Pairwise (· < ·)) :
    (runsOf slots).Pairwise fun left right ↦ left.last < right.first :=
  (pairwise_gap_runsOf h).imp fun hgap =>
    UInt16.lt_iff_toNat_lt.2 (Nat.lt_of_succ_lt hgap)

/-- The sum of the widths of the runs of ascending slots is their number. -/
theorem sum_width_runsOf (slots : List Slot) :
    ((runsOf slots).map SlotRange.width).sum = slots.length := by
  induction slots with
  | nil => rfl
  | cons slot slots ih =>
      have hcons : runsOf (slot :: slots) = extendRuns slot (runsOf slots) := rfl
      have hsingle : (SlotRange.single slot).width = 1 := by
        simp [SlotRange.width, SlotRange.single]
      rw [hcons, List.length_cons, ← ih]
      cases hruns : runsOf slots with
      | nil => simp [extendRuns, hsingle]
      | cons run runs =>
          have hle := le_of_mem_runsOf (hruns ▸ List.mem_cons_self : run ∈ runsOf slots)
          rw [extendRuns]
          -- the slot makes the first run wider by one, or is a run of its own
          split
          next htouch =>
            simp only [List.map_cons, List.sum_cons, SlotRange.width]
            omega
          next =>
            simp only [List.map_cons, List.sum_cons, hsingle]
            omega

/-- The widths of the runs of a set add up to its size. -/
theorem totalWidth_runs (set : SlotSet) : SlotRange.totalWidth set.runs = .ok set.size := by
  have hsum : (set.runs.map SlotRange.width).sum = set.size := sum_width_runsOf set.slots
  have hlt : set.size < countLimit := Nat.lt_of_le_of_lt set.size_le (by decide)
  rw [SlotRange.totalWidth, sumCounts_of_lt (by rwa [hsum]), hsum]

/-- A set has no runs exactly when it has no members. -/
theorem runs_eq_nil_iff : set.runs = [] ↔ set = empty := by
  constructor
  · intro hruns
    refine ext fun slot => ?_
    rw [← mem_runs_iff, hruns]
    simp
  · rintro rfl
    rfl

/-- Both ends of a run are members. -/
theorem ends_mem_of_mem_runs {run : SlotRange} (hrun : run ∈ set.runs) :
    run.first ∈ set ∧ run.last ∈ set := by
  have hle : run.first.toNat ≤ run.last.toNat := le_of_mem_runsOf hrun
  exact ⟨mem_runs_iff.1 ⟨run, hrun, SlotRange.mem_iff.2 ⟨Nat.le_refl _, hle⟩⟩,
    mem_runs_iff.1 ⟨run, hrun, SlotRange.mem_iff.2 ⟨hle, Nat.le_refl _⟩⟩⟩

/-- The lowest first slot of the runs is the lowest member. -/
theorem min?_first_runs {first : Slot} (h : (set.runs.map SlotRange.first).min? = some first) :
    first ∈ set ∧ ∀ slot ∈ set, first ≤ slot := by
  obtain ⟨hmem, hleast⟩ := List.min?_eq_some_iff.1 h
  obtain ⟨run, hrun, rfl⟩ := List.mem_map.1 hmem
  refine ⟨(ends_mem_of_mem_runs hrun).1, fun slot hslot => ?_⟩
  obtain ⟨other, hother, hin⟩ := mem_runs_iff.2 hslot
  exact UInt16.le_trans (hleast _ (List.mem_map_of_mem hother)) hin.1

/-- The highest last slot of the runs is the highest member. -/
theorem max?_last_runs {last : Slot} (h : (set.runs.map SlotRange.last).max? = some last) :
    last ∈ set ∧ ∀ slot ∈ set, slot ≤ last := by
  obtain ⟨hmem, hgreatest⟩ := List.max?_eq_some_iff.1 h
  obtain ⟨run, hrun, rfl⟩ := List.mem_map.1 hmem
  refine ⟨(ends_mem_of_mem_runs hrun).2, fun slot hslot => ?_⟩
  obtain ⟨other, hother, hin⟩ := mem_runs_iff.2 hslot
  exact UInt16.le_trans hin.2 (hgreatest _ (List.mem_map_of_mem hother))

end SlotSet

end ClusterSteward
