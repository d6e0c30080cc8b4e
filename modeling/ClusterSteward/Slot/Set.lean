import ClusterSteward.Slot.Range

/-!
# Sets of slots

A set of slots is the ascending list of its members. Slots are taken from its lower or its upper
end, sets are joined, and a set is listed as its maximal runs: the ranges between its gaps. Main
statements: `mem_union`, `mem_takeLowest_or_mem_dropLowest` and `mem_runs_iff`, which say what
each operation does to membership.
-/

namespace ClusterSteward

/-- A finite set of slots, listed in ascending order. -/
structure SlotSet where
  slots : List Slot
  ascending : slots.Pairwise (· < ·)
  deriving DecidableEq, Repr

namespace SlotSet

/-- A slot is in a set when it is listed. -/
instance : Membership Slot SlotSet where
  mem set slot := slot ∈ set.slots

instance (slot : Slot) (set : SlotSet) : Decidable (slot ∈ set) :=
  inferInstanceAs (Decidable (slot ∈ set.slots))

/-- The set without members. -/
def empty : SlotSet :=
  ⟨[], .nil⟩

instance : Inhabited SlotSet :=
  ⟨empty⟩

/-- The number of members. -/
def size (set : SlotSet) : Nat :=
  set.slots.length

/-- Put `slot` before the members of `others` that are above it, given how to join what remains of
the list that `slot` heads with what remains of `others`. -/
def weave (slot : Slot) (join : List Slot → List Slot) : List Slot → List Slot
  | [] => slot :: join []
  | other :: others =>
      if slot < other then slot :: join (other :: others)
      else if other < slot then other :: weave slot join others
      else slot :: join others

/-- The members of two ascending lists in one ascending list. -/
def merge : List Slot → List Slot → List Slot
  | [] => fun others ↦ others
  | slot :: slots => weave slot (merge slots)

/-- A merged list holds the members of both lists. -/
theorem mem_merge {slot : Slot} {left right : List Slot} :
    slot ∈ merge left right ↔ slot ∈ left ∨ slot ∈ right := by
  induction left generalizing right with
  | nil => simp [merge]
  | cons head tail ih =>
      rw [merge]
      induction right with
      | nil => simp [weave, ih]
      | cons other others ihr =>
          rw [weave]
          split
          · simp only [List.mem_cons, ih]
            grind
          · split
            · simp only [List.mem_cons, ihr]
              grind
            · have heq : head = other := by
                apply UInt16.toNat_inj.1
                rename_i h1 h2
                rw [UInt16.lt_iff_toNat_lt] at h1 h2
                omega
              simp only [List.mem_cons, ih, heq]
              grind

/-- Merging keeps lists ascending. -/
theorem pairwise_merge {left right : List Slot} (hleft : left.Pairwise (· < ·))
    (hright : right.Pairwise (· < ·)) : (merge left right).Pairwise (· < ·) := by
  induction left generalizing right with
  | nil => simpa [merge] using hright
  | cons head tail ih =>
      rw [merge]
      obtain ⟨hhead, htail⟩ := List.pairwise_cons.1 hleft
      induction right with
      | nil =>
          rw [weave]
          refine List.pairwise_cons.2 ⟨?_, ih htail .nil⟩
          intro slot hslot
          rcases mem_merge.1 hslot with hmem | hmem
          · exact hhead _ hmem
          · simp at hmem
      | cons other others ihr =>
          obtain ⟨hother, hothers⟩ := List.pairwise_cons.1 hright
          rw [weave]
          split
          next hlt =>
            refine List.pairwise_cons.2 ⟨?_, ih htail hright⟩
            intro slot hslot
            rcases mem_merge.1 hslot with hmem | hmem
            · exact hhead _ hmem
            · rcases List.mem_cons.1 hmem with rfl | hmem
              · exact hlt
              · exact UInt16.lt_trans hlt (hother _ hmem)
          next hnot =>
            split
            next hgt =>
              refine List.pairwise_cons.2 ⟨?_, ihr hothers⟩
              intro slot hslot
              have hmem : slot ∈ merge (head :: tail) others := hslot
              rcases mem_merge.1 hmem with hmem | hmem
              · rcases List.mem_cons.1 hmem with rfl | hmem
                · exact hgt
                · exact UInt16.lt_trans hgt (hhead _ hmem)
              · exact hother _ hmem
            next hnotgt =>
              have heq : head = other := by
                apply UInt16.toNat_inj.1
                rw [UInt16.lt_iff_toNat_lt] at hnot hnotgt
                omega
              refine List.pairwise_cons.2 ⟨?_, ih htail hothers⟩
              intro slot hslot
              rcases mem_merge.1 hslot with hmem | hmem
              · exact hhead _ hmem
              · exact heq ▸ hother _ hmem

/-- The members of both sets. -/
def union (left right : SlotSet) : SlotSet :=
  ⟨merge left.slots right.slots, pairwise_merge left.ascending right.ascending⟩

/-- A slot is in a union when it is in one of the sets. -/
theorem mem_union {slot : Slot} {left right : SlotSet} :
    slot ∈ left.union right ↔ slot ∈ left ∨ slot ∈ right :=
  mem_merge

/-- The `count` slots from `first` on, as far as slot numbers go. -/
def upFrom (first : Nat) : Nat → List Slot
  | 0 => []
  | count + 1 =>
      if h : first < UInt16.size then UInt16.ofNatLT first h :: upFrom (first + 1) count else []

/-- A slot is among those listed from `first` on when its number is in that interval. -/
theorem mem_upFrom {slot : Slot} {first count : Nat} :
    slot ∈ upFrom first count ↔ first ≤ slot.toNat ∧ slot.toNat < first + count := by
  induction count generalizing first with
  | zero =>
      simp only [upFrom, List.not_mem_nil, false_iff]
      omega
  | succ count ih =>
      rw [upFrom]
      have hbound : slot.toNat < UInt16.size := slot.toNat_lt_size
      split
      next h =>
        rw [List.mem_cons, ih, ← UInt16.toNat_inj, UInt16.toNat_ofNatLT]
        omega
      next h =>
        simp only [List.not_mem_nil, false_iff]
        omega

/-- The slots from `first` on are listed in ascending order. -/
theorem pairwise_upFrom (first count : Nat) : (upFrom first count).Pairwise (· < ·) := by
  induction count generalizing first with
  | zero => exact .nil
  | succ count ih =>
      rw [upFrom]
      split
      next h =>
        refine List.pairwise_cons.2 ⟨?_, ih _⟩
        intro slot hslot
        rw [UInt16.lt_iff_toNat_lt, UInt16.toNat_ofNatLT]
        have := (mem_upFrom.1 hslot).1
        omega
      next => exact .nil

/-- The slots of a range; none if its bounds are reversed. -/
def ofRange (range : SlotRange) : SlotSet :=
  ⟨upFrom range.first.toNat (range.last.toNat + 1 - range.first.toNat), pairwise_upFrom _ _⟩

/-- The set of a range holds the slots of the range. -/
theorem mem_ofRange {slot : Slot} {range : SlotRange} : slot ∈ ofRange range ↔ slot ∈ range := by
  rw [SlotRange.mem_iff]
  refine mem_upFrom.trans ?_
  omega

/-- The slots that lie in one of the ranges. -/
def ofRanges (ranges : List SlotRange) : SlotSet :=
  ranges.foldr (fun range set ↦ (ofRange range).union set) empty

/-- The set of the `count` lowest members. -/
def takeLowest (count : Nat) (set : SlotSet) : SlotSet :=
  ⟨set.slots.take count, set.ascending.sublist (List.take_sublist _ _)⟩

/-- The set of the members above the `count` lowest. -/
def dropLowest (count : Nat) (set : SlotSet) : SlotSet :=
  ⟨set.slots.drop count, set.ascending.sublist (List.drop_sublist _ _)⟩

/-- Cutting off the lowest members loses none. -/
theorem mem_takeLowest_or_mem_dropLowest {slot : Slot} {set : SlotSet} (count : Nat) :
    slot ∈ set.takeLowest count ∨ slot ∈ set.dropLowest count ↔ slot ∈ set := by
  show slot ∈ set.slots.take count ∨ slot ∈ set.slots.drop count ↔ slot ∈ set.slots
  rw [← List.mem_append, List.take_append_drop]

/-- Put a slot before the runs of the slots above it, lengthening the first run if it touches. -/
def extendRuns (slot : Slot) : List SlotRange → List SlotRange
  | [] => [.single slot]
  | run :: runs =>
      if slot.toNat + 1 = run.first.toNat then ⟨slot, run.last⟩ :: runs
      else .single slot :: run :: runs

/-- The maximal runs of an ascending list of slots, in ascending order. -/
def runsOf : List Slot → List SlotRange :=
  List.foldr extendRuns []

/-- The maximal runs of the set, in ascending order. -/
def runs (set : SlotSet) : List SlotRange :=
  runsOf set.slots

/-- Every run has its bounds in order. -/
theorem le_of_mem_runsOf {slots : List Slot} {run : SlotRange} (hrun : run ∈ runsOf slots) :
    run.first.toNat ≤ run.last.toNat := by
  induction slots generalizing run with
  | nil => simp [runsOf] at hrun
  | cons slot slots ih =>
      have hcons : runsOf (slot :: slots) = extendRuns slot (runsOf slots) := rfl
      rw [hcons] at hrun
      cases hruns : runsOf slots with
      | nil =>
          rw [hruns, extendRuns, List.mem_singleton] at hrun
          simp [hrun, SlotRange.single]
      | cons first others =>
          rw [hruns] at ih hrun
          rw [extendRuns] at hrun
          have hfirst := ih List.mem_cons_self
          split at hrun
          next htouch =>
            rcases List.mem_cons.1 hrun with rfl | hmem
            · show slot.toNat ≤ first.last.toNat
              omega
            · exact ih (List.mem_cons_of_mem _ hmem)
          next =>
            rcases List.mem_cons.1 hrun with rfl | hmem
            · exact Nat.le_refl _
            · exact ih hmem

/-- The runs of a list of slots hold the listed slots and nothing else. -/
theorem mem_runsOf_iff {slot : Slot} {slots : List Slot} :
    (∃ run ∈ runsOf slots, slot ∈ run) ↔ slot ∈ slots := by
  induction slots with
  | nil => simp [runsOf]
  | cons head slots ih =>
      have hcons : runsOf (head :: slots) = extendRuns head (runsOf slots) := rfl
      have hsingle : slot ∈ SlotRange.single head ↔ slot = head := by
        rw [SlotRange.mem_iff, ← UInt16.toNat_inj]
        show head.toNat ≤ _ ∧ _ ≤ head.toNat ↔ _
        omega
      rw [hcons, List.mem_cons, ← ih]
      cases hruns : runsOf slots with
      | nil => simp [extendRuns, hsingle]
      | cons first others =>
          have hle := le_of_mem_runsOf (hruns ▸ List.mem_cons_self : first ∈ runsOf slots)
          rw [extendRuns]
          split
          next htouch =>
            have hlong : slot ∈ (⟨head, first.last⟩ : SlotRange) ↔ slot = head ∨ slot ∈ first := by
              rw [SlotRange.mem_iff, SlotRange.mem_iff, ← UInt16.toNat_inj]
              show head.toNat ≤ _ ∧ _ ≤ first.last.toNat ↔ _
              omega
            simp only [List.mem_cons, exists_eq_or_imp, hlong, or_assoc]
          next =>
            simp only [List.mem_cons, exists_eq_or_imp, hsingle]

/-- The runs of a set hold its members and nothing else. -/
theorem mem_runs_iff {slot : Slot} {set : SlotSet} :
    (∃ run ∈ set.runs, slot ∈ run) ↔ slot ∈ set :=
  mem_runsOf_iff

end SlotSet

end ClusterSteward
