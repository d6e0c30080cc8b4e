import Mathlib
import ClusterSteward.Cluster.Leveling

/-!
# Leveling above a share

Numbers that are leveled come down from the top. While no more is taken than the numbers have in
excess of some share, none of them falls below the share, and those that do not exceed it keep what
they have. Main statements: `lowered_level` and `sum_level`.
-/

namespace ClusterSteward.Leveling

/-- What the numbers have in excess of the share. -/
def excess (share : Nat) (numbers : List Nat) : Nat :=
  (numbers.map (· - share)).sum

/-- A number was lowered, but not below the share. If it did not exceed the share, it is the same
as before. -/
def Lowered (share before after : Nat) : Prop :=
  min before share ≤ after ∧ after ≤ before

variable {share count top : Nat} {numbers : List Nat}

/-- A number that is not lowered counts as lowered. -/
theorem Lowered.refl (share number : Nat) : Lowered share number number :=
  ⟨Nat.min_le_left _ _, Nat.le_refl _⟩

/-- Lowering twice is lowering. -/
theorem Lowered.trans {first second third : Nat} (h : Lowered share first second)
    (hnext : Lowered share second third) : Lowered share first third := by
  unfold Lowered at *
  omega

/-- The greatest of the numbers exceeds the share when some number does. -/
theorem lt_greatest (h : 0 < excess share numbers) : share < numbers.foldr max 0 := by
  induction numbers with
  | nil => simp [excess] at h
  | cons number numbers ih =>
      have hsum : excess share (number :: numbers) = number - share + excess share numbers := rfl
      rw [hsum] at h
      rw [List.foldr_cons]
      -- what is not in excess at the head is in excess further on
      by_cases hnumber : share < number
      · exact Nat.lt_of_lt_of_le hnumber (Nat.le_max_left _ _)
      · have hrest : 0 < excess share numbers := by omega
        exact Nat.lt_of_lt_of_le (ih hrest) (Nat.le_max_right _ _)

/-- The greatest of the numbers is one of them. -/
theorem greatest_mem (h : 0 < numbers.foldr max 0) : numbers.foldr max 0 ∈ numbers := by
  induction numbers with
  | nil => simp at h
  | cons number numbers ih =>
      rw [List.foldr_cons] at h ⊢
      rcases Nat.le_total (numbers.foldr max 0) number with hle | hge
      · rw [Nat.max_eq_left hle]
        exact List.mem_cons_self
      · rw [Nat.max_eq_right hge] at h ⊢
        exact List.mem_cons_of_mem _ (ih h)

/-! ## One step -/

/-- Lowering a number above the share takes one from it, from the sum, and from the excess. -/
theorem lowerFirst_spec (hmem : top ∈ numbers) (hshare : share < top) :
    List.Forall₂ (Lowered share) numbers (lowerFirst top numbers) ∧
      (lowerFirst top numbers).sum + 1 = numbers.sum ∧
      excess share (lowerFirst top numbers) + 1 = excess share numbers := by
  induction numbers with
  | nil => cases hmem
  | cons number numbers ih =>
      have hexcess : ∀ (head : Nat) (tail : List Nat),
          excess share (head :: tail) = head - share + excess share tail := fun _ _ => rfl
      rw [lowerFirst]
      -- the induction follows the search: the number to lower is the head, or it is further on
      split
      next heq =>
        have hlowered : Lowered share number (number - 1) := by
          unfold Lowered
          omega
        have hsame : List.Forall₂ (Lowered share) numbers numbers :=
          List.forall₂_same.2 fun number _ => .refl share number
        refine ⟨.cons hlowered hsame, ?_, ?_⟩
        · rw [List.sum_cons, List.sum_cons]
          omega
        · rw [hexcess, hexcess]
          omega
      next hne =>
        obtain ⟨hlowered, hsum, hrest⟩ := ih ((List.mem_cons.1 hmem).resolve_left (Ne.symm hne))
        refine ⟨.cons (.refl share number) hlowered, ?_, ?_⟩
        · rw [List.sum_cons, List.sum_cons]
          omega
        · rw [hexcess, hexcess]
          omega

/-! ## All steps -/

/-- Numbers that are lowered twice are lowered. -/
theorem lowered_trans {first second third : List Nat}
    (h : List.Forall₂ (Lowered share) first second)
    (hnext : List.Forall₂ (Lowered share) second third) :
    List.Forall₂ (Lowered share) first third := by
  induction h generalizing third with
  | nil => exact hnext
  | cons hhead _ ih =>
      cases hnext with
      | cons hother hrest => exact .cons (hhead.trans hother) (ih hrest)

/-- While no more is taken than there is in excess, leveling lowers numbers and takes exactly that
much from their sum. -/
theorem levelFirst_spec (h : count ≤ excess share numbers) :
    List.Forall₂ (Lowered share) numbers (levelFirst count numbers) ∧
      (levelFirst count numbers).sum + count = numbers.sum := by
  induction count generalizing numbers with
  | zero => exact ⟨List.forall₂_same.2 fun number _ => .refl share number, rfl⟩
  | succ count ih =>
      -- while something is in excess, the greatest number is, and so may be lowered
      have htop : share < numbers.foldr max 0 := lt_greatest (by omega)
      have hmem : numbers.foldr max 0 ∈ numbers := greatest_mem (by omega)
      obtain ⟨hlowered, hsum, hexcess⟩ := lowerFirst_spec hmem htop
      obtain ⟨hrest, hrestSum⟩ := ih (Nat.le_of_succ_le_succ (hexcess ▸ h))
      rw [levelFirst, if_neg (by omega)]
      exact ⟨lowered_trans hlowered hrest, by omega⟩

/-- The excess does not depend on the order of the numbers. -/
theorem excess_reverse (share : Nat) (numbers : List Nat) :
    excess share numbers.reverse = excess share numbers := by
  rw [excess, List.map_reverse, List.sum_reverse, excess]

/-- While no more is taken than there is in excess, no number falls below the share, and numbers
that do not exceed it are kept. -/
theorem lowered_level (h : count ≤ excess share numbers) :
    List.Forall₂ (Lowered share) numbers (level count numbers) := by
  -- `level` works from the other end of the list, which matters for ties only
  rw [← excess_reverse] at h
  rw [level, ← List.forall₂_reverse_iff, List.reverse_reverse]
  exact (levelFirst_spec h).1

/-- While no more is taken than there is in excess, exactly that much is taken from the sum. -/
theorem sum_level (h : count ≤ excess share numbers) :
    (level count numbers).sum + count = numbers.sum := by
  rw [← excess_reverse] at h
  rw [level, List.sum_reverse, (levelFirst_spec h).2, List.sum_reverse]

/-- Every number has a lowered one in its place. -/
theorem exists_lowered {first second : List Nat} {place number : Nat}
    (h : List.Forall₂ (Lowered share) first second) (hnumber : first[place]? = some number) :
    ∃ lowered, second[place]? = some lowered ∧ Lowered share number lowered := by
  induction h generalizing place with
  | nil => cases hnumber
  | cons hhead _ ih =>
      cases place with
      | zero =>
          cases hnumber
          exact ⟨_, rfl, hhead⟩
      | succ place => exact ih hnumber

/-! ## Enough in excess -/

/-- A sum is at most the excess over the share and a share for each number. -/
theorem sum_le_excess_add (share : Nat) (numbers : List Nat) :
    numbers.sum ≤ excess share numbers + share * numbers.length := by
  induction numbers with
  | nil => exact Nat.zero_le _
  | cons number numbers ih =>
      have hexcess : excess share (number :: numbers) = number - share + excess share numbers := rfl
      rw [hexcess, List.sum_cons, List.length_cons, Nat.mul_succ]
      omega

/-- When one of the numbers is zero, its share is left over. -/
theorem sum_add_le_excess_add (share : Nat) (hzero : 0 ∈ numbers) :
    numbers.sum + share ≤ excess share numbers + share * numbers.length := by
  induction numbers with
  | nil => cases hzero
  | cons number numbers ih =>
      have hexcess : excess share (number :: numbers) = number - share + excess share numbers := rfl
      rw [hexcess, List.sum_cons, List.length_cons, Nat.mul_succ]
      rcases List.mem_cons.1 hzero with rfl | hmem
      · have hrest := sum_le_excess_add share numbers
        omega
      · have hrest := ih hmem
        omega

end ClusterSteward.Leveling
