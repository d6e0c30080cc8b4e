/-!
# Leveling

Slots that come out of all masters are taken one by one from the master that has most of them at
that moment. Here only the numbers are of interest: `level` says how many are left where. Main
statement: `length_level`, which says that every number keeps a place.
-/

namespace ClusterSteward.Leveling

/-- Lower the first number that equals `top` by one. -/
def lowerFirst (top : Nat) : List Nat → List Nat
  | [] => []
  | number :: numbers =>
      if number = top then (number - 1) :: numbers else number :: lowerFirst top numbers

/-- Lower the greatest number by one, `count` times, or until all are zero. Of several greatest
numbers the first is lowered. -/
def levelFirst : Nat → List Nat → List Nat
  | 0, numbers => numbers
  | count + 1, numbers =>
      let top := numbers.foldr max 0
      if top = 0 then numbers else levelFirst count (lowerFirst top numbers)

/-- Lower the greatest number by one, `count` times, or until all are zero. Of several greatest
numbers the last is lowered. -/
def level (count : Nat) (numbers : List Nat) : List Nat :=
  (levelFirst count numbers.reverse).reverse

/-- Lowering a number keeps their number. -/
theorem length_lowerFirst (top : Nat) (numbers : List Nat) :
    (lowerFirst top numbers).length = numbers.length := by
  induction numbers with
  | nil => rfl
  | cons number numbers ih =>
      rw [lowerFirst]
      split <;> simp [ih]

/-- Leveling keeps the number of numbers. -/
theorem length_level (count : Nat) (numbers : List Nat) :
    (level count numbers).length = numbers.length := by
  have hfirst : ∀ count numbers, (levelFirst count numbers).length = numbers.length := by
    intro count
    induction count with
    | zero => intro numbers; rfl
    | succ count ih =>
        intro numbers
        simp only [levelFirst]
        split
        · rfl
        · rw [ih, length_lowerFirst]
  simp [level, hfirst]

end ClusterSteward.Leveling
