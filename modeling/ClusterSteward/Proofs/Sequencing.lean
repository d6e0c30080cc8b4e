/-!
# Sequences of computations that may fail

A sequence of two computations succeeds exactly when both do. This is how the success of a longer
computation is taken apart.
-/

namespace ClusterSteward

variable {ε α β : Type}

/-- A sequence succeeds exactly when its first part does and the second one does on its result. -/
theorem bind_eq_ok_iff {first : Except ε α} {second : α → Except ε β} {result : β} :
    (first >>= second) = .ok result ↔ ∃ value, first = .ok value ∧ second value = .ok result := by
  cases first with
  | ok value => simp [bind, Except.bind]
  | error cause => simp [bind, Except.bind]

/-- A sequence fails exactly when its first part does or the second one does on its result. -/
theorem bind_eq_error_iff {first : Except ε α} {second : α → Except ε β} {cause : ε} :
    (first >>= second) = .error cause ↔
      first = .error cause ∨ ∃ value, first = .ok value ∧ second value = .error cause := by
  cases first with
  | ok value => simp [bind, Except.bind]
  | error cause => simp [bind, Except.bind]

/-- A changed result comes from a computation that succeeds. -/
theorem map_eq_ok_iff {change : α → β} {computation : Except ε α} {result : β} :
    change <$> computation = .ok result ↔
      ∃ value, computation = .ok value ∧ change value = result := by
  cases computation with
  | ok value => simp [Functor.map, Except.map]
  | error cause => simp [Functor.map, Except.map]

/-- A computation that does nothing but give a value succeeds with it. -/
@[simp] theorem pure_eq_ok_iff {value result : α} :
    (pure value : Except ε α) = .ok result ↔ value = result := by
  simp [pure, Except.pure]

/-- A computation that does nothing but give a value does not fail. -/
@[simp] theorem pure_ne_error {value : α} {cause : ε} :
    (pure value : Except ε α) ≠ .error cause := by
  simp [pure, Except.pure]

/-- A computation that only reports a failure does not succeed. -/
@[simp] theorem throw_ne_ok {cause : ε} {result : α} :
    (throw cause : Except ε α) ≠ .ok result := by
  simp [throw, throwThe, MonadExceptOf.throw]

end ClusterSteward
