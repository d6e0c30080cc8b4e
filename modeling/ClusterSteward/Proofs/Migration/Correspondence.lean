import ClusterSteward.Proofs.Migration.Course

/-!
# Corresponding topologies

Two topologies correspond when their calls, made in related states, give the same answers and leave
related states. A migration has nothing but these answers to go by, so that it comes to the same on
both. Main statement: `Topology.Corresponding.migrate`.
-/

namespace ClusterSteward

variable {α β First Second : Type} {related : First → Second → Prop}

/-- The values are the same, and the states are related. -/
structure Agree (related : First → Second → Prop) (left : α × First) (right : α × Second) :
    Prop where
  value_eq : left.1 = right.1
  state : related left.2 right.2

/-- What is computed from the values is the same. -/
theorem Agree.map {left : α × First} {right : α × Second} (h : Agree related left right)
    (change : α → β) :
    Agree related (change left.1, left.2) (change right.1, right.2) :=
  ⟨congrArg change h.value_eq, h.state⟩

/-- Two computations give values and states that agree, or stop with the same fault. -/
inductive Corresponds (related : First → Second → Prop) :
    Counted (α × First) → Counted (α × Second) → Prop where
  | value {left : α × First} {right : α × Second} (h : Agree related left right) :
      Corresponds related (.ok left) (.ok right)
  | fault (fault : Fault) : Corresponds related (.error fault) (.error fault)

namespace Corresponds

/-- What follows on corresponding computations corresponds if it does after each value. -/
theorem bind {left : Counted (α × First)} {right : Counted (α × Second)}
    {leftNext : α × First → Counted (β × First)} {rightNext : α × Second → Counted (β × Second)}
    (h : Corresponds related left right)
    (hnext : ∀ value first second, related first second →
      Corresponds related (leftNext (value, first)) (rightNext (value, second))) :
    Corresponds related (left >>= leftNext) (right >>= rightNext) := by
  cases h with
  | fault fault => exact .fault fault
  | @value left right h =>
      obtain ⟨value, first⟩ := left
      obtain ⟨other, second⟩ := right
      obtain ⟨rfl, hstate⟩ := h
      exact hnext value first second hstate

/-- A computation that does not touch the states may come first. -/
theorem bind_counted {computed : Counted α} {leftNext : α → Counted (β × First)}
    {rightNext : α → Counted (β × Second)}
    (hnext : ∀ value, Corresponds related (leftNext value) (rightNext value)) :
    Corresponds related (computed >>= leftNext) (computed >>= rightNext) := by
  cases computed with
  | error fault => exact .fault fault
  | ok value => exact hnext value

end Corresponds

/-- The calls of two topologies correspond in related states. -/
structure Topology.Corresponding (related : First → Second → Prop) (left : Topology First)
    (right : Topology Second) : Prop where
  listing : ∀ (endpoint : Endpoint) (first : First) (second : Second), related first second →
    Corresponds related (left.listing endpoint first) (right.listing endpoint second)
  reshard : ∀ (endpoint : Endpoint) (plan : Plan) (first : First) (second : Second),
    related first second →
      Corresponds related (left.reshard endpoint plan first) (right.reshard endpoint plan second)

namespace Topology.Corresponding

variable {left : Topology First} {right : Topology Second} {first : First} {second : Second}
  (h : Topology.Corresponding related left right) (hstate : related first second)
  (endpoint : Endpoint)

include h hstate

/-- Plans run alike on corresponding topologies. -/
theorem runPlans (total : Nat) (completed plans : List Plan) :
    Corresponds related (Migration.runPlans left endpoint total completed plans first)
      (Migration.runPlans right endpoint total completed plans second) := by
  induction plans generalizing completed first second with
  | nil => exact .value ⟨rfl, hstate⟩
  | cons plan plans ih =>
      refine (h.reshard endpoint plan first second hstate).bind fun result first second hafter => ?_
      cases result with
      | error cause => exact .value ⟨rfl, hafter⟩
      | ok => exact ih hafter _

/-- The only plan of a migration runs alike on corresponding topologies. -/
theorem runPlan (operation : String) (planned : Except Refusal Plan) :
    Corresponds related (Migration.runPlan left endpoint operation planned first)
      (Migration.runPlan right endpoint operation planned second) := by
  cases planned with
  | error refusal => exact .value ⟨rfl, hstate⟩
  | ok plan =>
      refine (h.reshard endpoint plan first second hstate).bind fun result first second hafter => ?_
      cases result with
      | error cause => exact .value ⟨rfl, hafter⟩
      | ok => exact .value ⟨rfl, hafter⟩

/-- Once it has the listing, a migration proceeds alike on corresponding topologies. -/
theorem proceed (goal : Migration.Goal) (listing : Listing) :
    Corresponds related (goal.proceed left endpoint listing first)
      (goal.proceed right endpoint listing second) := by
  cases goal with
  | spread => exact .bind_counted fun plans => h.runPlans hstate endpoint plans.length [] plans
  | empty id word => exact .bind_counted fun planned => h.runPlan hstate endpoint _ planned
  | merge target source => exact .bind_counted fun planned => h.runPlan hstate endpoint _ planned

/-- A migration comes to the same on corresponding topologies. -/
theorem migrate (goal : Migration.Goal) :
    Corresponds related (goal.migrate left endpoint first)
      (goal.migrate right endpoint second) := by
  rw [Migration.Goal.migrate_eq, Migration.Goal.migrate_eq]
  refine (h.listing endpoint first second hstate).bind fun result first second hafter => ?_
  cases result with
  | error cause => exact .value ⟨rfl, hafter⟩
  | ok listing => exact h.proceed hafter endpoint goal listing

end Topology.Corresponding

end ClusterSteward
