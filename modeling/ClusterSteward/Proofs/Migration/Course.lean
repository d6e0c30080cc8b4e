import Mathlib
import ClusterSteward.Migration.Running
import ClusterSteward.Migration.Scripted

/-!
# The course of a migration

Which calls a migration makes, in which order, and what it reports, whatever the topology answers.
`Executed` says that plans were executed one after another, `Execution` how the execution of plans
ends, and `Course` how a whole migration goes. Main statements: `course_migrate`, and
`forget_migrate`, by which a list of the calls is kept without a change to anything else.
-/

namespace ClusterSteward

variable {State : Type} {topology : Topology State} {endpoint : Endpoint}

/-! ## Kept calls -/

namespace Topology

/-- A listing adds itself to the calls. -/
theorem recording_listing (state : State) (calls : List Call) :
    topology.recording.listing endpoint (state, calls) =
      (topology.listing endpoint state).map fun (result, after) ↦
        (result, after, calls ++ [.listing endpoint]) :=
  rfl

/-- A reshard adds itself to the calls. -/
theorem recording_reshard (plan : Plan) (state : State) (calls : List Call) :
    topology.recording.reshard endpoint plan (state, calls) =
      (topology.reshard endpoint plan state).map fun (result, after) ↦
        (result, after, calls ++ [.reshard endpoint plan]) :=
  rfl

/-- The result and the state without the calls. -/
def forget {α : Type} : α × State × List Call → α × State :=
  fun (result, state, _) ↦ (result, state)

end Topology

namespace Migration

/-! ## Executing plans -/

/-- The plans are executed one after another, each of them with success. -/
inductive Executed (topology : Topology State) (endpoint : Endpoint) :
    List Plan → State → State → Prop where
  | none {state : State} : Executed topology endpoint [] state state
  | next {plan : Plan} {plans : List Plan} {before middle after : State}
      (hreshard : topology.reshard endpoint plan before = .ok (.ok (), middle))
      (hrest : Executed topology endpoint plans middle after) :
      Executed topology endpoint (plan :: plans) before after

/-- Either all plans are executed, or the first one that is not has a number of executed plans
before it. -/
theorem executed_or_stopped (topology : Topology State) (endpoint : Endpoint) (plans : List Plan)
    (state : State) :
    (∃ after, Executed topology endpoint plans state after) ∨
      ∃ done plan others middle, plans = done ++ plan :: others ∧
        Executed topology endpoint done state middle ∧
        ∀ after, topology.reshard endpoint plan middle ≠ .ok (.ok (), after) := by
  induction plans generalizing state with
  | nil => exact .inl ⟨state, .none⟩
  | cons plan plans ih =>
      by_cases hreshard : ∃ middle, topology.reshard endpoint plan state = .ok (.ok (), middle)
      · obtain ⟨middle, hreshard⟩ := hreshard
        rcases ih middle with ⟨after, hrest⟩ | ⟨done, next, others, last, rfl, hdone, hnext⟩
        · exact .inl ⟨after, .next hreshard hrest⟩
        · exact .inr ⟨plan :: done, next, others, last, rfl, .next hreshard hdone, hnext⟩
      · exact .inr ⟨[], plan, plans, state, rfl, .none, fun after h ↦ hreshard ⟨after, h⟩⟩

/-- How the execution of plans ends, and the calls that it adds. `failure` is the error that tells
of a failed plan, given the plans that are done and the cause. -/
inductive Execution (topology : Topology State) (endpoint : Endpoint)
    (failure : List Plan → Plan → ToolError → MigrationError) (plans : List Plan) (state : State)
    (calls : List Call) :
    Counted (Except MigrationError Migrated × State × List Call) → Prop where
  | completed {migrated : Migrated} {after : State}
      (hexecuted : Executed topology endpoint plans state after)
      (hcompleted : migrated.completed = plans)
      (hmoved : migrated.slotsMoved = (plans.map Plan.count).sum) :
      Execution topology endpoint failure plans state calls
        (.ok (.ok migrated, after, calls ++ plans.map (.reshard endpoint)))
  | failed {done others : List Plan} {plan : Plan} {middle after : State} {cause : ToolError}
      (hplans : plans = done ++ plan :: others)
      (hdone : Executed topology endpoint done state middle)
      (hfailed : topology.reshard endpoint plan middle = .ok (.error cause, after)) :
      Execution topology endpoint failure plans state calls
        (.ok (.error (failure done plan cause), after,
          calls ++ (done ++ [plan]).map (.reshard endpoint)))
  | faulted {done others : List Plan} {plan : Plan} {middle : State} {fault : Fault}
      (hplans : plans = done ++ plan :: others)
      (hdone : Executed topology endpoint done state middle)
      (hfaulted : topology.reshard endpoint plan middle = .error fault) :
      Execution topology endpoint failure plans state calls (.error fault)

/-- The error that tells of a failed step. -/
def interruption (total : Nat) (done : List Plan) (plan : Plan) (cause : ToolError) :
    MigrationError :=
  .interrupted
    { step := done.length + 1
      total
      failedNode := plan.target
      completed := done.map Plan.target
      cause }

variable {total : Nat} {completed plans : List Plan} {plan : Plan} {state middle after : State}
  {calls : List Call}

/-- A plan that is executed is completed, and the other plans follow. -/
theorem runPlans_cons_of_ok
    (h : topology.reshard endpoint plan state = .ok (.ok (), middle)) :
    runPlans topology.recording endpoint total completed (plan :: plans) (state, calls) =
      runPlans topology.recording endpoint total (completed ++ [plan]) plans
        (middle, calls ++ [.reshard endpoint plan]) := by
  rw [runPlans, Topology.recording_reshard, h]
  rfl

/-- Nothing follows a plan that fails. -/
theorem runPlans_cons_of_error {cause : ToolError}
    (h : topology.reshard endpoint plan state = .ok (.error cause, after)) :
    runPlans topology.recording endpoint total completed (plan :: plans) (state, calls) =
      .ok (.error (interruption total completed plan cause), after,
        calls ++ [.reshard endpoint plan]) := by
  rw [runPlans, Topology.recording_reshard, h]
  rfl

/-- Nothing follows a plan that ends in a fault. -/
theorem runPlans_cons_of_fault {fault : Fault}
    (h : topology.reshard endpoint plan state = .error fault) :
    runPlans topology.recording endpoint total completed (plan :: plans) (state, calls) =
      .error fault := by
  rw [runPlans, Topology.recording_reshard, h]
  rfl

/-- Plans that are executed are completed in their order, and the other plans follow. -/
theorem runPlans_append {done : List Plan} (h : Executed topology endpoint done state middle) :
    runPlans topology.recording endpoint total completed (done ++ plans) (state, calls) =
      runPlans topology.recording endpoint total (completed ++ done) plans
        (middle, calls ++ done.map (.reshard endpoint)) := by
  induction h generalizing completed calls with
  | none => simp
  | next hreshard hrest ih =>
      rw [List.cons_append, runPlans_cons_of_ok hreshard, ih]
      simp

/-- The run of plans goes through them in order, up to the first that fails. -/
theorem execution_runPlans (topology : Topology State) (endpoint : Endpoint) (total : Nat)
    (plans : List Plan) (state : State) (calls : List Call) :
    Execution topology endpoint (interruption total) plans state calls
      (runPlans topology.recording endpoint total [] plans (state, calls)) := by
  rcases executed_or_stopped topology endpoint plans state with
    ⟨after, hexecuted⟩ | ⟨done, plan, others, middle, hplans, hdone, hstopped⟩
  · have hrun : runPlans topology.recording endpoint total [] (plans ++ []) (state, calls) = _ :=
      runPlans_append hexecuted
    rw [List.append_nil, List.nil_append] at hrun
    rw [hrun]
    exact .completed hexecuted rfl rfl
  · rw [hplans, runPlans_append hdone, List.nil_append]
    cases hreshard : topology.reshard endpoint plan middle with
    | error fault =>
        rw [runPlans_cons_of_fault hreshard]
        exact .faulted rfl hdone hreshard
    | ok outcome =>
        obtain ⟨result, after⟩ := outcome
        cases result with
        | ok => exact absurd hreshard (hstopped after)
        | error cause =>
            have hcalls : calls ++ done.map (.reshard endpoint) ++ [.reshard endpoint plan] =
                calls ++ (done ++ [plan]).map (Call.reshard endpoint) := by
              simp
            rw [runPlans_cons_of_error hreshard, hcalls]
            exact .failed rfl hdone hreshard

/-- The run of the only plan executes it, and tells of its failure by the cause alone. -/
theorem execution_runPlan (topology : Topology State) (endpoint : Endpoint) (operation : String)
    (plan : Plan) (state : State) (calls : List Call) :
    Execution topology endpoint (fun _ _ cause ↦ .tool cause) [plan] state calls
      (runPlan topology.recording endpoint operation (.ok plan) (state, calls)) := by
  rw [runPlan, Topology.recording_reshard]
  cases hreshard : topology.reshard endpoint plan state with
  | error fault => exact .faulted (show [plan] = [] ++ plan :: [] from rfl) .none hreshard
  | ok outcome =>
      obtain ⟨result, after⟩ := outcome
      cases result with
      | ok => exact .completed (.next hreshard .none) rfl rfl
      | error cause => exact .failed rfl .none hreshard

/-! ## Goals -/

/-- What a migration is to achieve. -/
inductive Goal where
  | spread
  | empty (id : String) (word : UInt64)
  | merge (target source : String)
  deriving DecidableEq, Repr

namespace Goal

/-- The migration that is to achieve the goal. -/
def migrate (goal : Goal) (topology : Topology State) (endpoint : Endpoint) (state : State) :
    Counted (Except MigrationError Migrated × State) :=
  match goal with
  | .spread => Migration.spread topology endpoint state
  | .empty id word => Migration.empty topology endpoint id word state
  | .merge target source => Migration.merge topology endpoint target source state

/-- What the migration does once it has the listing. -/
def proceed (goal : Goal) (topology : Topology State) (endpoint : Endpoint) (listing : Listing)
    (state : State) : Counted (Except MigrationError Migrated × State) :=
  match goal with
  | .spread => do
      let plans ← Planning.spread listing
      runPlans topology endpoint plans.length [] plans state
  | .empty id word => do
      runPlan topology endpoint emptyOperation (← Planning.empty listing id word) state
  | .merge target source => do
      runPlan topology endpoint mergeOperation (← Planning.merge listing target source) state

/-- A migration asks for the listing. Without one it fails, and with one it proceeds. -/
theorem migrate_eq (goal : Goal) (topology : Topology State) (endpoint : Endpoint) (state : State) :
    goal.migrate topology endpoint state = (do
      let (result, after) ← topology.listing endpoint state
      match result with
      | .error cause => return (.error (.tool cause), after)
      | .ok listing => goal.proceed topology endpoint listing after) := by
  cases goal <;> rfl

/-- The arithmetic of planning fails on the listing. -/
def Faults (listing : Listing) (fault : Fault) : Goal → Prop
  | .spread => Planning.spread listing = .error fault
  | .empty id word => Planning.empty listing id word = .error fault
  | .merge target source => Planning.merge listing target source = .error fault

/-- Planning is refused on the listing, in the name of the operation. -/
def Refused (listing : Listing) (operation : String) (refusal : Refusal) : Goal → Prop
  | .spread => False
  | .empty id word =>
      operation = emptyOperation ∧ Planning.empty listing id word = .ok (.error refusal)
  | .merge target source =>
      operation = mergeOperation ∧ Planning.merge listing target source = .ok (.error refusal)

/-- The plans are those that planning finds on the listing. -/
def Planned (listing : Listing) (plans : List Plan) : Goal → Prop
  | .spread => Planning.spread listing = .ok plans
  | .empty id word => ∃ plan, plans = [plan] ∧ Planning.empty listing id word = .ok (.ok plan)
  | .merge target source =>
      ∃ plan, plans = [plan] ∧ Planning.merge listing target source = .ok (.ok plan)

/-- The error that tells of a failed plan out of `total` plans. Only a spread has several plans, and
tells which of them are done. -/
def failure (total : Nat) : Goal → List Plan → Plan → ToolError → MigrationError
  | .spread => interruption total
  | .empty .. => fun _ _ cause ↦ .tool cause
  | .merge .. => fun _ _ cause ↦ .tool cause

end Goal

/-- How a migration goes after `earlier` calls: it asks for the listing, and what it does next
follows from the answer and from the plans alone. -/
inductive Course (topology : Topology State) (endpoint : Endpoint) (goal : Goal) (state : State)
    (earlier : List Call) :
    Counted (Except MigrationError Migrated × State × List Call) → Prop where
  | unlisted {cause : ToolError} {after : State}
      (hlisting : topology.listing endpoint state = .ok (.error cause, after)) :
      Course topology endpoint goal state earlier
        (.ok (.error (.tool cause), after, earlier ++ [.listing endpoint]))
  | unanswered {fault : Fault} (hlisting : topology.listing endpoint state = .error fault) :
      Course topology endpoint goal state earlier (.error fault)
  | faulted {listing : Listing} {after : State} {fault : Fault}
      (hlisting : topology.listing endpoint state = .ok (.ok listing, after))
      (hfaults : goal.Faults listing fault) :
      Course topology endpoint goal state earlier (.error fault)
  | refused {listing : Listing} {after : State} {operation : String} {refusal : Refusal}
      (hlisting : topology.listing endpoint state = .ok (.ok listing, after))
      (hrefused : goal.Refused listing operation refusal) :
      Course topology endpoint goal state earlier
        (.ok (.error (.refused operation refusal), after, earlier ++ [.listing endpoint]))
  | planned {listing : Listing} {listed : State} {plans : List Plan}
      {result : Counted (Except MigrationError Migrated × State × List Call)}
      (hlisting : topology.listing endpoint state = .ok (.ok listing, listed))
      (hplanned : goal.Planned listing plans)
      (hexecution : Execution topology endpoint (goal.failure plans.length) plans listed
        (earlier ++ [.listing endpoint]) result) :
      Course topology endpoint goal state earlier result

section

variable {goal : Goal} {listing : Listing} {listed : State} {earlier : List Call}

/-- Planning one step and running it goes as the goal says, when that is what the goal plans. -/
theorem course_runPlan {operation : String} {planning : Counted (Except Refusal Plan)}
    (hlisting : topology.listing endpoint state = .ok (.ok listing, listed))
    (hfaults : ∀ fault, planning = .error fault → goal.Faults listing fault)
    (hrefused : ∀ refusal, planning = .ok (.error refusal) →
      goal.Refused listing operation refusal)
    (hplanned : ∀ plan, planning = .ok (.ok plan) → goal.Planned listing [plan])
    (hfailure : goal.failure 1 = fun _ _ cause ↦ .tool cause) :
    Course topology endpoint goal state earlier (do
      runPlan topology.recording endpoint operation (← planning)
        (listed, earlier ++ [.listing endpoint])) := by
  cases planning with
  | error fault => exact .faulted hlisting (hfaults fault rfl)
  | ok planned =>
      cases planned with
      | error refusal => exact .refused hlisting (hrefused refusal rfl)
      | ok plan =>
          refine .planned hlisting (hplanned plan rfl) ?_
          rw [List.length_singleton, hfailure]
          exact execution_runPlan topology endpoint operation plan listed _

/-- Once it has the listing, a migration goes as its goal says. -/
theorem course_proceed (goal : Goal)
    (hlisting : topology.listing endpoint state = .ok (.ok listing, listed)) :
    Course topology endpoint goal state earlier
      (goal.proceed topology.recording endpoint listing
        (listed, earlier ++ [.listing endpoint])) := by
  cases goal with
  | spread =>
      rw [Goal.proceed]
      cases hplans : Planning.spread listing with
      | error fault => exact .faulted hlisting hplans
      | ok plans =>
          exact .planned hlisting hplans
            (execution_runPlans topology endpoint plans.length plans listed _)
  | empty id word =>
      exact course_runPlan hlisting (fun _ h ↦ h) (fun _ h ↦ ⟨rfl, h⟩) (fun plan h ↦ ⟨plan, rfl, h⟩)
        rfl
  | merge target source =>
      exact course_runPlan hlisting (fun _ h ↦ h) (fun _ h ↦ ⟨rfl, h⟩) (fun plan h ↦ ⟨plan, rfl, h⟩)
        rfl

end

/-- Every migration asks for the listing exactly once and then does nothing but reshard, all of it
at its endpoint. It reshards only by the plans that planning finds, in their order, and up to the
first that fails, which its error tells of. -/
theorem course_migrate (topology : Topology State) (endpoint : Endpoint) (goal : Goal)
    (state : State) (earlier : List Call) :
    Course topology endpoint goal state earlier
      (goal.migrate topology.recording endpoint (state, earlier)) := by
  rw [Goal.migrate_eq, Topology.recording_listing]
  cases hlisting : topology.listing endpoint state with
  | error fault => exact .unanswered hlisting
  | ok answer =>
      obtain ⟨result, listed⟩ := answer
      cases result with
      | error cause => exact .unlisted hlisting
      | ok listing => exact course_proceed goal hlisting

-- two of three masters own no slots, and the second reshard fails
example :
    let master : Node := { flags := ⟨["master"]⟩ }
    let script : Script :=
      { replies := [.ok ⟨[{ master with id := "a", slots := [⟨0, 16383⟩] },
          { master with id := "b" }, { master with id := "c" }]⟩]
        reshardError := fun number ↦
          if number = 2 then some (.invalidConfiguration "full") else none
        cancelled := false }
    let endpoint : Endpoint := ⟨"127.0.0.1", 7000⟩
    (Goal.spread.migrate script.topology.recording endpoint (script.start, [])).map
        (fun (result, _, calls) ↦ (result, calls)) =
      .ok (.error (.interrupted ⟨2, 2, "c", ["b"], .invalidConfiguration "full"⟩),
        [.listing endpoint, .reshard endpoint ⟨"b", .all, 5461⟩,
          .reshard endpoint ⟨"c", .all, 5461⟩]) := by
  rfl

/-! ## Forgetting the calls -/

/-- Plans run the same without a list of the calls. -/
theorem forget_runPlans (topology : Topology State) (endpoint : Endpoint) (total : Nat)
    (completed plans : List Plan) (state : State) (calls : List Call) :
    (runPlans topology.recording endpoint total completed plans (state, calls)).map
        Topology.forget =
      runPlans topology endpoint total completed plans state := by
  induction plans generalizing completed state calls with
  | nil => rfl
  | cons plan plans ih =>
      rw [runPlans, runPlans, Topology.recording_reshard]
      cases topology.reshard endpoint plan state with
      | error fault => rfl
      | ok outcome =>
          obtain ⟨result, after⟩ := outcome
          cases result with
          | error cause => rfl
          | ok => exact ih _ _ _

/-- The only plan runs the same without a list of the calls. -/
theorem forget_runPlan (topology : Topology State) (endpoint : Endpoint) (operation : String)
    (planned : Except Refusal Plan) (state : State) (calls : List Call) :
    (runPlan topology.recording endpoint operation planned (state, calls)).map Topology.forget =
      runPlan topology endpoint operation planned state := by
  cases planned with
  | error refusal => rfl
  | ok plan =>
      rw [runPlan, runPlan, Topology.recording_reshard]
      cases topology.reshard endpoint plan state with
      | error fault => rfl
      | ok outcome =>
          obtain ⟨result, after⟩ := outcome
          cases result <;> rfl

/-- Once it has the listing, a migration goes the same without a list of the calls. -/
theorem forget_proceed (topology : Topology State) (endpoint : Endpoint) (goal : Goal)
    (listing : Listing) (state : State) (calls : List Call) :
    (goal.proceed topology.recording endpoint listing (state, calls)).map Topology.forget =
      goal.proceed topology endpoint listing state := by
  cases goal with
  | spread =>
      rw [Goal.proceed, Goal.proceed]
      cases Planning.spread listing with
      | error fault => rfl
      | ok plans => exact forget_runPlans topology endpoint plans.length [] plans state calls
  | empty id word =>
      rw [Goal.proceed, Goal.proceed]
      cases Planning.empty listing id word with
      | error fault => rfl
      | ok planned => exact forget_runPlan topology endpoint emptyOperation planned state calls
  | merge target source =>
      rw [Goal.proceed, Goal.proceed]
      cases Planning.merge listing target source with
      | error fault => rfl
      | ok planned => exact forget_runPlan topology endpoint mergeOperation planned state calls

/-- A migration has the same result without a list of the calls, and leaves the same state. -/
theorem forget_migrate (topology : Topology State) (endpoint : Endpoint) (goal : Goal)
    (state : State) (calls : List Call) :
    (goal.migrate topology.recording endpoint (state, calls)).map Topology.forget =
      goal.migrate topology endpoint state := by
  rw [Goal.migrate_eq, Goal.migrate_eq, Topology.recording_listing]
  cases topology.listing endpoint state with
  | error fault => rfl
  | ok answer =>
      obtain ⟨result, listed⟩ := answer
      cases result with
      | error cause => rfl
      | ok listing => exact forget_proceed topology endpoint goal listing listed _

end Migration

end ClusterSteward
