import ClusterSteward.Proofs.Migration.Course
import ClusterSteward.Proofs.Sequencing
import ClusterSteward.Tool.Administration
import ClusterSteward.Tool.Rehearsal

/-!
# How migrations through the tool fail

An error of a migration says whether the migration was turned down before it changed anything, and
whether it was cancelled. It says the first also when it reports a call that was asked for wrongly;
the tool has such calls, but a migration makes none of them. Main statements:
`Migration.refused_or_reported`, which says how a migration fails on any topology, and
`AdminTool.classified_of_migrate`, which says what its error means when the topology is the tool.
-/

namespace ClusterSteward

/-! ## Errors -/

namespace MigrationError

/-- The failure of a call that the error reports, by itself or for the step that failed. -/
def toolError? : MigrationError → Option ToolError
  | tool failure => some failure
  | refused .. => none
  | interrupted interruption => some interruption.cause
  | unwritable _ => none

variable {cause : MigrationError} {failure : ToolError}

/-- An error tells of a cancellation exactly when it reports a call that was cancelled. -/
theorem isCancelled_iff : cause.isCancelled = true ↔
    ∃ command arguments, cause.toolError? = some (.cancelled command arguments) := by
  have htool : ∀ failure : ToolError, failure.isCancelled = true ↔
      ∃ command arguments, failure = .cancelled command arguments := by
    intro failure
    cases failure <;> simp [ToolError.isCancelled]
  cases cause with
  | tool failure => simpa [isCancelled, toolError?] using htool failure
  | refused operation refusal => simp [isCancelled, toolError?]
  | interrupted interruption => simpa [isCancelled, toolError?] using htool interruption.cause
  | unwritable problem => simp [isCancelled, toolError?]

/-- An error that reports a call tells of a precondition only if the call was asked for wrongly. -/
theorem isInvalidConfiguration_of_isPrecondition (hfailure : cause.toolError? = some failure)
    (hprecondition : cause.isPrecondition = true) : failure.isInvalidConfiguration = true := by
  cases cause with
  | tool reported => exact Option.some.inj hfailure ▸ hprecondition
  | refused operation refusal => cases hfailure
  | interrupted interruption => cases hprecondition
  | unwritable problem => cases hprecondition

end MigrationError

/-! ## Topologies -/

/-- A call that is made through the endpoint fails and leaves the given state. -/
inductive Topology.Fails {State : Type} (topology : Topology State) (endpoint : Endpoint)
    (failure : ToolError) (after : State) : Prop where
  | listing {before : State}
      (hlisting : topology.listing endpoint before = .ok (.error failure, after))
  | reshard {plan : Plan} {before : State}
      (hreshard : topology.reshard endpoint plan before = .ok (.error failure, after))

namespace Migration

variable {State : Type} {topology : Topology State} {endpoint : Endpoint} {goal : Goal}
  {state after : State} {cause : MigrationError}

/-- A goal reports a failed plan by the failure of its call. -/
theorem Goal.toolError?_failure (goal : Goal) (total : Nat) (done : List Plan) (plan : Plan)
    (failure : ToolError) : (goal.failure total done plan failure).toolError? = some failure := by
  cases goal <;> rfl

/-- A migration that fails was refused on the listing, after which it has called nothing, or reports
the call that it ended with. -/
theorem refused_or_reported
    (h : goal.migrate topology endpoint state = .ok (.error cause, after)) :
    (∃ listing operation refusal, cause = .refused operation refusal ∧
        topology.listing endpoint state = .ok (.ok listing, after)) ∨
      ∃ failure, cause.toolError? = some failure ∧ topology.Fails endpoint failure after := by
  rw [Goal.migrate_eq] at h
  obtain ⟨⟨result, listed⟩, hlisting, hrest⟩ := bind_eq_ok_iff.1 h
  cases result with
  | error failure =>
      obtain ⟨rfl, rfl⟩ : .tool failure = cause ∧ listed = after := by simpa using hrest
      exact .inr ⟨failure, rfl, .listing hlisting⟩
  | ok listing =>
      -- the same run that keeps its calls says how far it got
      have hforget :=
        (forget_proceed topology endpoint goal listing listed [.listing endpoint]).trans hrest
      have hcourse : Course topology endpoint goal state [] _ := course_proceed goal hlisting
      rw [List.nil_append] at hcourse
      cases hrun : goal.proceed topology.recording endpoint listing
          (listed, [.listing endpoint]) with
      | error fault =>
          rw [hrun] at hforget
          cases hforget
      | ok outcome =>
          obtain ⟨ended, last, calls⟩ := outcome
          rw [hrun] at hforget hcourse
          obtain ⟨rfl, rfl⟩ : ended = .error cause ∧ last = after := by
            simpa [Except.map, Topology.forget] using hforget
          cases hcourse with
          | unlisted hlisting' => exact .inr ⟨_, rfl, .listing hlisting'⟩
          | refused hlisting' hrefused => exact .inl ⟨_, _, _, rfl, hlisting'⟩
          | planned _ _ hexecution =>
              cases hexecution with
              | failed _ _ hfailed =>
                  exact .inr ⟨_, goal.toolError?_failure .., .reshard hfailed⟩

end Migration

/-! ## The admin tool -/

namespace Machine

variable (environment : Environment) (configuration : Configuration) (arguments : List String)
  (machine : Machine)

/-- A process that cannot be waited for was not asked for wrongly. -/
theorem isInvalidConfiguration_unwaited (program : String) (arguments : List String)
    (input : Option (List UInt8)) (cause : SystemError) :
    (unwaited program arguments input cause).isInvalidConfiguration = false := by
  cases input <;> rfl

/-- A run of the tool succeeds and has started one process, or fails, but never because it was asked
for wrongly. -/
theorem runBatch_cases (input : Option (List UInt8)) :
    (∃ output after readings,
        machine.runBatch environment configuration arguments input = (.ok output, after) ∧
        after.started = machine.started ++
          [⟨configuration.command, configuration.fullArguments arguments, readings⟩]) ∨
      ∃ failure after,
        machine.runBatch environment configuration arguments input = (.error failure, after) ∧
        failure.isInvalidConfiguration = false := by
  rw [runBatch]
  split
  next => exact .inr ⟨_, _, rfl, rfl⟩
  next =>
    split
    next => exact .inr ⟨_, _, rfl, rfl⟩
    next =>
      dsimp only
      split
      next => exact .inr ⟨_, _, rfl, isInvalidConfiguration_unwaited ..⟩
      next => exact .inr ⟨_, _, rfl, rfl⟩
      next =>
        split
        next => exact .inl ⟨_, _, _, rfl, rfl⟩
        next => exact .inr ⟨_, _, rfl, rfl⟩

/-- A dialogue with the tool succeeds or fails, but never because it was asked for wrongly. -/
theorem runDialogue_cases (reactions : List Prompt.Reaction) :
    (∃ after, machine.runDialogue environment configuration arguments reactions =
        (.ok (), after)) ∨
      ∃ failure after, machine.runDialogue environment configuration arguments reactions =
        (.error failure, after) ∧ failure.isInvalidConfiguration = false := by
  rw [runDialogue]
  split
  next => exact .inr ⟨_, _, rfl, rfl⟩
  next =>
    dsimp only
    split
    next => exact .inr ⟨_, _, rfl, rfl⟩
    next =>
      split
      next => exact .inr ⟨_, _, rfl, rfl⟩
      next => exact .inl ⟨_, rfl⟩
      next => exact .inr ⟨_, _, rfl, rfl⟩
      next => exact .inr ⟨_, _, rfl, rfl⟩

end Machine

namespace AdminTool

variable {tool : AdminTool} {endpoint : Endpoint} {machine after : Machine} {failure : ToolError}

/-- The process that the tool is run as for a request, and what it read. -/
def process (tool : AdminTool) (request : Request) (readings : Readings) : ProcessRecord :=
  ⟨tool.configuration.command, tool.configuration.fullArguments request.arguments, readings⟩

/-- The process of a listing is not one of a reshard. -/
theorem process_listing_ne (tool : AdminTool) (endpoint other : Endpoint)
    (readings others : Readings) :
    tool.process (.listing endpoint) readings ≠ tool.process (.reshard other) others := by
  intro h
  have hfull : tool.configuration.fullArguments (Request.listing endpoint).arguments =
      tool.configuration.fullArguments (Request.reshard other).arguments :=
    congrArg ProcessRecord.arguments h
  -- the first argument tells them apart, whether or not there is a credential behind them
  cases hpassword : tool.configuration.password <;>
    simp [Configuration.fullArguments, hpassword, Request.arguments, Request.reach] at hfull

/-- A listing is given by one process, or fails, but never because it was asked for wrongly. -/
theorem listing_cases (tool : AdminTool) (endpoint : Endpoint) (machine : Machine) :
    (∃ given after readings, tool.listing endpoint machine = (.ok given, after) ∧
        after.started = machine.started ++ [tool.process (.listing endpoint) readings]) ∨
      ∃ failure after, tool.listing endpoint machine = (.error failure, after) ∧
        failure.isInvalidConfiguration = false := by
  rw [listing, perform]
  rcases machine.runBatch_cases tool.environment tool.configuration
      (Request.listing endpoint).arguments none with
    ⟨output, last, readings, hrun, hstarted⟩ | ⟨failure, last, hrun, hfailure⟩
  · rw [hrun]
    exact .inl ⟨_, _, _, rfl, hstarted⟩
  · rw [hrun]
    exact .inr ⟨_, _, rfl, hfailure⟩

/-- A listing that is given is that of one process. -/
theorem started_of_listing {given : Listing}
    (h : tool.listing endpoint machine = (.ok given, after)) :
    ∃ readings, after.started = machine.started ++ [tool.process (.listing endpoint) readings] := by
  rcases tool.listing_cases endpoint machine with
    ⟨_, _, readings, hgiven, hstarted⟩ | ⟨_, _, hfailed, -⟩
  · cases h.symm.trans hgiven
    exact ⟨readings, hstarted⟩
  · cases h.symm.trans hfailed

/-- No call that a migration makes to the tool is asked for wrongly. -/
theorem isInvalidConfiguration_of_fails (h : tool.topology.Fails endpoint failure after) :
    failure.isInvalidConfiguration = false := by
  cases h with
  | @listing before hlisting =>
      have hrun := Except.ok.inj hlisting
      rcases tool.listing_cases endpoint before with
        ⟨_, _, _, hgiven, -⟩ | ⟨cause, _, hfailed, hcause⟩
      · cases hrun.symm.trans hgiven
      · cases hrun.symm.trans hfailed
        exact hcause
  | @reshard plan before hreshard =>
      have hrun : before.runDialogue .. = _ := Except.ok.inj hreshard
      rcases before.runDialogue_cases tool.environment tool.configuration
          (Request.reshard endpoint).arguments (Prompt.Reaction.ofPlan plan) with
        ⟨_, hcompleted⟩ | ⟨cause, _, hfailed, hcause⟩
      · cases hrun.symm.trans hcompleted
      · cases hrun.symm.trans hfailed
        exact hcause

/-- When a migration through the tool fails for a precondition, it has started nothing but the
process that gave the listing, and no reshard. It tells of a cancellation exactly when it reports a
call that was cancelled. The call that it reports is the one that it ended with, and was asked for
rightly. -/
theorem classified_of_migrate (tool : AdminTool) (goal : Migration.Goal) (endpoint : Endpoint)
    (machine after : Machine) (cause : MigrationError)
    (h : goal.migrate tool.topology endpoint machine = .ok (.error cause, after)) :
    (cause.isPrecondition = true →
        (∃ readings, after.started =
          machine.started ++ [tool.process (.listing endpoint) readings]) ∧
        ∀ other readings,
          tool.process (.reshard other) readings ∉ after.started.drop machine.started.length) ∧
      (cause.isCancelled = true ↔
        ∃ command arguments, cause.toolError? = some (.cancelled command arguments)) ∧
      ∀ failure, cause.toolError? = some failure →
        tool.topology.Fails endpoint failure after ∧ failure.isInvalidConfiguration = false := by
  rcases Migration.refused_or_reported h with
    ⟨given, operation, refusal, rfl, hlisting⟩ | ⟨reported, hreported, hfails⟩
  · obtain ⟨readings, hstarted⟩ := started_of_listing (Except.ok.inj hlisting)
    refine ⟨fun _ => ⟨⟨readings, hstarted⟩, fun other others hmem => ?_⟩,
      MigrationError.isCancelled_iff, nofun⟩
    rw [hstarted, List.drop_left, List.mem_singleton] at hmem
    exact tool.process_listing_ne endpoint other readings others hmem.symm
  · have hasked := isInvalidConfiguration_of_fails hfails
    refine ⟨fun hprecondition => ?_, MigrationError.isCancelled_iff, fun failure hfailure => ?_⟩
    · have hwrongly :=
        MigrationError.isInvalidConfiguration_of_isPrecondition hreported hprecondition
      cases hasked.symm.trans hwrongly
    · obtain rfl := Option.some.inj (hreported.symm.trans hfailure)
      exact ⟨hfails, hasked⟩

/-- A tool whose listing has one master. -/
def rehearsed : AdminTool where
  environment := Rehearsal.environment
    "print a 10.0.0.1:7000@17000 master - 0 0 1 connected 0-16383"
  configuration := Configuration.withPassword {} "secret"

/-- A rehearsed merge of a node that the listing does not name starts one process, which is no
reshard. -/
theorem classified_of_migrate_rehearsed :
    let endpoint : Endpoint := ⟨"10.0.0.1", 7000⟩
    let cause : MigrationError := .refused Migration.mergeOperation (.nodeNotFound "b")
    let after : Machine := ⟨[rehearsed.process (.listing endpoint) []], false⟩
    (Migration.Goal.merge "a" "b").migrate rehearsed.topology endpoint {} =
        .ok (.error cause, after) ∧
      cause.isPrecondition = true ∧
      (∃ readings, after.started = [rehearsed.process (.listing endpoint) readings]) ∧
      ∀ other readings, rehearsed.process (.reshard other) readings ∉ after.started := by
  intro endpoint cause after
  have hmigrate : (Migration.Goal.merge "a" "b").migrate rehearsed.topology endpoint {} =
      .ok (.error cause, after) := by
    decide +kernel
  obtain ⟨hprecondition, -, -⟩ :=
    classified_of_migrate rehearsed (.merge "a" "b") endpoint {} after cause hmigrate
  obtain ⟨hlisting, hreshard⟩ := hprecondition rfl
  exact ⟨hmigrate, rfl, hlisting, hreshard⟩

end AdminTool

end ClusterSteward
