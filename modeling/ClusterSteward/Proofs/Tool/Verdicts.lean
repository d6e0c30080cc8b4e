import ClusterSteward.Tool.Administration
import ClusterSteward.Tool.Rehearsal

/-!
# What the end of a process is reported as

Whatever the status of a process that moved slots, and whether or not it was torn down and cancelled,
its end has one verdict. A process that ends well completes its plan, one that dies of a signal may
have done so because it was torn down, and one that exits with another code has failed on its own: it
never counts as a success, but as a cancellation when it exits while it is torn down for one. Main
statement: `AdminTool.reshard_judged`.
-/

namespace ClusterSteward

/-! ## Verdicts -/

namespace WaitStatus

variable {status : WaitStatus} {tornDown cancelled : Bool}

/-- A process that did not end well was ended by a closed pipe, or by some signal after it was torn
down. -/
def EndedFromOutside (status : WaitStatus) (tornDown : Bool) : Prop :=
  ∃ signal dumped, status = .signaled signal dumped ∧
    (signal = brokenPipeSignal ∨ tornDown = true)

/-- Whether a process was ended from outside is seen by its status. -/
theorem endedByTeardown_iff :
    status.endedByTeardown tornDown = true ↔ status.EndedFromOutside tornDown := by
  cases status <;> simp [endedByTeardown, EndedFromOutside]

/-- A process that exits was not ended from outside. -/
theorem not_endedFromOutside_exited (code : Nat) (tornDown : Bool) :
    ¬ (exited code).EndedFromOutside tornDown := by
  rintro ⟨_, _, heq, -⟩
  cases heq

/-- A process completes its plan exactly when it ends well or is ended from outside, and not for a
cancellation. -/
theorem verdict_eq_completed_iff : status.verdict tornDown cancelled = .completed ↔
    status = .exited 0 ∨ status.EndedFromOutside tornDown ∧ (tornDown && cancelled) = false := by
  rw [← endedByTeardown_iff, verdict, isSuccess]
  by_cases hsuccess : status = .exited 0
  · simp [hsuccess]
  · cases tornDown && cancelled <;> simp [hsuccess]

/-- A process fails exactly when it neither ends well nor is ended from outside, and was not torn down
for a cancellation. -/
theorem verdict_eq_failed_iff : status.verdict tornDown cancelled = .failed ↔
    status ≠ .exited 0 ∧ ¬ status.EndedFromOutside tornDown ∧ (tornDown && cancelled) = false := by
  rw [← endedByTeardown_iff, verdict, isSuccess]
  by_cases hsuccess : status = .exited 0
  · simp [hsuccess]
  · cases tornDown && cancelled <;> simp [hsuccess]

/-- What the verdict on a process says about its end. -/
structure Judged (status : WaitStatus) (tornDown cancelled : Bool) (verdict : Verdict) : Prop where
  /-- An exit with code zero completes the plan, whatever else happened. -/
  exited_zero : status = .exited 0 → verdict = .completed
  /-- An exit with another code never completes the plan, and fails unless the process was torn down
  for a cancellation. -/
  exited_other : ∀ code, code ≠ 0 → status = .exited code →
    verdict = if tornDown && cancelled then .cancelled else .failed
  /-- A cancellation is reported exactly of a process that did not end well and was torn down for the
  cancellation. -/
  cancelled_iff : verdict = .cancelled ↔
    status ≠ .exited 0 ∧ tornDown = true ∧ cancelled = true
  /-- A process completes its plan exactly when it ends well or is ended from outside, and not for a
  cancellation. -/
  completed_iff : verdict = .completed ↔
    status = .exited 0 ∨ status.EndedFromOutside tornDown ∧ (tornDown && cancelled) = false
  /-- Death of a signal is a failure when it comes neither from a closed pipe nor from tearing the
  process down. -/
  signaled : ∀ signal dumped, status = .signaled signal dumped → signal ≠ brokenPipeSignal →
    tornDown = false → verdict = .failed

/-- Every verdict says so much. -/
theorem judged_verdict (status : WaitStatus) (tornDown cancelled : Bool) :
    Judged status tornDown cancelled (status.verdict tornDown cancelled) where
  exited_zero h := verdict_eq_completed_iff.2 (.inl h)
  exited_other code hcode h := by
    subst h
    have hne : exited code ≠ .exited 0 := fun heq => hcode (exited.inj heq)
    cases hteardown : tornDown && cancelled with
    | true =>
        obtain ⟨htornDown, hcancelled⟩ := Bool.and_eq_true_iff.1 hteardown
        exact verdict_eq_cancelled_iff.2 ⟨hne, htornDown, hcancelled⟩
    | false =>
        exact verdict_eq_failed_iff.2 ⟨hne, not_endedFromOutside_exited code tornDown, hteardown⟩
  cancelled_iff := verdict_eq_cancelled_iff
  completed_iff := verdict_eq_completed_iff
  signaled signal dumped h hsignal htornDown := by
    subst h htornDown
    refine verdict_eq_failed_iff.2 ⟨nofun, ?_, rfl⟩
    rintro ⟨_, _, heq, hpipe | htornDown⟩
    · cases heq
      exact hsignal hpipe
    · cases htornDown

/-- A process that exits with code one while it is torn down for a cancellation has failed on its own,
but its end is reported as the cancellation. -/
theorem verdict_exited_ne_failed :
    let status := ofWord 0x100
    status = .exited 1 ∧ status.verdict true true ≠ .failed ∧
      status.verdict true true = .cancelled := by
  decide

end WaitStatus

/-! ## Reports -/

/-- The result of moving slots that reports a verdict on the process. -/
def Verdict.report (program : String) (arguments : List String) (status : WaitStatus) :
    Verdict → Except ToolError Unit
  | completed => .ok ()
  | cancelled => .error (.cancelled program arguments)
  | failed => .error (.exited program arguments status)

namespace Machine

variable (environment : Environment) (configuration : Configuration) (arguments : List String)
  (reactions : List Prompt.Reaction) (machine : Machine)

/-- The process of a dialogue can be started, its pipes can be captured, and its end can be waited
for. -/
structure CanTalk : Prop where
  starts : obstacle? environment configuration.command (configuration.fullArguments arguments) = none
  piped : (environment.circumstances machine.started.length
    (configuration.fullArguments arguments)).unpiped = false
  waited : (environment.circumstances machine.started.length
    (configuration.fullArguments arguments)).waitFailure = none

/-- A dialogue that can be held reports the verdict on its process. -/
theorem runDialogue_eq (h : machine.CanTalk environment configuration arguments) :
    let run := machine.dialogueRun environment configuration arguments reactions
    machine.runDialogue environment configuration arguments reactions =
      ((run.status.verdict run.tornDown (machine.cancelled || run.interrupted)).report
          configuration.command arguments run.status,
        (machine.record configuration.command (configuration.fullArguments arguments)
          run.readings).cancelIf run.interrupted) := by
  rw [runDialogue, h.starts]
  simp only [h.piped, h.waited, Bool.false_eq_true, if_false]
  generalize machine.dialogueRun environment configuration arguments reactions = run
  -- the machine is cancelled after the dialogue when it was before or the dialogue was interrupted
  have hcancelled : ((machine.record configuration.command (configuration.fullArguments arguments)
      run.readings).cancelIf run.interrupted).cancelled =
        (machine.cancelled || run.interrupted) := rfl
  rw [hcancelled]
  cases run.status.verdict run.tornDown (machine.cancelled || run.interrupted) <;> rfl

end Machine

namespace AdminTool

/-- The process that carries out a plan can be started and talked to. -/
def CanReshard (tool : AdminTool) (endpoint : Endpoint) : Prop :=
  ∀ machine : Machine,
    machine.CanTalk tool.environment tool.configuration (Request.reshard endpoint).arguments

/-- Whatever its status, the end of a process gets a verdict by whether it was torn down and cancelled,
and when the process that carries out a plan ends so, the verdict is what is reported of the plan. -/
theorem reshard_judged (status : WaitStatus) (tornDown cancelled : Bool) :
    WaitStatus.Judged status tornDown cancelled (status.verdict tornDown cancelled) ∧
    ∀ (tool : AdminTool) (endpoint : Endpoint) (plan : Plan) (machine : Machine),
      tool.CanReshard endpoint →
      let arguments := (Request.reshard endpoint).arguments
      let run := machine.dialogueRun tool.environment tool.configuration arguments
        (Prompt.Reaction.ofPlan plan)
      run.status = status → run.tornDown = tornDown →
      (machine.cancelled || run.interrupted) = cancelled →
      (tool.reshard endpoint plan machine).1 =
        (status.verdict tornDown cancelled).report tool.configuration.command arguments status := by
  refine ⟨WaitStatus.judged_verdict status tornDown cancelled, fun tool endpoint plan machine h => ?_⟩
  have hrun := machine.runDialogue_eq tool.environment tool.configuration
    (Request.reshard endpoint).arguments (Prompt.Reaction.ofPlan plan) (h machine)
  rintro arguments run rfl rfl rfl
  exact congrArg Prod.fst hrun

/-- A tool that exits with code three after its first question, on a machine where nothing is
cancelled, is reported to have failed. -/
theorem reshard_judged_failing :
    let tool : AdminTool :=
      ⟨Rehearsal.environment "ask How many slots do you want to move?\nexit 3", {}⟩
    let endpoint : Endpoint := ⟨"10.0.0.1", 7000⟩
    let plan : Plan := ⟨"a", .node "b", 5⟩
    tool.CanReshard endpoint ∧
      (tool.reshard endpoint plan {}).1 =
        .error (.exited "valkey-cli" (Request.reshard endpoint).arguments (.exited 3)) := by
  intro tool endpoint plan
  have hstart : tool.CanReshard endpoint := fun _ => ⟨by decide +kernel, rfl, rfl⟩
  have hrun :
      let run := Machine.dialogueRun tool.environment tool.configuration
        (Request.reshard endpoint).arguments (Prompt.Reaction.ofPlan plan) {}
      run.status = .exited 3 ∧ run.tornDown = false ∧ run.interrupted = false := by
    decide +kernel
  obtain ⟨hstatus, htornDown, hinterrupted⟩ := hrun
  obtain ⟨hjudged, hreported⟩ := reshard_judged (.exited 3) false false
  have hreport := hreported tool endpoint plan {} hstart hstatus htornDown hinterrupted
  rw [hjudged.exited_other 3 (by decide) rfl] at hreport
  exact ⟨hstart, hreport⟩

end AdminTool

end ClusterSteward
