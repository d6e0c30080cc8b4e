import Mathlib.Data.List.Forall2
import ClusterSteward.Proofs.Migration.Correspondence
import ClusterSteward.Tool.Administration
import ClusterSteward.Tool.Rehearsal

/-!
# Credentials

The credential of a configuration goes into the processes that are started and nowhere else. Two
credentials give two runs of the same operations, which are compared here. Main statement:
`credential_hidden`.
-/

namespace ClusterSteward

/-! ## Operations one after another -/

namespace AdminTool

/-- An operation of the tool, or a migration that is run with it. -/
inductive Operation where
  | create (addresses : List String) (replicas : Nat)
  | listing (endpoint : Endpoint)
  | report (endpoint : Endpoint)
  | slotless (endpoint : Endpoint)
  | execute (request : Request)
  | reshard (endpoint : Endpoint) (plan : Plan)
  | migrate (goal : Migration.Goal) (endpoint : Endpoint)
  /-- Go on under a cancellation of their own for the operations that follow, which may have come
  already. -/
  | renew (cancelled : Bool)

/-- What an operation gives. -/
inductive Answer where
  | done (result : Except ToolError Unit)
  | listing (result : Except ToolError Listing)
  | report (result : Except ToolError Report)
  | slotless (result : Except ToolError (List String × Nat))
  | migrated (result : Counted (Except MigrationError Migrated))

/-- The answer of a migration. One that ends in a fault has got as far as its listing, which leaves
the given machine. -/
def settle (listed : Machine) :
    Counted (Except MigrationError Migrated × Machine) → Answer × Machine
  | .ok (result, after) => (.migrated (.ok result), after)
  | .error fault => (.migrated (.error fault), listed)

/-- Migrations that correspond have the same answer. -/
theorem agree_settle {related : Machine → Machine → Prop} {listed other : Machine}
    {left right : Counted (Except MigrationError Migrated × Machine)}
    (hlisted : related listed other) (h : Corresponds related left right) :
    Agree related (settle listed left) (settle other right) := by
  cases h with
  | value hagree => exact hagree.map fun result => Answer.migrated (.ok result)
  | fault fault => exact ⟨rfl, hlisted⟩

/-- Carry out an operation. -/
def carryOut (tool : AdminTool) (machine : Machine) : Operation → Answer × Machine
  | .create addresses replicas =>
      let (result, after) := tool.create addresses replicas machine
      (.done result, after)
  | .listing endpoint =>
      let (result, after) := tool.listing endpoint machine
      (.listing result, after)
  | .report endpoint =>
      let (result, after) := tool.report endpoint machine
      (.report result, after)
  | .slotless endpoint =>
      let (result, after) := tool.slotless endpoint machine
      (.slotless result, after)
  | .execute request =>
      let (result, after) := tool.execute request machine
      (.done result, after)
  | .reshard endpoint plan =>
      let (result, after) := tool.reshard endpoint plan machine
      (.done result, after)
  | .migrate goal endpoint =>
      settle (tool.listing endpoint machine).2 (goal.migrate tool.topology endpoint machine)
  | .renew cancelled => (.done (.ok ()), { machine with cancelled })

/-- Carry out operations one after another. -/
def carryOutAll (tool : AdminTool) : List Operation → Machine → List Answer × Machine
  | [], machine => ([], machine)
  | operation :: operations, machine =>
      let (answer, after) := tool.carryOut machine operation
      let (answers, last) := tool.carryOutAll operations after
      (answer :: answers, last)

end AdminTool

/-! ## Two credentials -/

/-- Two processes are the same except for the credential behind the last `-a`. -/
structure SameButCredential (credential other : String) (left right : ProcessRecord) : Prop where
  program_eq : left.program = right.program
  readings_eq : left.readings = right.readings
  arguments_eq : ∃ plain, left.arguments = plain ++ ["-a", credential] ∧
    right.arguments = plain ++ ["-a", other]

/-- Two machines have started the same processes since the `earlier` ones, except for the
credential. -/
structure Machine.Alike (earlier : List ProcessRecord) (credential other : String)
    (left right : Machine) : Prop where
  cancelled_eq : left.cancelled = right.cancelled
  started_eq : ∃ leftNew rightNew, left.started = earlier ++ leftNew ∧
    right.started = earlier ++ rightNew ∧
    List.Forall₂ (SameButCredential credential other) leftNew rightNew

/-- The processes do the same and meet with the same, whatever their arguments are. -/
structure Environment.Indifferent (environment : Environment) : Prop where
  behaviour_eq : ∀ number arguments others,
    environment.behaviour number arguments = environment.behaviour number others
  circumstances_eq : ∀ number arguments others,
    environment.circumstances number arguments = environment.circumstances number others

/-- The system starts a program with one credential whenever it starts it with the other, and
otherwise gives the same reason. -/
def Environment.StartsAlike (environment : Environment) (credential other : String) : Prop :=
  ∀ program arguments, environment.rejection program (arguments ++ ["-a", credential]) =
    environment.rejection program (arguments ++ ["-a", other])

/-- The processes of a rehearsal do the same whatever their arguments are. -/
theorem Rehearsal.indifferent_environment (text : String) : (environment text).Indifferent :=
  ⟨fun _ _ _ => rfl, fun _ _ _ => rfl⟩

/-- Credentials that are short enough for an argument make no difference to the start of a program
in a rehearsal. -/
theorem Rehearsal.startsAlike_environment (text : String) {credential other : String}
    (hcredential : credential.utf8ByteSize < argumentLimit)
    (hother : other.utf8ByteSize < argumentLimit) :
    (environment text).StartsAlike credential other := by
  intro program arguments
  simp [environment, refuseLong, Nat.not_le.2 hcredential, Nat.not_le.2 hother]

namespace Machine

variable {earlier : List ProcessRecord} {credential other : String} {left right : Machine}

/-- A machine is like itself before anything is started. -/
theorem alike_self (machine : Machine) : Alike machine.started credential other machine machine :=
  ⟨rfl, [], [], by simp, by simp, .nil⟩

namespace Alike

/-- Machines that are alike have started equally many processes. -/
theorem length_eq (h : Alike earlier credential other left right) :
    left.started.length = right.started.length := by
  obtain ⟨leftNew, rightNew, hleft, hright, hnew⟩ := h.started_eq
  rw [hleft, hright, List.length_append, List.length_append, hnew.length_eq]

/-- One more process each, the same except for the credential, leaves machines alike. -/
theorem record (h : Alike earlier credential other left right) (program : String)
    (arguments : List String) (readings : Readings) :
    Alike earlier credential other
      (left.record program (arguments ++ ["-a", credential]) readings)
      (right.record program (arguments ++ ["-a", other]) readings) := by
  obtain ⟨leftNew, rightNew, hleft, hright, hnew⟩ := h.started_eq
  have hlast : SameButCredential credential other
      ⟨program, arguments ++ ["-a", credential], readings⟩
      ⟨program, arguments ++ ["-a", other], readings⟩ :=
    ⟨rfl, rfl, arguments, rfl, rfl⟩
  refine ⟨h.cancelled_eq, _, _, ?_, ?_, List.rel_append hnew (.cons hlast .nil)⟩
  · rw [Machine.record, hleft, List.append_assoc]
  · rw [Machine.record, hright, List.append_assoc]

/-- A cancellation of both leaves machines alike. -/
theorem cancelIf (h : Alike earlier credential other left right) (interrupted : Bool) :
    Alike earlier credential other (left.cancelIf interrupted) (right.cancelIf interrupted) :=
  ⟨by simp [Machine.cancelIf, h.cancelled_eq], h.started_eq⟩

/-- Machines stay alike when it is set whether they are cancelled. -/
theorem renew (h : Alike earlier credential other left right) (cancelled : Bool) :
    Alike earlier credential other { left with cancelled } { right with cancelled } :=
  ⟨rfl, h.started_eq⟩

end Alike

end Machine

namespace Configuration

variable {credential other : String}

/-- A credential that is not empty is taken up. -/
theorem withPassword_of_ne_empty (configuration : Configuration) (h : credential ≠ "") :
    configuration.withPassword credential =
      { configuration with password := some credential } := by
  simp [withPassword, h]

/-- The credential goes behind the arguments. -/
theorem fullArguments_withPassword (configuration : Configuration) (h : credential ≠ "")
    (arguments : List String) :
    (configuration.withPassword credential).fullArguments arguments =
      arguments ++ ["-a", credential] := by
  rw [configuration.withPassword_of_ne_empty h]
  rfl

/-- The credential does not change the command. -/
theorem command_withPassword (configuration : Configuration) (credential : String) :
    (configuration.withPassword credential).command = configuration.command :=
  rfl

/-- A description only tells that there is a credential. -/
theorem description_withPassword (configuration : Configuration) (h : credential ≠ "")
    (hother : other ≠ "") :
    (configuration.withPassword credential).description =
      (configuration.withPassword other).description := by
  have hpassword : (configuration.withPassword credential).password.map (fun _ => redacted) =
      (configuration.withPassword other).password.map fun _ => redacted := by
    rw [configuration.withPassword_of_ne_empty h, configuration.withPassword_of_ne_empty hother]
    rfl
  unfold description
  rw [hpassword]
  rfl

/-- A description of the tool tells no more. -/
theorem toolDescription_withPassword (configuration : Configuration) (h : credential ≠ "")
    (hother : other ≠ "") :
    (configuration.withPassword credential).toolDescription =
      (configuration.withPassword other).toolDescription := by
  unfold toolDescription
  rw [configuration.description_withPassword h hother]

end Configuration

/-! ## Runs of the tool -/

/-- A text that can be given to a process as a credential: it is not empty, and no character of it
ends an argument. -/
structure Credential (text : String) : Prop where
  ne_empty : text ≠ ""
  nul_not_mem : Machine.nul ∉ text.toList

/-- The environment does not tell two credentials apart. -/
structure Environment.Blind (environment : Environment) (credential other : String) : Prop where
  indifferent : environment.Indifferent
  startsAlike : environment.StartsAlike credential other
  credential : Credential credential
  other : Credential other

namespace Environment.Blind

variable {environment : Environment} {earlier : List ProcessRecord} {credential other : String}
  {left right : Machine} (hblind : environment.Blind credential other)
  (configuration : Configuration)

include hblind

/-- Whether a program can be started does not depend on the credential. -/
theorem obstacle?_eq (program : String) (arguments : List String) :
    Machine.obstacle? environment program (arguments ++ ["-a", credential]) =
      Machine.obstacle? environment program (arguments ++ ["-a", other]) := by
  simp [Machine.obstacle?, hblind.credential.nul_not_mem, hblind.other.nul_not_mem,
    hblind.startsAlike program arguments]

variable (h : Machine.Alike earlier credential other left right)

include h

/-- A process does the same with either credential. -/
theorem behaviour_eq (arguments : List String) :
    environment.behaviour left.started.length (arguments ++ ["-a", credential]) =
      environment.behaviour right.started.length (arguments ++ ["-a", other]) := by
  rw [h.length_eq]
  exact hblind.indifferent.behaviour_eq _ _ _

/-- A process meets with the same with either credential. -/
theorem circumstances_eq (arguments : List String) :
    environment.circumstances left.started.length (arguments ++ ["-a", credential]) =
      environment.circumstances right.started.length (arguments ++ ["-a", other]) := by
  rw [h.length_eq]
  exact hblind.indifferent.circumstances_eq _ _ _

/-- A batch run gives the same with either credential. -/
theorem agree_runBatch (arguments : List String) (input : Option (List UInt8)) :
    Agree (Machine.Alike earlier credential other)
      (left.runBatch environment (configuration.withPassword credential) arguments input)
      (right.runBatch environment (configuration.withPassword other) arguments input) := by
  simp only [Machine.runBatch, Configuration.command_withPassword,
    configuration.fullArguments_withPassword hblind.credential.ne_empty,
    configuration.fullArguments_withPassword hblind.other.ne_empty,
    hblind.behaviour_eq h, hblind.circumstances_eq h, hblind.obstacle?_eq, h.cancelled_eq]
  split
  next => exact ⟨rfl, h⟩
  next =>
    have hrecord := h.record configuration.command arguments
    split
    next => exact ⟨rfl, hrecord _⟩
    next =>
      split
      next => exact ⟨rfl, (hrecord _).cancelIf _⟩
      next => exact ⟨rfl, (hrecord _).cancelIf _⟩
      next =>
        split
        next => exact ⟨rfl, (hrecord _).cancelIf _⟩
        next => exact ⟨rfl, (hrecord _).cancelIf _⟩

/-- The process of a dialogue runs alike with either credential. -/
theorem dialogueRun_eq (arguments : List String) (reactions : List Prompt.Reaction) :
    left.dialogueRun environment (configuration.withPassword credential) arguments reactions =
      right.dialogueRun environment (configuration.withPassword other) arguments reactions := by
  simp only [Machine.dialogueRun,
    configuration.fullArguments_withPassword hblind.credential.ne_empty,
    configuration.fullArguments_withPassword hblind.other.ne_empty,
    hblind.behaviour_eq h, hblind.circumstances_eq h, h.cancelled_eq]

/-- A dialogue gives the same with either credential. -/
theorem agree_runDialogue (arguments : List String) (reactions : List Prompt.Reaction) :
    Agree (Machine.Alike earlier credential other)
      (left.runDialogue environment (configuration.withPassword credential) arguments reactions)
      (right.runDialogue environment (configuration.withPassword other) arguments reactions) := by
  have hrecord := h.record configuration.command arguments
  have hcancelled := fun readings interrupted =>
    ((hrecord readings).cancelIf interrupted).cancelled_eq
  simp only [Machine.runDialogue, Configuration.command_withPassword,
    hblind.dialogueRun_eq configuration h,
    configuration.fullArguments_withPassword hblind.credential.ne_empty,
    configuration.fullArguments_withPassword hblind.other.ne_empty,
    hblind.circumstances_eq h, hblind.obstacle?_eq, hcancelled]
  split
  next => exact ⟨rfl, h⟩
  next =>
    split
    next => exact ⟨rfl, hrecord _⟩
    next =>
      split
      next => exact ⟨rfl, (hrecord _).cancelIf _⟩
      next => exact ⟨rfl, (hrecord _).cancelIf _⟩
      next => exact ⟨rfl, (hrecord _).cancelIf _⟩
      next => exact ⟨rfl, (hrecord _).cancelIf _⟩

/-! ## Operations -/

/-- The creation of a cluster gives the same with either credential. -/
theorem agree_create (addresses : List String) (replicas : Nat) :
    Agree (Machine.Alike earlier credential other)
      (AdminTool.create ⟨environment, configuration.withPassword credential⟩ addresses replicas left)
      (AdminTool.create ⟨environment, configuration.withPassword other⟩ addresses replicas
        right) := by
  rw [AdminTool.create, AdminTool.create]
  split
  next => exact ⟨rfl, h⟩
  next => exact (hblind.agree_runBatch configuration h _ _).map _

/-- A listing is the same with either credential. -/
theorem agree_listing (endpoint : Endpoint) :
    Agree (Machine.Alike earlier credential other)
      (AdminTool.listing ⟨environment, configuration.withPassword credential⟩ endpoint left)
      (AdminTool.listing ⟨environment, configuration.withPassword other⟩ endpoint right) :=
  (hblind.agree_runBatch configuration h _ _).map _

/-- A report is the same with either credential. -/
theorem agree_report (endpoint : Endpoint) :
    Agree (Machine.Alike earlier credential other)
      (AdminTool.report ⟨environment, configuration.withPassword credential⟩ endpoint left)
      (AdminTool.report ⟨environment, configuration.withPassword other⟩ endpoint right) :=
  (hblind.agree_runBatch configuration h _ _).map _

/-- The masters without slots are the same with either credential. -/
theorem agree_slotless (endpoint : Endpoint) :
    Agree (Machine.Alike earlier credential other)
      (AdminTool.slotless ⟨environment, configuration.withPassword credential⟩ endpoint left)
      (AdminTool.slotless ⟨environment, configuration.withPassword other⟩ endpoint right) :=
  (hblind.agree_listing configuration h endpoint).map _

/-- A request that needs no answers gives the same with either credential. -/
theorem agree_execute (request : Request) :
    Agree (Machine.Alike earlier credential other)
      (AdminTool.execute ⟨environment, configuration.withPassword credential⟩ request left)
      (AdminTool.execute ⟨environment, configuration.withPassword other⟩ request right) :=
  (hblind.agree_runBatch configuration h _ _).map _

/-- A plan is carried out alike with either credential. -/
theorem agree_reshard (endpoint : Endpoint) (plan : Plan) :
    Agree (Machine.Alike earlier credential other)
      (AdminTool.reshard ⟨environment, configuration.withPassword credential⟩ endpoint plan left)
      (AdminTool.reshard ⟨environment, configuration.withPassword other⟩ endpoint plan right) :=
  hblind.agree_runDialogue configuration h _ _

omit h in
/-- The topologies that two credentials give correspond. -/
theorem corresponding_topology :
    Topology.Corresponding (Machine.Alike earlier credential other)
      (AdminTool.topology ⟨environment, configuration.withPassword credential⟩)
      (AdminTool.topology ⟨environment, configuration.withPassword other⟩) where
  listing endpoint _ _ h := .value (hblind.agree_listing configuration h endpoint)
  reshard endpoint plan _ _ h := .value (hblind.agree_reshard configuration h endpoint plan)

/-- An operation gives the same answer with either credential. -/
theorem agree_carryOut (operation : AdminTool.Operation) :
    Agree (Machine.Alike earlier credential other)
      (AdminTool.carryOut ⟨environment, configuration.withPassword credential⟩ left operation)
      (AdminTool.carryOut ⟨environment, configuration.withPassword other⟩ right operation) := by
  cases operation with
  | create addresses replicas =>
      exact (hblind.agree_create configuration h addresses replicas).map AdminTool.Answer.done
  | listing endpoint =>
      exact (hblind.agree_listing configuration h endpoint).map AdminTool.Answer.listing
  | report endpoint =>
      exact (hblind.agree_report configuration h endpoint).map AdminTool.Answer.report
  | slotless endpoint =>
      exact (hblind.agree_slotless configuration h endpoint).map AdminTool.Answer.slotless
  | execute request =>
      exact (hblind.agree_execute configuration h request).map AdminTool.Answer.done
  | reshard endpoint plan =>
      exact (hblind.agree_reshard configuration h endpoint plan).map AdminTool.Answer.done
  | migrate goal endpoint =>
      have hlisted := (hblind.agree_listing configuration h endpoint).state
      exact AdminTool.agree_settle hlisted
        ((hblind.corresponding_topology configuration).migrate h endpoint goal)
  | renew cancelled => exact ⟨rfl, h.renew cancelled⟩

/-- Operations give the same answers with either credential, one after another. -/
theorem agree_carryOutAll (operations : List AdminTool.Operation) :
    Agree (Machine.Alike earlier credential other)
      (AdminTool.carryOutAll ⟨environment, configuration.withPassword credential⟩ operations left)
      (AdminTool.carryOutAll ⟨environment, configuration.withPassword other⟩ operations
        right) := by
  induction operations generalizing left right with
  | nil => exact ⟨rfl, h⟩
  | cons operation operations ih =>
      have hfirst := hblind.agree_carryOut configuration h operation
      have hrest := ih hfirst.state
      exact ⟨congrArg₂ List.cons hfirst.value_eq hrest.value_eq, hrest.state⟩

end Environment.Blind

/-- Replacing one credential by another changes no answer of any operations, no description, and
nothing in the processes that they start but the credential, as long as the processes do the same
whatever their arguments are and the system starts them with either credential. -/
theorem credential_hidden (environment : Environment) (hindifferent : environment.Indifferent)
    (configuration : Configuration) {credential other : String}
    (hcredential : Credential credential) (hother : Credential other)
    (hstarts : environment.StartsAlike credential other)
    (operations : List AdminTool.Operation) (machine : Machine) :
    let first : AdminTool := ⟨environment, configuration.withPassword credential⟩
    let second : AdminTool := ⟨environment, configuration.withPassword other⟩
    (first.carryOutAll operations machine).1 = (second.carryOutAll operations machine).1 ∧
      Machine.Alike machine.started credential other (first.carryOutAll operations machine).2
        (second.carryOutAll operations machine).2 ∧
      first.configuration.description = second.configuration.description ∧
      first.configuration.toolDescription = second.configuration.toolDescription := by
  have hblind : environment.Blind credential other :=
    ⟨hindifferent, hstarts, hcredential, hother⟩
  have hagree := hblind.agree_carryOutAll configuration machine.alike_self operations
  exact ⟨hagree.value_eq, hagree.state,
    configuration.description_withPassword hcredential.ne_empty hother.ne_empty,
    configuration.toolDescription_withPassword hcredential.ne_empty hother.ne_empty⟩

/-- A rehearsed merge after a failed listing, with either of two credentials. -/
theorem credential_hidden_rehearsed :
    let environment := Rehearsal.environment
      "exit 1
next
print a 10.0.0.1:7000@17000 master - 0 0 1 connected 0-9
print b 10.0.0.2:7000@17000 master - 0 0 2 connected 10-19
next
interrupt"
    let first : AdminTool := ⟨environment, Configuration.withPassword {} "secret"⟩
    let second : AdminTool := ⟨environment, Configuration.withPassword {} "other secret"⟩
    let endpoint : Endpoint := ⟨"10.0.0.1", 7000⟩
    let operations : List AdminTool.Operation :=
      [.listing endpoint, .migrate (.merge "a" "b") endpoint]
    environment.Indifferent ∧ Credential "secret" ∧ Credential "other secret" ∧
      environment.StartsAlike "secret" "other secret" ∧
      (first.carryOutAll operations {}).1 = (second.carryOutAll operations {}).1 ∧
      Machine.Alike [] "secret" "other secret" (first.carryOutAll operations {}).2
        (second.carryOutAll operations {}).2 ∧
      first.configuration.description = second.configuration.description ∧
      first.configuration.toolDescription = second.configuration.toolDescription := by
  intro environment first second endpoint operations
  have hindifferent : environment.Indifferent := Rehearsal.indifferent_environment _
  have hfirst : Credential "secret" := ⟨by decide, by decide⟩
  have hsecond : Credential "other secret" := ⟨by decide, by decide⟩
  have hstarts : environment.StartsAlike "secret" "other secret" :=
    Rehearsal.startsAlike_environment _ (by decide) (by decide)
  exact ⟨hindifferent, hfirst, hsecond, hstarts,
    credential_hidden environment hindifferent {} hfirst hsecond hstarts operations {}⟩

end ClusterSteward
