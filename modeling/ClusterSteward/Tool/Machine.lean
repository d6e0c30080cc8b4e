import ClusterSteward.Tool.Configuration
import ClusterSteward.Tool.Dialogue

/-!
# Machines

A machine starts processes. What they do, and which programs there are, is its environment; it
keeps a record of the processes that it started, and it knows whether the operation in progress has
been cancelled. A process that cannot be started is not recorded.
-/

namespace ClusterSteward

/-- How many bytes of an argument, with the one that ends it, a start takes. -/
def argumentLimit : Nat := 131072

/-- Why arguments cannot be given to a program, if they cannot: one of them is too long. -/
def refuseLong (arguments : List String) : Option SystemError :=
  if arguments.any (argumentLimit ≤ ·.utf8ByteSize) then some .argumentTooLong else none

/-- The programs of a machine. `obstacle` says why the program of a given name cannot be started,
if it cannot, and `rejection` why it cannot be started with some arguments. `behaviour n` is what the
process with start number `n`, counted from zero, does when it is given some arguments, and
`circumstances n` what it meets with. -/
structure Environment where
  obstacle : String → Option SystemError
  rejection : String → List String → Option SystemError := fun _ ↦ refuseLong
  behaviour : Nat → List String → Behaviour
  circumstances : Nat → List String → Circumstances := fun _ _ ↦ .usual

/-- A process that was started, and what it read. -/
structure ProcessRecord where
  program : String
  arguments : List String
  readings : Readings
  deriving DecidableEq, Repr

/-- The processes started so far, and whether the operation is cancelled. -/
structure Machine where
  started : List ProcessRecord := []
  cancelled : Bool := false
  deriving DecidableEq, Repr, Inhabited

namespace Machine

/-- The character that no argument can hold. -/
def nul : Char :=
  Char.ofNat 0

/-- Why a program cannot be started with the given arguments, if it cannot. -/
def obstacle? (environment : Environment) (program : String) (arguments : List String) :
    Option SystemError :=
  if (program :: arguments).any (·.toList.contains nul) then some .nulInArgument
  else (environment.obstacle program).or (environment.rejection program arguments)

/-- The machine with one more process on record. -/
def record (machine : Machine) (program : String) (arguments : List String)
    (readings : Readings) : Machine :=
  { machine with started := machine.started ++ [⟨program, arguments, readings⟩] }

/-- The machine after its operation has been cancelled, if it has. -/
def cancelIf (machine : Machine) (interrupted : Bool) : Machine :=
  { machine with cancelled := machine.cancelled || interrupted }

/-- The failure of a run on an input, or without one, whose process cannot be waited for. Without an
input it is reported as a start that failed. -/
def unwaited (program : String) (arguments : List String) (input : Option (List UInt8))
    (cause : SystemError) : ToolError :=
  match input with
  | none => .notStarted program arguments cause
  | some _ => .disconnected program cause

/-- Run the tool with the given arguments, on an input if there is one, and give what it printed. A
process that does not end on its own is ended by a cancellation. -/
def runBatch (environment : Environment) (configuration : Configuration)
    (arguments : List String) (input : Option (List UInt8)) (machine : Machine) :
    Except ToolError (List UInt8) × Machine :=
  let program := configuration.command
  let full := configuration.fullArguments arguments
  match obstacle? environment program full with
  | some cause => (.error (.notStarted program arguments cause), machine)
  | none =>
      -- the process is started even so, and killed at once
      if machine.cancelled then
        (.error (.cancelled program arguments), machine.record program full [])
      else
        let number := machine.started.length
        let run := (environment.behaviour number full).batch false (input.getD [])
        let machine := (machine.record program full run.readings).cancelIf run.interrupted
        match (environment.circumstances number full).waitFailure, run.status with
        | some cause, _ => (.error (unwaited program arguments input cause), machine)
        | none, none => (.error (.cancelled program arguments), machine)
        | none, some status =>
            if status.isSuccess then (.ok run.output, machine)
            else (.error (.exited program arguments status), machine)

/-- How the process of a dialogue runs: it is killed at once when the operation is cancelled
already. -/
def dialogueRun (environment : Environment) (configuration : Configuration)
    (arguments : List String) (reactions : List Prompt.Reaction) (machine : Machine) :
    Behaviour.DialogueRun :=
  let number := machine.started.length
  let full := configuration.fullArguments arguments
  let circumstances := environment.circumstances number full
  let exchange := Exchange.start circumstances reactions
  if machine.cancelled then Behaviour.tearDown circumstances exchange.close
  else (environment.behaviour number full).dialogue circumstances exchange

/-- What is reported of a process whose pipes are missing. -/
def pipesMissing : SystemError :=
  .described "admin tool pipes were not captured"

/-- Run the tool with the given arguments, and answer its prompts from a table. -/
def runDialogue (environment : Environment) (configuration : Configuration)
    (arguments : List String) (reactions : List Prompt.Reaction) (machine : Machine) :
    Except ToolError Unit × Machine :=
  let program := configuration.command
  let full := configuration.fullArguments arguments
  match obstacle? environment program full with
  | some cause => (.error (.notStarted program arguments cause), machine)
  | none =>
      let circumstances := environment.circumstances machine.started.length full
      if circumstances.unpiped then
        (.error (.disconnected program pipesMissing), machine.record program full [])
      else
        let run := machine.dialogueRun environment configuration arguments reactions
        let machine := (machine.record program full run.readings).cancelIf run.interrupted
        match circumstances.waitFailure, run.status.verdict run.tornDown machine.cancelled with
        | some cause, _ => (.error (.disconnected program cause), machine)
        | none, .completed => (.ok (), machine)
        | none, .cancelled => (.error (.cancelled program arguments), machine)
        | none, .failed => (.error (.exited program arguments run.status), machine)

end Machine

end ClusterSteward
