import ClusterSteward.Prompt.Session
import ClusterSteward.Tool.Behaviour
import ClusterSteward.Tool.Circumstances

/-!
# Dialogues

In a dialogue a prompt session reads the output of a process and writes its input, through pipes that
hold only so much. A session that writes more than the process has room for waits until the process
reads, and meanwhile reads nothing itself; a process whose output nobody reads waits when its pipe is
full. When both wait, only an interruption ends the dialogue.
-/

namespace ClusterSteward

/-- A dialogue in progress. The intake of the session holds what it has written and what it is still
writing; the process has read `consumed` bytes of that, and `queue` holds what it has printed to
each stream (`true` is the error stream) and nobody has read. `closed` says that the process has closed
its streams, and `freed` that a write to it waits no longer: it reads all, or has ended. -/
structure Exchange where
  session : Prompt.Session
  capacity : Nat
  schedule : List (List Take)
  queue : Bool → List UInt8 := fun _ ↦ []
  consumed : Nat := 0
  closed : Bool := false
  freed : Bool := false

namespace Exchange

/-- A dialogue before anything is printed. -/
def start (circumstances : Circumstances) (reactions : List Prompt.Reaction) : Exchange where
  session := { reactions }
  capacity := circumstances.capacity
  schedule := circumstances.schedule

variable (exchange : Exchange)

/-- Whether the session waits for the process to read. -/
def blocked : Bool :=
  !exchange.freed &&
    decide (exchange.consumed + exchange.capacity < exchange.session.intake.accepted.length)

/-- Whether a stream holds more than its pipe. -/
def overfull : Bool :=
  decide (exchange.capacity < (exchange.queue false).length) ||
    decide (exchange.capacity < (exchange.queue true).length)

/-- The session reads from a stream, unless it waits itself. -/
def take (step : Take) : Exchange :=
  if exchange.blocked then exchange
  else
    let waiting := exchange.queue step.fromErrors
    { exchange with
      session := exchange.session.receive (waiting.take step.limit)
      queue := fun stream ↦
        if stream = step.fromErrors then waiting.drop step.limit else exchange.queue stream }

/-- The session reads all that there is in a stream. -/
def takeAll (fromErrors : Bool) : Exchange :=
  exchange.take ⟨fromErrors, (exchange.queue fromErrors).length⟩

/-- The session reads all that there is. -/
def takeRest : Exchange :=
  (exchange.takeAll false).takeAll true

/-- The session reads what the schedule says. -/
def serve : Exchange :=
  match exchange.schedule with
  | [] => exchange.takeRest
  | takes :: schedule => takes.foldl take { exchange with schedule }

/-- The session reads what the schedule says and then the rest. -/
def drain : Exchange :=
  exchange.serve.takeRest

/-- The process prints to a stream. A pipe that is full is emptied first, if the session can. -/
def print (toErrors : Bool) (bytes : List UInt8) : Exchange :=
  if exchange.closed then exchange
  else
    let queue := fun stream ↦
      if stream = toErrors then exchange.queue stream ++ bytes else exchange.queue stream
    let served := { exchange with queue }.serve
    if served.overfull then served.takeRest else served

/-- Whether the session and the process wait for each other. -/
def stuck : Bool :=
  exchange.blocked && exchange.overfull

/-- The process is silent. A session that waits does not look at the clock until it is done. -/
def pause (duration : Nat) : Except Prompt.Closing Exchange :=
  if exchange.blocked then .ok { exchange with session := exchange.session.stall duration }
  else if exchange.closed then .error exchange.session.close
  else (exchange.session.wait duration).map fun session ↦ { exchange with session }

/-- The line that the process reads next, if it has been written. -/
def line? : Option (List UInt8) :=
  let waiting := exchange.session.intake.accepted.drop exchange.consumed
  if Behaviour.newline ∈ waiting then some (Behaviour.takeLine waiting).1 else none

/-- The process has read a line. -/
def consume (line : List UInt8) : Exchange :=
  { exchange with consumed := exchange.consumed + line.length }

/-- The session closes while the process waits for ever. -/
def starve : Prompt.Closing :=
  if exchange.closed then exchange.session.close else exchange.session.waitForever

/-- A write to the process waits no longer. -/
def free : Exchange :=
  { exchange with freed := true }

/-- The session closes when the process has ended. -/
def close : Prompt.Closing :=
  exchange.free.drain.session.close

end Exchange

namespace Behaviour

/-- How a dialogue went: what was read, how the process ended, whether it was torn down, whether
that was because of an interruption, and how the session closed. -/
structure DialogueRun where
  readings : Readings := []
  status : WaitStatus
  tornDown : Bool
  interrupted : Bool
  closing : Prompt.Closing
  deriving DecidableEq, Repr

variable (circumstances : Circumstances)

/-- The run of a process that is killed because its session has closed, unless it ends on its own
at that time. -/
def tearDown (closing : Prompt.Closing) : DialogueRun :=
  let (status, tornDown) := circumstances.ownEnd.getD (.killed, true)
  { status, tornDown, interrupted := false, closing }

/-- The run of a process that is killed because the operation is cancelled. -/
def interrupt (exchange : Exchange) : DialogueRun :=
  { tearDown circumstances exchange.close with interrupted := true }

/-- Run a behaviour in a dialogue. A process that waits for input which no prompt will bring hangs,
and a process whose session closes is killed. -/
def dialogue : Behaviour → Exchange → DialogueRun
  | print toErrors bytes next, exchange =>
      let printed := exchange.print toErrors bytes
      if printed.stuck then interrupt circumstances printed else dialogue next printed
  | pause duration next, exchange =>
      match exchange.drain.pause duration with
      | .ok after => dialogue next after
      | .error closing => tearDown circumstances closing
  | readLine next, exchange =>
      let drained := exchange.drain
      match drained.line? with
      | some line =>
          let run := dialogue (next (some line)) (drained.consume line)
          { run with readings := some line :: run.readings }
      | none => tearDown circumstances drained.starve
  | readRest _, exchange => tearDown circumstances exchange.free.drain.starve
  | closeOutput next, exchange =>
      let drained := exchange.drain
      if drained.blocked then dialogue next { drained with closed := true }
      else tearDown circumstances drained.session.close
  | interruption _, exchange => interrupt circumstances exchange
  | finish status, exchange =>
      { status, tornDown := circumstances.overtaken, interrupted := false,
        closing := exchange.close }
  | hang, exchange =>
      let drained := exchange.drain
      if drained.blocked then interrupt circumstances drained
      else tearDown circumstances drained.starve

end Behaviour

end ClusterSteward
