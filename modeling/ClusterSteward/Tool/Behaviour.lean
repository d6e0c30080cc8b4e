import ClusterSteward.Tool.Status

/-!
# Behaviours of processes

What a process does, as a tree of its actions: where it reads, what it does next depends on what it
got. Here a behaviour is run on an input that is given beforehand.
-/

namespace ClusterSteward

/-- What a process does. An `interruption` is not an action of its own: it is the moment at which
the operation that started the process is cancelled from outside. -/
inductive Behaviour where
  /-- Print bytes, to the error stream or to the output stream. -/
  | print (toErrors : Bool) (bytes : List UInt8) (next : Behaviour)
  /-- Be silent for some milliseconds. -/
  | pause (duration : Nat) (next : Behaviour)
  /-- Read a line with its newline; there is none at the end of the input. -/
  | readLine (next : Option (List UInt8) → Behaviour)
  /-- Read the input to its end. -/
  | readRest (next : List UInt8 → Behaviour)
  /-- Close both streams. -/
  | closeOutput (next : Behaviour)
  | interruption (next : Behaviour)
  /-- End with a status. -/
  | finish (status : WaitStatus)
  /-- Do nothing for ever. -/
  | hang

/-- What a process read, one entry for each time it read: a line, the end of the input, or all the
rest. -/
abbrev Readings := List (Option (List UInt8))

namespace Behaviour

/-- The byte that ends a line. -/
def newline : UInt8 := 0x0A

/-- The first line of an input that has ended, with its newline if it has one, and the bytes after
it. -/
def takeLine (input : List UInt8) : List UInt8 × List UInt8 :=
  let body := input.takeWhile (· ≠ newline)
  let after := input.dropWhile (· ≠ newline)
  (body ++ after.take 1, after.drop 1)

/-- How a batch run went: what was printed to the output stream, what was read, and how the process
ended. It has no status if it was interrupted. -/
structure BatchRun where
  output : List UInt8 := []
  readings : Readings := []
  status : Option WaitStatus := none
  interrupted : Bool := false
  deriving DecidableEq, Repr

/-- Run a behaviour on an input that is given beforehand. `closed` says that it has closed its
streams. Only an interruption ends a process that does nothing for ever. -/
def batch (closed : Bool) : Behaviour → List UInt8 → BatchRun
  | print toErrors bytes next, input =>
      let run := batch closed next input
      if toErrors || closed then run else { run with output := bytes ++ run.output }
  | pause _ next, input => batch closed next input
  | readLine next, input =>
      let (reading, rest) :=
        if input.isEmpty then (none, []) else (some (takeLine input).1, (takeLine input).2)
      let run := batch closed (next reading) rest
      { run with readings := reading :: run.readings }
  | readRest next, input =>
      let run := batch closed (next input) []
      { run with readings := some input :: run.readings }
  | closeOutput next, input => batch true next input
  | interruption _, _ => { interrupted := true }
  | finish status, _ => { status := some status }
  | hang, _ => { interrupted := true }

end Behaviour

end ClusterSteward
