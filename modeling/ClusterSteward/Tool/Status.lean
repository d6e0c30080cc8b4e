/-!
# Wait statuses

How a process ended, read off the status word that the system reports for it, and what the end of
a process that moved slots means. Main statement: `verdict_eq_cancelled_iff`, which says exactly
when such an end counts as a cancellation.
-/

namespace ClusterSteward

/-- What a wait status says about a process. -/
inductive WaitStatus where
  | exited (code : Nat)
  | signaled (signal : Nat) (dumped : Bool)
  | stopped (signal : Nat)
  | continued
  | unrecognised (word : UInt32)
  deriving DecidableEq, Repr

namespace WaitStatus

/-- The status that a status word stands for. The low seven bits are zero after an exit, all set
for a process that has not ended, and the number of the fatal signal otherwise. -/
def ofWord (word : UInt32) : WaitStatus :=
  let value := word.toNat
  let low := value % 128
  let second := value / 256 % 256
  if low = 0 then .exited second
  else if low < 127 then .signaled low (value / 128 % 2 = 1)
  else if value % 256 = 127 then .stopped second
  else if value = 0xFFFF then .continued
  else .unrecognised word

/-- The names of the signals, from number one on. -/
def signalNames : List String :=
  ["SIGHUP", "SIGINT", "SIGQUIT", "SIGILL", "SIGTRAP", "SIGABRT", "SIGBUS", "SIGFPE", "SIGKILL",
    "SIGUSR1", "SIGSEGV", "SIGUSR2", "SIGPIPE", "SIGALRM", "SIGTERM", "SIGSTKFLT", "SIGCHLD",
    "SIGCONT", "SIGSTOP", "SIGTSTP", "SIGTTIN", "SIGTTOU", "SIGURG", "SIGXCPU", "SIGXFSZ",
    "SIGVTALRM", "SIGPROF", "SIGWINCH", "SIGIO", "SIGPWR", "SIGSYS"]

/-- A signal by its number, with its name if it has one. -/
def signalText (signal : Nat) : String :=
  let name? := if signal = 0 then none else signalNames[signal - 1]?
  match name? with
  | some name => Nat.repr signal ++ " (" ++ name ++ ")"
  | none => Nat.repr signal

/-- The text of a status. -/
def text : WaitStatus → String
  | exited code => "exit status: " ++ Nat.repr code
  | signaled signal dumped =>
      "signal: " ++ signalText signal ++ if dumped then " (core dumped)" else ""
  | stopped signal => "stopped (not terminated) by signal: " ++ signalText signal
  | continued => "continued (WIFCONTINUED)"
  | unrecognised word =>
      "unrecognised wait status: " ++ toString word.toInt32.toInt ++ " 0x" ++
        String.ofList (Nat.toDigits 16 word.toNat)

/-- Whether the process exited with code zero. -/
def isSuccess (status : WaitStatus) : Bool :=
  status == .exited 0

/-- The signal that kills a process outright. -/
def killSignal : Nat := 9

/-- The signal that ends a process which writes to a closed pipe. -/
def brokenPipeSignal : Nat := 13

/-- The status of a process that was killed. -/
def killed : WaitStatus :=
  .signaled killSignal false

/-- Whether an unsuccessful status comes from a closed pipe or, if the process was being torn down,
from a signal. -/
def endedByTeardown (status : WaitStatus) (tornDown : Bool) : Bool :=
  match status with
  | .signaled signal _ => signal == brokenPipeSignal || tornDown
  | _ => false

end WaitStatus

/-- What the end of a process that moved slots is reported as. -/
inductive Verdict where
  | completed
  | cancelled
  | failed
  deriving DecidableEq, Repr

namespace WaitStatus

/-- The verdict on a process that ended with the given status, by whether it was being torn down
and whether the operation was cancelled. -/
def verdict (status : WaitStatus) (tornDown cancelled : Bool) : Verdict :=
  if status.isSuccess then .completed
  else if tornDown && cancelled then .cancelled
  else if status.endedByTeardown tornDown then .completed
  else .failed

/-- An end counts as a cancellation exactly when the process did not succeed and was being torn
down because the operation was cancelled. -/
theorem verdict_eq_cancelled_iff {status : WaitStatus} {tornDown cancelled : Bool} :
    status.verdict tornDown cancelled = .cancelled ↔
      status ≠ .exited 0 ∧ tornDown = true ∧ cancelled = true := by
  unfold verdict isSuccess
  by_cases hsuccess : status = .exited 0
  · simp [hsuccess]
  · cases tornDown <;> cases cancelled <;> simp [hsuccess] <;> split <;> simp

end WaitStatus

end ClusterSteward
