import ClusterSteward.Text.Decimal
import ClusterSteward.Text.Field
import ClusterSteward.Tool.Machine

/-!
# Rehearsals

A rehearsal describes in a text what the processes of the admin tool do, so that a command line can
be tried without a cluster. Every line is a step of a process: a word and, for some words, a rest
after one space.

* `print` and `complain` print the rest as a line, to the output stream or to the error stream;
* `ask` prints the rest and a space, and reads a line;
* `pause` is silent for the given number of milliseconds;
* `exit` and `signal` end the process with the given code or signal;
* `close` closes both streams, `interrupt` cancels the operation, and `hang` does nothing for ever;
* `next` starts the description of the next process.

Other lines are skipped. A process without a last step exits with code zero.
-/

namespace ClusterSteward.Rehearsal

/-- A line of a rehearsal. -/
inductive Step where
  | print (toErrors : Bool) (text : List Char)
  | ask (prompt : List Char)
  | pause (duration : Nat)
  | exit (code : Nat)
  | signal (number : Nat)
  | close
  | interrupt
  | hang
  | next
  deriving DecidableEq, Repr

/-- The step that a line describes, if it describes one. -/
def readStep (line : List Char) : Option Step :=
  let (word, rest) := (Text.cut ' ' line).getD (line, [])
  match String.ofList word with
  | "print" => some (.print false rest)
  | "complain" => some (.print true rest)
  | "ask" => some (.ask rest)
  | "pause" => (Text.digitsValue? rest).map .pause
  | "exit" => (Text.digitsValue? rest).map fun code ↦ .exit (code % 256)
  | "signal" => (Text.digitsValue? rest).map .signal
  | "close" => some .close
  | "interrupt" => some .interrupt
  | "hang" => some .hang
  | "next" => some .next
  | _ => none

/-- The behaviour that some steps describe. -/
def behaviour : List Step → Behaviour
  | [] => .finish (.exited 0)
  | .print toErrors text :: steps =>
      .print toErrors (Text.Utf8.encode (text ++ ['\n'])) (behaviour steps)
  | .ask prompt :: steps =>
      .print false (Text.Utf8.encode (prompt ++ [' '])) (.readLine fun _ ↦ behaviour steps)
  | .pause duration :: steps => .pause duration (behaviour steps)
  | .exit code :: _ => .finish (.exited code)
  | .signal number :: _ => .finish (.signaled number false)
  | .close :: steps => .closeOutput (behaviour steps)
  | .interrupt :: steps => .interruption (behaviour steps)
  | .hang :: _ => .hang
  | .next :: _ => .finish (.exited 0)

/-- The steps of each process, in the order in which the processes are started. -/
def descriptions : List Step → List (List Step)
  | [] => [[]]
  | .next :: steps => [] :: descriptions steps
  | step :: steps =>
      match descriptions steps with
      | [] => [[step]]
      | first :: others => (step :: first) :: others

/-- The machine environment of a rehearsal. Every program can be started; a process that is not
described exits with code zero. -/
def environment (text : String) : Environment where
  obstacle _ := none
  behaviour number _ :=
    let steps := (text.toList.splitOn '\n').filterMap readStep
    behaviour ((descriptions steps)[number]?.getD [])

end ClusterSteward.Rehearsal
