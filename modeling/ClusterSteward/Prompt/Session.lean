import ClusterSteward.Prompt.Reaction

/-!
# Prompt sessions

A session reads the output of a tool and answers its prompts until the output ends or the tool goes
quiet. Time is counted in milliseconds from the start of the session. The session looks at the
clock once per interval, and closes as idle when no token was completed since it last looked; what
the tool does at the time of a look comes before the look.
-/

namespace ClusterSteward.Prompt

/-- The time between two looks at the clock. -/
def interval : Nat := 1000

/-- The input of the tool: the bytes it has accepted, and how many more it accepts if that is
limited. -/
structure Intake where
  room : Option Nat := none
  accepted : List UInt8 := []
  deriving DecidableEq, Repr

namespace Intake

/-- Offer bytes to the tool. The answer says whether it accepted them all; if not, it accepted as
many as it had room for. -/
def offer (intake : Intake) (bytes : List UInt8) : Intake × Bool :=
  match intake.room with
  | none => ({ intake with accepted := intake.accepted ++ bytes }, true)
  | some room =>
      ({ room := some (room - bytes.length), accepted := intake.accepted ++ bytes.take room },
        decide (bytes.length ≤ room))

/-- Offer a line and then its newline, which is left out if the line was not accepted. -/
def offerLine (intake : Intake) (line : String) : Intake :=
  match intake.offer (Text.Utf8.encode line.toList) with
  | (after, true) => (after.offer [0x0A]).1
  | (after, false) => after

end Intake

/-- How a session ends. -/
inductive Ending where
  | idle
  | endOfStream
  deriving DecidableEq, Repr

/-- A closed session: how and when it ended, what the tool had accepted by then, and how often the
owner of the session has been told that it is over. -/
structure Closing where
  ending : Ending
  time : Nat
  intake : Intake
  notices : Nat
  deriving DecidableEq, Repr

/-- A running session. `pending` is output that is not yet a token, `heard` says whether a token was
completed since the last look at the clock, `looks` counts the looks, and `notices` counts how often
the owner has been told that the session is over. -/
structure Session where
  reactions : List Reaction
  intake : Intake := {}
  pending : List UInt8 := []
  heard : Bool := false
  time : Nat := 0
  looks : Nat := 0
  notices : Nat := 0
  deriving DecidableEq, Repr

namespace Session

/-- The session after answering a token, if the table has an answer. -/
def answer (session : Session) (token : Token) : Session :=
  match Reaction.respond session.reactions token with
  | none => { session with heard := true }
  | some response =>
      { session with heard := true, intake := session.intake.offerLine response }

/-- The session after the tool has written a chunk of output. -/
def receive (session : Session) (chunk : List UInt8) : Session :=
  let (tokens, rest) := Token.takeAll (session.pending ++ chunk)
  tokens.foldl answer { session with pending := rest }

/-- The time of the next look at the clock. -/
def nextLook (session : Session) : Nat :=
  interval * (session.looks + 1)

/-- End the session in the given way and at the given time, and tell its owner. -/
def finish (session : Session) (ending : Ending) (time : Nat) : Closing :=
  ⟨ending, time, session.intake, session.notices + 1⟩

/-- The session closed as idle at the given time. -/
def closeIdle (session : Session) (time : Nat) : Closing :=
  session.finish .idle time

/-- The session after a silence, unless it closes as idle before the silence is over. The first
look within the silence may have heard tokens from before it; a second one has heard nothing. -/
def wait (session : Session) (duration : Nat) : Except Closing Session :=
  let deadline := session.time + duration
  if session.nextLook < deadline then
    if session.heard then
      -- the first look only forgets what was heard before it
      if session.nextLook + interval < deadline then
        .error (session.closeIdle (session.nextLook + interval))
      else
        .ok { session with heard := false, time := deadline, looks := session.looks + 1 }
    else .error (session.closeIdle session.nextLook)
  else .ok { session with time := deadline }

/-- The session after a silence during which it could not look at the clock. A look that was due
comes as soon as it can, and the next one an interval later, so the time in between does not count. -/
def stall (session : Session) (duration : Nat) : Session :=
  { session with time := min (session.time + duration) session.nextLook }

/-- The session closed by a silence that does not end. -/
def waitForever (session : Session) : Closing :=
  session.closeIdle (if session.heard then session.nextLook + interval else session.nextLook)

/-- The session closed by the end of the output. The rest of the output is read as tokens. -/
def close (session : Session) : Closing :=
  let final := (Token.takeLast session.pending).foldl answer session
  final.finish .endOfStream final.time

/-- The session closed by a failure to read. The rest of the output is lost. -/
def fail (session : Session) : Closing :=
  session.finish .endOfStream session.time

end Session

/-- What an output stream does next: it brings a chunk, is silent for a while, fails, or is silent
for ever. -/
inductive StreamStep where
  | chunk (bytes : List UInt8)
  | silence (duration : Nat)
  | failure
  | hang
  deriving DecidableEq, Repr

/-- Run a session over a stream that ends after the given steps. -/
def Session.run (session : Session) : List StreamStep → Closing
  | [] => session.close
  | .chunk bytes :: steps => (session.receive bytes).run steps
  | .silence duration :: steps =>
      match session.wait duration with
      | .ok session => session.run steps
      | .error closing => closing
  | .failure :: _ => session.fail
  | .hang :: _ => session.waitForever

end ClusterSteward.Prompt
