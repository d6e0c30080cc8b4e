import ClusterSteward.Prompt.Session

/-!
# Steps of a session

What tokens and silences do to a session. Main statements: `Session.receive_eq` and
`Session.close_eq`, which say what a chunk of output and the end of the output do, and
`Session.wait_cases`, which says what a silence can do.
-/

namespace ClusterSteward.Prompt.Session

variable (session : Session)

/-- Answering tokens offers their responses in order, and makes the session hear if there are any. -/
theorem foldl_answer (tokens : List Token) :
    tokens.foldl answer session =
      { session with
        heard := session.heard || !tokens.isEmpty
        intake := (tokens.filterMap (Reaction.respond session.reactions)).foldl Intake.offerLine
          session.intake } := by
  induction tokens generalizing session with
  | nil => simp
  | cons token tokens ih =>
      rw [List.foldl_cons, ih, answer]
      cases hresponse : Reaction.respond session.reactions token <;> simp [hresponse]

/-- A chunk of output is cut together with what is pending, and its tokens are answered. -/
theorem receive_eq (chunk : List UInt8) :
    session.receive chunk =
      { session with
        pending := (Token.takeAll (session.pending ++ chunk)).2
        heard := session.heard || !(Token.takeAll (session.pending ++ chunk)).1.isEmpty
        intake := ((Token.takeAll (session.pending ++ chunk)).1.filterMap
          (Reaction.respond session.reactions)).foldl Intake.offerLine session.intake } :=
  foldl_answer { session with pending := (Token.takeAll (session.pending ++ chunk)).2 } _

/-- At the end of the output the last tokens are answered, and the owner is told. -/
theorem close_eq :
    session.close =
      { ending := .endOfStream
        time := session.time
        intake := ((Token.takeLast session.pending).filterMap
          (Reaction.respond session.reactions)).foldl Intake.offerLine session.intake
        notices := session.notices + 1 } := by
  rw [close, foldl_answer]
  rfl

/-- The look at which a session closes as idle if it hears nothing more. -/
def idleLook : Nat :=
  if session.heard then session.nextLook + interval else session.nextLook

/-- What a silence can do. It ends by the next look; or it ends by the look after that, and the next
one has heard a token from before the silence; or a look finds the tool idle before it ends. -/
theorem wait_cases (duration : Nat) :
    (session.time + duration ≤ session.nextLook ∧
        session.wait duration = .ok { session with time := session.time + duration }) ∨
      (session.heard = true ∧ session.nextLook < session.time + duration ∧
        session.time + duration ≤ session.nextLook + interval ∧
        session.wait duration = .ok { session with
          heard := false, time := session.time + duration, looks := session.looks + 1 }) ∨
      (session.idleLook < session.time + duration ∧
        session.wait duration = .error (session.closeIdle session.idleLook)) := by
  rw [wait, idleLook]
  by_cases hlook : session.nextLook < session.time + duration
  · cases hheard : session.heard with
    | true =>
        by_cases hagain : session.nextLook + interval < session.time + duration
        · simp [hlook, hagain]
        · simp [hlook, hagain, Nat.not_lt.1 hagain]
    | false => simp [hlook]
  · simp [hlook, Nat.not_lt.1 hlook]

variable {session} {duration : Nat} {steps : List StreamStep}

/-- A session that a silence leaves open goes on after it. -/
theorem run_silence_of_ok {after : Session} (h : session.wait duration = .ok after) :
    session.run (.silence duration :: steps) = after.run steps := by
  rw [run, h]

/-- A session that closes in a silence is closed for good. -/
theorem run_silence_of_error {closing : Closing} (h : session.wait duration = .error closing) :
    session.run (.silence duration :: steps) = closing := by
  rw [run, h]

/-- However a session closes, its owner is told once. -/
theorem notices_run : (session.run steps).notices = session.notices + 1 := by
  induction steps generalizing session with
  | nil => rw [run, close_eq]
  | cons step steps ih =>
      cases step with
      | chunk bytes => rw [run, ih, receive_eq]
      | silence duration =>
          rcases session.wait_cases duration with ⟨-, hwait⟩ | ⟨-, -, -, hwait⟩ | ⟨-, hwait⟩
          · rw [run_silence_of_ok hwait, ih]
          · rw [run_silence_of_ok hwait, ih]
          · rw [run_silence_of_error hwait]
            rfl
      | failure => rfl
      | hang => rfl

end ClusterSteward.Prompt.Session
