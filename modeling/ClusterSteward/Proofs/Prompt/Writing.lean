import ClusterSteward.Proofs.Prompt.Watching

/-!
# What a session writes

A session offers the tool a line for each token that it answers, and goes on in the same way whether
the tool accepts the line or not. Which lines these are follows from what the output brings;
silences only decide how many of them are offered before the session closes. Main statements:
`Session.gives_tokens`, which says so of every session and of the tokens that it takes,
`Session.accepted_comparable`, which compares two sessions over the same output at another pace, and
`Session.accepted_limited`, which compares a tool that accepts only so many bytes with one that
accepts all.
-/

namespace ClusterSteward.Prompt

/-! ## What a tool accepts -/

namespace Intake

/-- A tool keeps what it has accepted. -/
theorem accepted_prefix_offer (intake : Intake) (bytes : List UInt8) :
    intake.accepted <+: (intake.offer bytes).1.accepted := by
  rw [offer]
  split <;> exact List.prefix_append _ _

/-- A tool that is offered a line keeps what it has accepted. -/
theorem accepted_prefix_offerLine (intake : Intake) (response : String) :
    intake.accepted <+: (intake.offerLine response).accepted := by
  have hline := intake.accepted_prefix_offer (Text.Utf8.encode response.toList)
  rw [offerLine]
  split
  next after hoffer =>
    rw [hoffer] at hline
    exact hline.trans (after.accepted_prefix_offer _)
  next after hoffer =>
    rw [hoffer] at hline
    exact hline

/-- A tool that is offered lines keeps what it has accepted. -/
theorem accepted_prefix_foldl (intake : Intake) (responses : List String) :
    intake.accepted <+: (responses.foldl offerLine intake).accepted := by
  induction responses generalizing intake with
  | nil => exact List.prefix_rfl
  | cons response responses ih => exact (intake.accepted_prefix_offerLine response).trans (ih _)

/-- A tool that is offered some lines of several, up to one of them, accepts no more than one that
is offered all of them. -/
theorem accepted_prefix_of_fewer (intake : Intake) {fewer all : List String} (h : fewer <+: all) :
    (fewer.foldl offerLine intake).accepted <+: (all.foldl offerLine intake).accepted := by
  obtain ⟨others, rfl⟩ := h
  rw [List.foldl_append]
  exact accepted_prefix_foldl _ others

/-- A tool with limited room accepts of a line, with its newline, what it has room for. -/
theorem offerLine_limited (room : Nat) (accepted : List UInt8) (response : String) :
    ({ room := some room, accepted } : Intake).offerLine response =
      { room := some (room - (answerLine response).length)
        accepted := accepted ++ (answerLine response).take room } := by
  rw [offerLine, answerLine, List.length_append, List.length_singleton, List.take_append]
  by_cases hfits : (Text.Utf8.encode response.toList).length ≤ room
  · simp [offer, hfits, Nat.sub_sub]
  · -- the newline is left out, and there would have been no room for it either
    have hfull : room - (Text.Utf8.encode response.toList).length = 0 := by omega
    have hafter : room - ((Text.Utf8.encode response.toList).length + 1) = 0 := by omega
    simp [offer, hfits, hfull, hafter]

/-- A tool with limited room accepts of several lines what it has room for. -/
theorem foldl_offerLine_limited (room : Nat) (accepted : List UInt8) (responses : List String) :
    (responses.foldl offerLine { room := some room, accepted }).accepted =
      accepted ++ (responses.flatMap answerLine).take room := by
  induction responses generalizing room accepted with
  | nil => simp
  | cons response responses ih =>
      rw [List.foldl_cons, offerLine_limited, ih, List.flatMap_cons, List.take_append,
        List.append_assoc]

end Intake

/-! ## What a session offers -/

/-- The responses to all tokens of a stream, in order, when some bytes are pending. -/
def responsesTo (reactions : List Reaction) : List UInt8 → List StreamStep → List String
  | pending, [] => (Token.takeLast pending).filterMap (Reaction.respond reactions)
  | pending, .chunk bytes :: steps =>
      (Token.takeAll (pending ++ bytes)).1.filterMap (Reaction.respond reactions) ++
        responsesTo reactions (Token.takeAll (pending ++ bytes)).2 steps
  | pending, .silence _ :: steps => responsesTo reactions pending steps
  | _, .failure :: _ => []
  | _, .hang :: _ => []

/-- What a stream brings: its steps without the silences. -/
def events (steps : List StreamStep) : List StreamStep :=
  steps.filter fun
    | .silence _ => false
    | _ => true

/-- The responses to a stream do not depend on its silences. -/
theorem responsesTo_events (reactions : List Reaction) (pending : List UInt8)
    (steps : List StreamStep) :
    responsesTo reactions pending (events steps) = responsesTo reactions pending steps := by
  induction steps generalizing pending with
  | nil => rfl
  | cons step steps ih =>
      cases step with
      | chunk bytes => exact congrArg (List.append _) (ih _)
      | silence duration => exact ih pending
      | failure => rfl
      | hang => rfl

namespace Session

/-- A session gives some responses over the steps of a stream when it offers the tool exactly these,
in order, whatever the tool accepts and without a change to anything else. They are the first
responses to the stream, and all of them if the session sees the end. -/
structure Gives (session : Session) (steps : List StreamStep) (responses : List String) : Prop where
  run_eq : ∀ intake : Intake, ({ session with intake } : Session).run steps =
    { session.run steps with intake := responses.foldl Intake.offerLine intake }
  isPrefix : responses <+: responsesTo session.reactions session.pending steps
  complete : (session.run steps).ending = .endOfStream →
    responses = responsesTo session.reactions session.pending steps

variable {session : Session} {steps : List StreamStep} {responses : List String}

/-- What the tool has accepted makes no difference to a silence. -/
theorem wait_intake (session : Session) (duration : Nat) (intake : Intake) :
    ({ session with intake } : Session).wait duration =
      match session.wait duration with
      | .ok after => .ok { after with intake }
      | .error closing => .error { closing with intake } := by
  have hlook : ({ session with intake } : Session).nextLook = session.nextLook := rfl
  simp only [wait, hlook]
  split_ifs <;> rfl

namespace Gives

/-- A chunk of output is answered before the rest of the stream. -/
theorem chunk {bytes : List UInt8} (h : (session.receive bytes).Gives steps responses) :
    session.Gives (.chunk bytes :: steps)
      ((Token.takeAll (session.pending ++ bytes)).1.filterMap
        (Reaction.respond session.reactions) ++ responses) := by
  rw [receive_eq] at h
  obtain ⟨hrun, hfirst, hcomplete⟩ := h
  refine ⟨fun intake => ?_, ?_, fun hending => ?_⟩
  · rw [run, run, receive_eq, receive_eq, List.foldl_append]
    exact hrun _
  · exact List.prefix_append_right_inj _ |>.2 hfirst
  · rw [run, receive_eq] at hending
    exact congrArg (List.append _) (hcomplete hending)

/-- A silence that leaves the session open brings nothing to answer. -/
theorem silence {after : Session} {duration : Nat} (h : after.Gives steps responses)
    (hwait : session.wait duration = .ok after) (hreactions : after.reactions = session.reactions)
    (hpending : after.pending = session.pending) :
    session.Gives (.silence duration :: steps) responses := by
  obtain ⟨hrun, hfirst, hcomplete⟩ := h
  rw [hreactions, hpending] at hfirst hcomplete
  refine ⟨fun intake => ?_, hfirst, fun hending => ?_⟩
  · have hopen : ({ session with intake } : Session).wait duration = .ok { after with intake } := by
      rw [wait_intake, hwait]
    rw [run_silence_of_ok hopen, run_silence_of_ok hwait]
    exact hrun intake
  · rw [run_silence_of_ok hwait] at hending
    exact hcomplete hending

/-- A session that a silence closes as idle gives nothing. -/
theorem of_idle {closing : Closing} {duration : Nat}
    (hwait : session.wait duration = .error closing) (hidle : closing.ending = .idle) :
    session.Gives (.silence duration :: steps) [] := by
  refine ⟨fun intake => ?_, List.nil_prefix, fun hending => ?_⟩
  · have hclosed : ({ session with intake } : Session).wait duration =
        .error { closing with intake } := by
      rw [wait_intake, hwait]
    rw [run_silence_of_error hclosed, run_silence_of_error hwait]
    rfl
  · rw [run_silence_of_error hwait, hidle] at hending
    cases hending

end Gives

/-- The tokens that a session takes from a stream before it closes. -/
def tokens (session : Session) : List StreamStep → List Token
  | [] => Token.takeLast session.pending
  | .chunk bytes :: steps =>
      (Token.takeAll (session.pending ++ bytes)).1 ++ (session.receive bytes).tokens steps
  | .silence duration :: steps =>
      match session.wait duration with
      | .ok after => after.tokens steps
      | .error _ => []
  | .failure :: _ => []
  | .hang :: _ => []

/-- Every session gives the responses to the tokens that it takes. -/
theorem gives_tokens (session : Session) (steps : List StreamStep) :
    session.Gives steps
      ((session.tokens steps).filterMap (Reaction.respond session.reactions)) := by
  -- each step offers the responses to what it brings, and silences can only cut the list short
  induction steps generalizing session with
  | nil =>
      refine ⟨fun intake => ?_, List.prefix_rfl, fun _ => rfl⟩
      rw [run, run, close_eq, close_eq]
      rfl
  | cons step steps ih =>
      cases step with
      | chunk bytes =>
          have hreactions : (session.receive bytes).reactions = session.reactions := by
            rw [receive_eq]
          have hgives := (ih (session.receive bytes)).chunk
          rw [hreactions, ← List.filterMap_append] at hgives
          exact hgives
      | silence duration =>
          rcases session.wait_cases duration with ⟨-, hwait⟩ | ⟨-, -, -, hwait⟩ | ⟨-, hwait⟩
          · rw [tokens, hwait]
            exact (ih _).silence hwait rfl rfl
          · rw [tokens, hwait]
            exact (ih _).silence hwait rfl rfl
          · rw [tokens, hwait]
            exact .of_idle hwait rfl
      | failure => exact ⟨fun _ => rfl, List.prefix_rfl, fun _ => rfl⟩
      | hang =>
          refine ⟨fun _ => rfl, List.nil_prefix, fun hending => ?_⟩
          cases hending

/-- Every session gives the first responses to its stream, and all of them if it sees the end. -/
theorem exists_gives (session : Session) (steps : List StreamStep) :
    ∃ responses, session.Gives steps responses :=
  ⟨_, session.gives_tokens steps⟩

/-- The bytes that a session has written when it closes are the lines of the responses that it
gives. -/
theorem Gives.intake_eq (h : session.Gives steps responses) :
    (session.run steps).intake = responses.foldl Intake.offerLine session.intake :=
  congrArg Closing.intake (h.run_eq session.intake)

/-- Of two sessions over streams that differ only in their silences, one writes the first bytes of
what the other writes. A session that sees the end of the output writes all that the other does, so
two such sessions write the same. -/
theorem accepted_comparable (reactions : List Reaction) (intake : Intake)
    (first second : List StreamStep) (h : events first = events second) :
    let left := ({ reactions, intake } : Session).run first
    let right := ({ reactions, intake } : Session).run second
    (left.intake.accepted <+: right.intake.accepted ∨
        right.intake.accepted <+: left.intake.accepted) ∧
      (left.ending = .endOfStream → right.intake.accepted <+: left.intake.accepted) ∧
      (left.ending = .endOfStream → right.ending = .endOfStream → left.intake = right.intake) := by
  intro left right
  obtain ⟨given, hgiven⟩ := ({ reactions, intake } : Session).exists_gives first
  obtain ⟨other, hother⟩ := ({ reactions, intake } : Session).exists_gives second
  have hleft : left.intake = given.foldl Intake.offerLine intake := hgiven.intake_eq
  have hright : right.intake = other.foldl Intake.offerLine intake := hother.intake_eq
  have hsame : responsesTo reactions [] first = responsesTo reactions [] second := by
    rw [← responsesTo_events, h, responsesTo_events]
  have hfirst : given <+: responsesTo reactions [] second := hsame ▸ hgiven.isPrefix
  rw [hleft, hright]
  refine ⟨?_, fun hending => ?_, fun hending hother' => ?_⟩
  · rcases List.prefix_or_prefix_of_prefix hfirst hother.isPrefix with hshort | hlong
    · exact .inl (intake.accepted_prefix_of_fewer hshort)
    · exact .inr (intake.accepted_prefix_of_fewer hlong)
  · rw [hgiven.complete hending]
    exact intake.accepted_prefix_of_fewer (hsame ▸ hother.isPrefix)
  · rw [hgiven.complete hending, hother.complete hother']
    exact congrArg (List.foldl Intake.offerLine intake) hsame

/-- Output that asks two questions, the second one some milliseconds after the first. -/
def twoQuestions (gap : Nat) : List StreamStep :=
  [.chunk (Text.Utf8.encode "How many slots do you want to move (from 1)? ".toList), .silence gap,
    .chunk (Text.Utf8.encode "Source node #2: ".toList)]

/-- The answers to both questions. -/
def twoAnswers : List Reaction :=
  Reaction.ofPlan ⟨"target", .node "source", 5⟩

/-- The second question is answered unless it comes too late. -/
theorem accepted_prefix_twoQuestions :
    events (twoQuestions 900) = events (twoQuestions 2500) ∧
      (({ reactions := twoAnswers } : Session).run (twoQuestions 900)).intake.accepted =
        Text.Utf8.encode "5\ndone\n".toList ∧
      (({ reactions := twoAnswers } : Session).run (twoQuestions 2500)).intake.accepted =
        Text.Utf8.encode "5\n".toList ∧
      (({ reactions := twoAnswers } : Session).run (twoQuestions 2500)).intake.accepted <+:
        (({ reactions := twoAnswers } : Session).run (twoQuestions 900)).intake.accepted := by
  have hevents : events (twoQuestions 900) = events (twoQuestions 2500) := by
    simp [events, twoQuestions]
  refine ⟨hevents, ?_, ?_, (accepted_comparable twoAnswers {} _ _ hevents).2.1 ?_⟩
  · decide +kernel
  · decide +kernel
  · decide +kernel

/-- A tool that accepts only so many bytes makes no difference to when and how a session closes and
to how often its owner is told, and has accepted just the first bytes of what a tool without a limit
accepts. -/
theorem accepted_limited (reactions : List Reaction) (steps : List StreamStep) (room : Nat) :
    let limited := ({ reactions, intake := { room := some room } } : Session).run steps
    let unlimited := ({ reactions } : Session).run steps
    limited.ending = unlimited.ending ∧ limited.time = unlimited.time ∧
      limited.notices = 1 ∧ unlimited.notices = 1 ∧
      limited.intake.accepted = unlimited.intake.accepted.take room := by
  intro limited unlimited
  obtain ⟨responses, hgives⟩ := ({ reactions } : Session).exists_gives steps
  have hlimited : limited = { unlimited with
      intake := responses.foldl Intake.offerLine { room := some room } } :=
    hgives.run_eq { room := some room }
  have hunlimited : unlimited.intake = { accepted := responses.flatMap answerLine } :=
    hgives.intake_eq.trans (Intake.foldl_offerLine [] responses)
  have haccepted : limited.intake.accepted = (responses.flatMap answerLine).take room := by
    rw [hlimited]
    exact Intake.foldl_offerLine_limited room [] responses
  refine ⟨?_, ?_, notices_run, notices_run, ?_⟩
  · rw [hlimited]
  · rw [hlimited]
  · rw [haccepted, hunlimited]

end Session

end ClusterSteward.Prompt
