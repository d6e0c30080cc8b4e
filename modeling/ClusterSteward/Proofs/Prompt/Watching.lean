import ClusterSteward.Proofs.Prompt.Questions
import ClusterSteward.Proofs.Prompt.Stepping

/-!
# Sessions that stay open

A session closes as idle only when an interval between two looks at the clock brings no token. Main
statements: `Ready.wait`, by which it stays open as long as the last token is at most an interval
old, and `Ready.receive`, which says what a chunk of output does to such a session.
-/

namespace ClusterSteward.Prompt

open Token (isTerminator isOpen)

/-- A response as the line that is written to the tool. -/
def answerLine (response : String) : List UInt8 :=
  Text.Utf8.encode response.toList ++ [0x0A]

/-- The line of a response in ASCII is that of no other response. -/
theorem eq_of_answerLine_eq {response other : String}
    (hascii : Text.Utf8.Ascii (Text.Utf8.encode other.toList))
    (h : answerLine response = answerLine other) : response = other := by
  have hbytes : Text.Utf8.encode response.toList = Text.Utf8.encode other.toList :=
    List.append_cancel_right h
  have hcodes := Text.Utf8.map_toNat_encode (hbytes ▸ hascii)
  rw [hbytes, Text.Utf8.map_toNat_encode hascii] at hcodes
  have hinjective : Function.Injective Char.toNat :=
    fun c d hcd => Char.ext (UInt32.toNat_inj.1 hcd)
  exact String.toList_inj.1 (hinjective.list_map hcodes).symm

/-- An open session with an unlimited intake, which has accepted some bytes, that has some output
pending, and whose last token, or else whose start, is some milliseconds old. -/
structure Ready (reactions : List Reaction) (accepted pending : List UInt8) (quiet : Nat)
    (session : Session) : Prop where
  reactions_eq : session.reactions = reactions
  intake_eq : session.intake = { accepted }
  pending_eq : session.pending = pending
  settled : Settled pending
  onTime : session.time ≤ session.nextLook
  unheard : session.heard = false → session.time ≤ quiet + interval * session.looks

variable {reactions : List Reaction} {accepted pending chunk : List UInt8} {quiet : Nat}
  {session : Session}

/-- An unlimited intake accepts the whole line. -/
theorem Intake.offerLine_unlimited (accepted : List UInt8) (response : String) :
    ({ accepted } : Intake).offerLine response =
      { accepted := accepted ++ answerLine response } := by
  simp [Intake.offerLine, Intake.offer, answerLine]

/-- An unlimited intake accepts the lines of all responses. -/
theorem Intake.foldl_offerLine (accepted : List UInt8) (responses : List String) :
    responses.foldl Intake.offerLine { accepted } =
      { accepted := accepted ++ responses.flatMap answerLine } := by
  induction responses generalizing accepted with
  | nil => simp
  | cons response responses ih =>
      rw [List.foldl_cons, Intake.offerLine_unlimited, ih, List.append_assoc, List.flatMap_cons]

/-- The lines of the responses to some tokens. -/
def answerLines (reactions : List Reaction) (tokens : List Token) : List UInt8 :=
  (tokens.filterMap (Reaction.respond reactions)).flatMap answerLine

/-- The lines of tokens before others come first. -/
theorem answerLines_append (tokens others : List Token) :
    answerLines reactions (tokens ++ others) =
      answerLines reactions tokens ++ answerLines reactions others := by
  rw [answerLines, List.filterMap_append, List.flatMap_append]
  rfl

/-- Tokens are answered in order, and if there are any then the last one is new. -/
theorem Ready.answerAll (h : Ready reactions accepted pending quiet session)
    (tokens : List Token) :
    Ready reactions (accepted ++ answerLines reactions tokens) pending
      (if tokens.isEmpty then quiet else 0) (tokens.foldl Session.answer session) := by
  obtain ⟨rfl, hintake, hpending, hsettled, honTime, hunheard⟩ := h
  rw [Session.foldl_answer, hintake, Intake.foldl_offerLine]
  refine ⟨rfl, rfl, hpending, hsettled, honTime, fun hheard => ?_⟩
  obtain ⟨hbefore, hnone⟩ := Bool.or_eq_false_iff.1 hheard
  rw [if_pos (by simpa using hnone)]
  exact hunheard hbefore

/-- A chunk of output is cut together with what is pending, and its tokens are answered. -/
theorem Ready.receive (h : Ready reactions accepted pending quiet session) (chunk : List UInt8) :
    Ready reactions (accepted ++ answerLines reactions (Token.takeAll (pending ++ chunk)).1)
      (Token.takeAll (pending ++ chunk)).2
      (if (Token.takeAll (pending ++ chunk)).1.isEmpty then quiet else 0)
      (session.receive chunk) := by
  obtain ⟨hreactions, hintake, rfl, hsettled, honTime, hunheard⟩ := h
  have hcut : Ready reactions accepted (Token.takeAll (session.pending ++ chunk)).2 quiet
      { session with pending := (Token.takeAll (session.pending ++ chunk)).2 } :=
    ⟨hreactions, hintake, rfl, (cuts_takeAll chunk hsettled).2, honTime, hunheard⟩
  exact hcut.answerAll _

/-- A silence that ends at most an interval after the last token leaves the session open. -/
theorem Ready.wait {duration : Nat} (h : Ready reactions accepted pending quiet session)
    (hduration : quiet + duration ≤ interval) :
    ∃ after, session.wait duration = .ok after ∧
      Ready reactions accepted pending (quiet + duration) after := by
  obtain ⟨hreactions, hintake, hpending, hsettled, honTime, hunheard⟩ := h
  rw [Session.nextLook, Nat.mul_succ] at honTime
  rcases session.wait_cases duration with
    ⟨hlook, hwait⟩ | ⟨hheard, hlook, hagain, hwait⟩ | ⟨hidle, hwait⟩
  · refine ⟨_, hwait, hreactions, hintake, hpending, hsettled, hlook, fun hheard => ?_⟩
    show session.time + duration ≤ quiet + duration + interval * session.looks
    have := hunheard hheard
    omega
  · refine ⟨_, hwait, hreactions, hintake, hpending, hsettled, hagain, fun _ => ?_⟩
    show session.time + duration ≤ quiet + duration + interval * (session.looks + 1)
    rw [Nat.mul_succ]
    omega
  · -- the silence ends before a look could find the tool idle
    rw [Session.idleLook, Session.nextLook, Nat.mul_succ] at hidle
    cases hheard : session.heard with
    | true =>
        rw [if_pos hheard] at hidle
        omega
    | false =>
        have := hunheard hheard
        rw [if_neg (by simp [hheard])] at hidle
        omega

/-- A session that has heard a token since the last look is as if the token was new. -/
theorem Ready.of_heard (h : Ready reactions accepted pending quiet session)
    (hheard : session.heard = true) (since : Nat) :
    Ready reactions accepted pending since session :=
  ⟨h.reactions_eq, h.intake_eq, h.pending_eq, h.settled, h.onTime, fun hnone => by
    cases hheard.symm.trans hnone⟩

/-- A last token that is not as old as it is said to be does no harm. -/
theorem Ready.mono {since : Nat} (h : Ready reactions accepted pending quiet session)
    (hquiet : quiet ≤ since) : Ready reactions accepted pending since session :=
  ⟨h.reactions_eq, h.intake_eq, h.pending_eq, h.settled, h.onTime, fun hheard =>
    (h.unheard hheard).trans (Nat.add_le_add_right hquiet _)⟩

/-- A silence during which the session could not look at the clock leaves it open, if it has heard a
token before. -/
theorem Ready.stall (h : Ready reactions accepted pending quiet session)
    (hheard : session.heard = true) (duration since : Nat) :
    Ready reactions accepted pending since (session.stall duration) :=
  ⟨h.reactions_eq, h.intake_eq, h.pending_eq, h.settled, Nat.min_le_right _ _, fun hnone => by
    cases hheard.symm.trans hnone⟩

/-- When the output ends and what is pending has no response, nothing more is written. -/
theorem Ready.close (h : Ready reactions accepted pending quiet session)
    (hpending : Reaction.respond reactions pending = none) :
    session.close.ending = .endOfStream ∧ session.close.intake = { accepted } := by
  refine ⟨rfl, ?_⟩
  have hunanswered : answerLines reactions (Token.takeLast session.pending) = [] := by
    rw [h.pending_eq, Token.takeLast_of_settled h.settled, Token.lastToken]
    split
    next => rfl
    next =>
      rw [answerLines, List.filterMap_cons_none hpending]
      rfl
  have hclosed := (h.answerAll (Token.takeLast session.pending)).intake_eq
  rw [hunanswered, List.append_nil] at hclosed
  exact hclosed

end ClusterSteward.Prompt
