import ClusterSteward.Tool.Dialogue
import ClusterSteward.Proofs.Prompt.Watching

/-!
# Sessions that keep up with a process

A process prints to one of its streams, and the session takes what it can of that, whatever the
schedule is. What it has taken is cut and answered, and the rest waits in the pipe. Main statements:
`Underway.print`, `Underway.drain` and `Underway.pause`, by which this stays so as long as the process
is not silent for too long, and `Underway.answered`, which says what has been written when the process
has printed a question.
-/

namespace ClusterSteward

open Prompt (Calm Cuts Elicits Question Reaction Ready Resumes Session Settled Token answerLine
  answerLines answerLines_append cuts_takeAll interval)

/-! ## Streams -/

namespace Exchange

variable (exchange : Exchange)

/-- Whether the session is blocked depends on the bytes that have been written and not read. -/
theorem blocked_iff : exchange.blocked = true ↔ exchange.freed = false ∧
    exchange.consumed + exchange.capacity < exchange.session.intake.accepted.length := by
  simp [blocked]

/-- A session that is not blocked takes a chunk. -/
theorem take_eq (h : exchange.blocked = false) (step : Take) :
    exchange.take step = { exchange with
      session := exchange.session.receive ((exchange.queue step.fromErrors).take step.limit)
      queue := fun stream ↦
        if stream = step.fromErrors then (exchange.queue step.fromErrors).drop step.limit
        else exchange.queue stream } := by
  rw [take, if_neg (by simp [h])]

/-- A session that is blocked takes nothing. -/
theorem take_of_blocked (h : exchange.blocked = true) (step : Take) :
    exchange.take step = exchange := by
  rw [take, if_pos h]

/-- A session that reads all of a stream leaves nothing in it, unless it is blocked. -/
theorem blocked_or_queue_takeAll (fromErrors : Bool) :
    exchange.blocked = true ∧ exchange.takeAll fromErrors = exchange ∨
      (exchange.takeAll fromErrors).queue fromErrors = [] ∧
        (exchange.takeAll fromErrors).queue (!fromErrors) = exchange.queue (!fromErrors) := by
  cases hblocked : exchange.blocked with
  | true => exact .inl ⟨rfl, exchange.take_of_blocked hblocked _⟩
  | false =>
      rw [takeAll, exchange.take_eq hblocked]
      exact .inr ⟨by simp, by simp⟩

/-- After the session has read the rest, it is blocked or nothing waits. -/
theorem blocked_or_queue_takeRest :
    exchange.takeRest.blocked = true ∨ ∀ stream, exchange.takeRest.queue stream = [] := by
  rw [takeRest]
  rcases exchange.blocked_or_queue_takeAll false with ⟨hblocked, hfirst⟩ | ⟨hfirst, -⟩
  · rw [hfirst, takeAll, exchange.take_of_blocked hblocked]
    exact .inl hblocked
  · rcases (exchange.takeAll false).blocked_or_queue_takeAll true with
      ⟨hblocked, hsecond⟩ | ⟨hsecond, hsame⟩
    · rw [hsecond]
      exact .inl hblocked
    · refine .inr fun stream => ?_
      cases stream with
      | false => exact hsame.trans hfirst
      | true => exact hsecond

/-- Reading a chunk does not free the session. -/
theorem freed_take (step : Take) : (exchange.take step).freed = exchange.freed := by
  rw [take]
  split <;> rfl

/-- Reading the rest does not free the session. -/
theorem freed_takeRest : exchange.takeRest.freed = exchange.freed := by
  rw [takeRest, takeAll, takeAll, freed_take, freed_take]

/-- Reading what the schedule says does not free the session. -/
theorem freed_serve : exchange.serve.freed = exchange.freed := by
  have hfoldl : ∀ (takes : List Take) (exchange : Exchange),
      (takes.foldl take exchange).freed = exchange.freed := by
    intro takes
    induction takes with
    | nil => exact fun _ => rfl
    | cons step takes ih => exact fun exchange => (ih _).trans (exchange.freed_take step)
  rw [serve]
  split
  next => exact exchange.freed_takeRest
  next => exact hfoldl _ _

/-- Reading all that there is does not free the session. -/
theorem freed_drain : exchange.drain.freed = exchange.freed := by
  rw [drain, freed_takeRest, freed_serve]

end Exchange

/-! ## Output that is being answered -/

/-- A chunk is cut behind what has been cut before. If it brings no token then it is pending. -/
theorem Prompt.Ready.exists_receive {reactions : List Reaction} {accepted taken : List UInt8}
    {tokens : List Token} {quiet : Nat} {session : Session}
    (h : Ready reactions (accepted ++ answerLines reactions tokens) session.pending quiet session)
    (hcuts : Cuts [] taken tokens session.pending) (chunk : List UInt8) :
    ∃ more, Cuts [] (taken ++ chunk) (tokens ++ more) (session.receive chunk).pending ∧
      Ready reactions (accepted ++ answerLines reactions (tokens ++ more))
        (session.receive chunk).pending quiet (session.receive chunk) ∧
      (more = [] ∧ (session.receive chunk).pending = session.pending ++ chunk ∧
          (session.receive chunk).heard = session.heard ∨
        (session.receive chunk).heard = true) := by
  obtain ⟨hchunk, -⟩ := cuts_takeAll chunk h.settled
  have hreceived := h.receive chunk
  rw [List.append_assoc, ← answerLines_append] at hreceived
  have hpending := hreceived.pending_eq
  refine ⟨(Token.takeAll (session.pending ++ chunk)).1, ?_, ?_, ?_⟩
  · rw [hpending]
    exact hcuts.append hchunk
  · rw [hpending]
    exact hreceived.mono (by split <;> omega)
  · rw [Session.receive_eq]
    cases hmore : (Token.takeAll (session.pending ++ chunk)).1 with
    | nil =>
        rw [hmore] at hchunk
        exact .inl ⟨rfl, hchunk.eq_of_nil, by simp⟩
    | cons token more => exact .inr (by simp)

/-- The session has taken some output since it had written `accepted`, which the process has read. It
has cut that output into tokens and has written the lines of their responses. Its last token is at
most `quiet` milliseconds old, unless it has heard one since it looked at the clock; and if it has
not, then the `fresh` output is still pending or waits in its stream. -/
structure Exchange.Answers (exchange : Exchange) (reactions : List Reaction) (toErrors : Bool)
    (capacity : Nat) (accepted taken fresh : List UInt8) (tokens : List Token) (quiet : Nat) :
    Prop where
  cuts : Cuts [] taken tokens exchange.session.pending
  ready : Ready reactions (accepted ++ answerLines reactions tokens) exchange.session.pending quiet
    exchange.session
  silent : exchange.queue (!toErrors) = []
  capacity_eq : exchange.capacity = capacity
  consumed_eq : exchange.consumed = accepted.length
  opened : exchange.closed = false
  heard : exchange.blocked = true → exchange.session.heard = true
  unheard : exchange.session.heard = true ∨
    fresh <:+ exchange.session.pending ++ exchange.queue toErrors

/-- The process has printed some output since it read what was `accepted`, and the session has taken
what does not wait in the stream. -/
def Exchange.Underway (exchange : Exchange) (reactions : List Reaction) (toErrors : Bool)
    (capacity : Nat) (accepted printed fresh : List UInt8) (quiet : Nat) : Prop :=
  ∃ taken tokens, printed = taken ++ exchange.queue toErrors ∧
    exchange.Answers reactions toErrors capacity accepted taken fresh tokens quiet

variable {exchange : Exchange} {reactions : List Reaction} {toErrors : Bool}
  {capacity : Nat} {accepted taken printed fresh old : List UInt8} {tokens : List Token} {quiet : Nat}
  {responses : List String}

/-- Tokens for which more has been written than a pipe holds have got a response. -/
theorem answered_of_lt (h : capacity < (answerLines reactions tokens).length) :
    tokens.filterMap (Reaction.respond reactions) ≠ [] := by
  intro hnone
  rw [answerLines, hnone] at h
  cases h

namespace Exchange.Answers

/-- The session is blocked exactly when the lines that the process has not read are more than its
pipe holds. -/
theorem blocked_iff
    (h : exchange.Answers reactions toErrors capacity accepted taken fresh tokens quiet) :
    exchange.blocked = true ↔
      exchange.freed = false ∧ capacity < (answerLines reactions tokens).length := by
  rw [exchange.blocked_iff, h.consumed_eq, h.capacity_eq, h.ready.intake_eq, List.length_append,
    Nat.add_lt_add_iff_left]

/-- A blocked session has answered. -/
theorem answered_of_blocked
    (h : exchange.Answers reactions toErrors capacity accepted taken fresh tokens quiet)
    (hblocked : exchange.blocked = true) :
    tokens.filterMap (Reaction.respond reactions) ≠ [] :=
  answered_of_lt (h.blocked_iff.1 hblocked).2

end Exchange.Answers

namespace Exchange.Underway

/-- A session that takes a chunk goes on answering. -/
theorem take (h : exchange.Underway reactions toErrors capacity accepted printed fresh quiet)
    (step : Take) :
    (exchange.take step).Underway reactions toErrors capacity accepted printed fresh quiet := by
  obtain ⟨taken, tokens, hprinted, hanswers⟩ := h
  cases hblocked : exchange.blocked with
  | true =>
      rw [exchange.take_of_blocked hblocked]
      exact ⟨taken, tokens, hprinted, hanswers⟩
  | false =>
      let chunk := (exchange.queue step.fromErrors).take step.limit
      obtain ⟨more, hcuts, hready, hheard⟩ := hanswers.ready.exists_receive hanswers.cuts chunk
      have htake := exchange.take_eq hblocked step
      -- nothing is lost between the session and the streams
      have hqueue : chunk ++ (exchange.take step).queue toErrors = exchange.queue toErrors ∧
          (exchange.take step).queue (!toErrors) = [] := by
        have hsilent := hanswers.silent
        rw [htake]
        cases toErrors <;> cases hstream : step.fromErrors <;> simp_all [chunk]
      have hsession : (exchange.take step).session = exchange.session.receive chunk := by
        rw [htake]
      refine ⟨taken ++ chunk, tokens ++ more, ?_, ?_⟩
      · rw [List.append_assoc, hqueue.1]
        exact hprinted
      · refine ⟨hsession ▸ hcuts, hsession ▸ hready, hqueue.2, ?_, ?_, ?_, fun hafter => ?_, ?_⟩
        · exact htake ▸ hanswers.capacity_eq
        · exact htake ▸ hanswers.consumed_eq
        · exact htake ▸ hanswers.opened
        · rw [hsession]
          rcases hheard with ⟨rfl, -, -⟩ | hheard
          · -- without a token nothing has been written, so the session is not blocked by the chunk
            have hbefore : exchange.blocked = true := by
              rw [Exchange.blocked_iff, hsession, hready.intake_eq, List.append_nil, htake] at hafter
              rw [exchange.blocked_iff, hanswers.ready.intake_eq]
              exact hafter
            cases hblocked.symm.trans hbefore
          · exact hheard
        · rw [hsession]
          rcases hheard with ⟨-, hpending, hsame⟩ | hheard
          · rw [hsame, hpending, List.append_assoc, hqueue.1]
            exact hanswers.unheard
          · exact .inl hheard

/-- A session that takes one chunk after another goes on answering. -/
theorem foldl_take (h : exchange.Underway reactions toErrors capacity accepted printed fresh quiet)
    (takes : List Take) :
    (takes.foldl Exchange.take exchange).Underway reactions toErrors capacity accepted printed fresh
      quiet := by
  induction takes generalizing exchange with
  | nil => exact h
  | cons step takes ih => exact ih (h.take step)

/-- A session that takes the rest goes on answering. -/
theorem takeRest (h : exchange.Underway reactions toErrors capacity accepted printed fresh quiet) :
    exchange.takeRest.Underway reactions toErrors capacity accepted printed fresh quiet :=
  (h.take _).take _

/-- A session goes on answering whatever the schedule is. -/
theorem serve (h : exchange.Underway reactions toErrors capacity accepted printed fresh quiet) :
    exchange.serve.Underway reactions toErrors capacity accepted printed fresh quiet := by
  rw [Exchange.serve]
  split
  next => exact h.takeRest
  next takes schedule _ =>
      have hnext : ({ exchange with schedule } : Exchange).Underway reactions toErrors capacity
          accepted printed fresh quiet := by
        obtain ⟨taken, tokens, hprinted, hanswers⟩ := h
        exact ⟨taken, tokens, hprinted, { hanswers with heard := hanswers.heard }⟩
      exact hnext.foldl_take takes

/-- A session that takes all it can goes on answering. -/
theorem drain (h : exchange.Underway reactions toErrors capacity accepted printed fresh quiet) :
    exchange.drain.Underway reactions toErrors capacity accepted printed fresh quiet :=
  h.serve.takeRest

/-- A session goes on answering when the process prints more. -/
theorem print (h : exchange.Underway reactions toErrors capacity accepted printed fresh quiet)
    (bytes : List UInt8) :
    (exchange.print toErrors bytes).Underway reactions toErrors capacity accepted
      (printed ++ bytes) (fresh ++ bytes) quiet := by
  obtain ⟨taken, tokens, hprinted, hanswers⟩ := h
  have hqueued : ({ exchange with queue := fun stream ↦
      if stream = toErrors then exchange.queue stream ++ bytes else exchange.queue stream } :
        Exchange).Underway reactions toErrors capacity accepted (printed ++ bytes) (fresh ++ bytes)
          quiet := by
    refine ⟨taken, tokens, ?_, { hanswers with silent := ?_, heard := hanswers.heard, unheard := ?_ }⟩
    · simp [hprinted]
    · simpa using hanswers.silent
    · refine hanswers.unheard.imp_right fun ⟨before, hfresh⟩ => ⟨before, ?_⟩
      simp only [if_pos, ← List.append_assoc, hfresh]
  rw [Exchange.print, if_neg (by simp [hanswers.opened])]
  dsimp only
  split
  next => exact hqueued.serve.takeRest
  next => exact hqueued.serve

end Exchange.Underway

/-! ## Silence -/

/-- Whether a session that has taken all the output has heard a token in the fresh part of it: the
fresh output holds a terminator, or it ends in a colon and a space together with the old output. -/
def isHeard (old fresh : List UInt8) : Bool :=
  fresh.any Token.isTerminator || (!fresh.isEmpty && Token.isOpen (old ++ fresh))

/-- All output ends with what was printed since some moment, at which it did not end in a colon. -/
def Follows (printed output : List UInt8) : Prop :=
  ∃ before, output = before ++ printed ∧ before.getLast? ≠ some 0x3A

/-- What is printed next was printed since the same moment. -/
theorem Follows.append {output : List UInt8} (h : Follows printed output) (bytes : List UInt8) :
    Follows (printed ++ bytes) (output ++ bytes) := by
  obtain ⟨before, rfl, hbefore⟩ := h
  exact ⟨before, List.append_assoc .., hbefore⟩

/-- The tail of a question was printed since the question got its response. -/
theorem Follows.of_resumes {output tail : List UInt8} (h : Follows printed output)
    (hresumes : Resumes reactions printed tail) : Follows tail output := by
  obtain ⟨before, rfl, hbefore⟩ := h
  obtain ⟨question, rfl, hquestion, -⟩ := hresumes
  refine ⟨before ++ question, (List.append_assoc ..).symm, ?_⟩
  rw [List.getLast?_append]
  cases hlast : question.getLast? with
  | none => exact hbefore
  | some byte => exact fun heq => hquestion (hlast.trans heq)

namespace Exchange.Underway

/-- When the session has taken all it can, the last token is new if one was heard in the fresh
output. -/
theorem settle (h : exchange.Underway reactions toErrors capacity accepted printed fresh quiet)
    (hdrained : exchange.blocked = true ∨ ∀ stream, exchange.queue stream = [])
    (hfollows : Follows printed (old ++ fresh)) :
    exchange.Underway reactions toErrors capacity accepted printed []
      (if isHeard old fresh then 0 else quiet) := by
  obtain ⟨taken, tokens, hprinted, hanswers⟩ := h
  have hready := hanswers.ready
  have hsince : Ready reactions (accepted ++ answerLines reactions tokens)
      exchange.session.pending (if isHeard old fresh then 0 else quiet) exchange.session := by
    cases hsession : exchange.session.heard with
    | true => exact hready.of_heard hsession _
    | false =>
        have hqueue : exchange.queue toErrors = [] := by
          rcases hdrained with hblocked | hqueue
          · cases (hanswers.heard hblocked).symm.trans hsession
          · exact hqueue toErrors
        have hfresh : fresh <:+ exchange.session.pending := by
          have hunheard := hanswers.unheard
          rw [hqueue, List.append_nil, hsession] at hunheard
          exact hunheard.resolve_left Bool.false_ne_true
        rw [hqueue, List.append_nil] at hprinted
        have hnone : isHeard old fresh = false := by
          refine Bool.or_eq_false_iff.2 ⟨?_, Bool.eq_false_iff.2 fun hopen => ?_⟩
          · exact List.any_eq_false.2 fun byte hbyte => by
              simp [hready.settled.unterminated byte (hfresh.subset hbyte)]
          · obtain ⟨hne, hopen⟩ := Bool.and_eq_true_iff.1 hopen
            obtain ⟨before, houtput, hbefore⟩ := hfollows
            have hpending : exchange.session.pending ≠ [] := by
              intro hnil
              rw [hnil] at hfresh
              simp [List.suffix_nil.1 hfresh] at hne
            rw [houtput, hprinted] at hopen
            cases hready.settled.closed.symm.trans
              (hanswers.cuts.isOpen_rest hbefore hopen hpending)
        rw [hnone]
        exact hready
  exact ⟨taken, tokens, hprinted,
    { hanswers with ready := hsince, unheard := .inr List.nil_suffix }⟩

/-- A silence that ends at most an interval after the last token leaves the session open. -/
theorem pause {duration : Nat}
    (h : exchange.Underway reactions toErrors capacity accepted printed [] quiet)
    (hduration : quiet + duration ≤ interval) :
    ∃ after, exchange.pause duration = .ok after ∧
      after.Underway reactions toErrors capacity accepted printed [] (quiet + duration) := by
  obtain ⟨taken, tokens, hprinted, hanswers⟩ := h
  have hready := hanswers.ready
  rw [Exchange.pause]
  cases hblocked : exchange.blocked with
  | true =>
      have hstalled := hready.stall (hanswers.heard hblocked) duration (quiet + duration)
      rw [if_pos rfl]
      exact ⟨_, rfl, taken, tokens, hprinted,
        { hanswers with ready := hstalled, heard := hanswers.heard, unheard := .inr List.nil_suffix }⟩
  | false =>
      obtain ⟨session, hwait, hwaited⟩ := hready.wait hduration
      have hunblocked : ({ exchange with session } : Exchange).blocked = false := by
        rw [← hblocked, Exchange.blocked, Exchange.blocked, hwaited.intake_eq, hready.intake_eq]
      rw [if_neg Bool.false_ne_true, hanswers.opened, if_neg Bool.false_ne_true, hwait]
      refine ⟨_, rfl, taken, tokens, hprinted, { hanswers with
        cuts := ?_, ready := ?_, opened := rfl, heard := ?_, unheard := .inr List.nil_suffix }⟩
      · exact hwaited.pending_eq.symm ▸ hanswers.cuts
      · exact hwaited.pending_eq.symm ▸ hwaited
      · intro hafter
        cases hunblocked.symm.trans hafter

end Exchange.Underway

/-! ## Questions -/

/-- Once more has been written than the pipe holds, what is left of the output fits into it. -/
def Passes (reactions : List Reaction) (capacity : Nat) (output : List UInt8) : Prop :=
  ∀ taken queue tokens rest, taken ++ queue <+: output → Cuts [] taken tokens rest → Settled rest →
    capacity < (answerLines reactions tokens).length → queue.length ≤ capacity

variable {output tail : List UInt8} {response : String}

/-- Output without responses passes. -/
theorem Passes.of_elicits_nil (h : Elicits reactions output []) :
    Passes reactions capacity output := by
  intro taken queue tokens rest houtput hcuts hsettled hlong
  obtain ⟨more, rfl⟩ := houtput
  rw [List.append_assoc] at h
  exact absurd (List.prefix_nil.1 (h.isPrefix hcuts hsettled)) (answered_of_lt hlong)

/-- A question passes if its response or its tail fits into a pipe. -/
theorem Passes.of_resumes (h : Elicits reactions output [response])
    (hresumes : Resumes reactions output tail)
    (hfits : (answerLine response).length ≤ capacity ∨ tail.length ≤ capacity) :
    Passes reactions capacity output := by
  intro taken queue tokens rest houtput hcuts hsettled hlong
  have hanswered := answered_of_lt hlong
  rcases hfits with hfits | hfits
  · obtain ⟨more, rfl⟩ := houtput
    rw [List.append_assoc] at h
    rw [answerLines, h.eq_singleton hcuts hsettled hanswered, List.flatMap_singleton] at hlong
    omega
  · obtain ⟨before, rfl, -, hresume⟩ := hresumes
    obtain ⟨behind, first, more, rfl, -, -⟩ := hresume taken tokens rest
      ((List.prefix_append _ _).trans houtput) hcuts hsettled hanswered
    rw [List.append_assoc, List.prefix_append_right_inj] at houtput
    have hlength := houtput.length_le
    rw [List.length_append] at hlength
    omega

/-- The line of a response without newlines is the first line of itself. -/
theorem Behaviour.takeLine_answerLine (h : '\n' ∉ response.toList) :
    takeLine (answerLine response) = (answerLine response, []) := by
  have hnone : newline ∉ Text.Utf8.encode response.toList := Text.Utf8.newline_not_mem_encode h
  have hbody : ∀ byte ∈ Text.Utf8.encode response.toList, decide (byte ≠ newline) = true := by
    intro byte hbyte
    have hne : byte ≠ newline := fun heq => hnone (heq ▸ hbyte)
    simpa using hne
  have hnewline : answerLine response = Text.Utf8.encode response.toList ++ [newline] := rfl
  rw [takeLine, hnewline, List.takeWhile_append_of_pos hbody, List.dropWhile_append_of_pos hbody]
  simp

namespace Exchange.Underway

/-- A session that goes on answering does not get stuck over output that passes. -/
theorem stuck_eq_false (h : exchange.Underway reactions toErrors capacity accepted printed fresh quiet)
    (hpasses : Passes reactions capacity output) (hprinted : printed <+: output) :
    exchange.stuck = false := by
  obtain ⟨taken, tokens, rfl, hanswers⟩ := h
  refine Bool.eq_false_iff.2 fun hstuck => ?_
  obtain ⟨hblocked, hoverfull⟩ := Bool.and_eq_true_iff.1 hstuck
  have hqueue : (exchange.queue toErrors).length ≤ capacity :=
    hpasses taken _ tokens _ hprinted hanswers.cuts hanswers.ready.settled
      (hanswers.blocked_iff.1 hblocked).2
  have hsilent := congrArg List.length hanswers.silent
  have hcapacity := hanswers.capacity_eq
  cases toErrors <;> simp_all [overfull] <;> omega

/-- When a question has been printed and the session has taken all it can, its response is written and
is what the process reads next. After that the tail of the question is what has been printed. -/
theorem answered (h : exchange.Underway reactions toErrors capacity accepted printed [] quiet)
    (hdrained : exchange.blocked = true ∨ ∀ stream, exchange.queue stream = [])
    (helicits : Elicits reactions printed [response]) (hresumes : Resumes reactions printed tail)
    (hcalm : Calm reactions tail) (hresponse : '\n' ∉ response.toList) :
    exchange.line? = some (answerLine response) ∧
      (exchange.consume (answerLine response)).Underway reactions toErrors capacity
        (accepted ++ answerLine response) tail [] quiet := by
  obtain ⟨taken, tokens, rfl, hanswers⟩ := h
  have hone : tokens.filterMap (Reaction.respond reactions) = [response] := by
    rcases hdrained with hblocked | hqueue
    · exact helicits.eq_singleton hanswers.cuts hanswers.ready.settled
        (hanswers.answered_of_blocked hblocked)
    · rw [hqueue, List.append_nil] at helicits
      exact helicits _ _ _ Prompt.opening_nil hanswers.cuts hanswers.ready.settled.closed
  obtain ⟨before, hoverall, -, hresume⟩ := hresumes
  obtain ⟨behind, first, more, rfl, rfl, hbehind⟩ := hresume taken tokens _ (List.prefix_append _ _)
    hanswers.cuts hanswers.ready.settled (by simp [hone])
  rw [List.append_assoc, List.append_cancel_left_eq] at hoverall
  subst hoverall
  -- what follows the question has no responses, so its line is all that has been written
  have hmore : more.filterMap (Reaction.respond reactions) = [] :=
    List.prefix_nil.1 (hcalm.elicits.isPrefix hbehind hanswers.ready.settled)
  have hline : answerLines reactions (first ++ more) = answerLine response := by
    rw [answerLines, hone, List.flatMap_singleton]
  have hnothing : answerLines reactions more = [] := by
    rw [answerLines, hmore]
    rfl
  have hready := hanswers.ready
  rw [hline, ← List.append_nil (accepted ++ answerLine response), ← hnothing] at hready
  have hintake := hready.intake_eq
  rw [hnothing, List.append_nil] at hintake
  refine ⟨?_, behind, more, rfl, hbehind, hready, hanswers.silent, hanswers.capacity_eq, ?_,
    hanswers.opened, fun hblocked => ?_, .inr List.nil_suffix⟩
  · have hwaiting : exchange.session.intake.accepted.drop exchange.consumed = answerLine response := by
      rw [hintake, hanswers.consumed_eq]
      exact List.drop_left
    have hnewline : Behaviour.newline ∈ answerLine response :=
      List.mem_append_right _ (List.mem_singleton.2 rfl)
    rw [line?, hwaiting, if_pos hnewline, Behaviour.takeLine_answerLine hresponse]
  · rw [consume, hanswers.consumed_eq, List.length_append]
  · obtain ⟨-, hlong⟩ := (exchange.consume _).blocked_iff.1 hblocked
    change exchange.consumed + (answerLine response).length + exchange.capacity <
      exchange.session.intake.accepted.length at hlong
    rw [hintake, hanswers.consumed_eq, List.length_append] at hlong
    omega

/-- When the process has ended, the session takes the rest and closes. It writes nothing more if the
output elicits nothing, with what is pending at its end as the last token. -/
theorem closed (h : exchange.Underway reactions toErrors capacity accepted printed fresh quiet)
    (helicits : Elicits reactions (printed ++ [0x0A]) []) :
    exchange.close.ending = .endOfStream ∧ exchange.close.intake = { accepted } := by
  have hfreed : exchange.free.Underway reactions toErrors capacity accepted printed fresh quiet := by
    obtain ⟨taken, tokens, hprinted, hanswers⟩ := h
    exact ⟨taken, tokens, hprinted, { hanswers with heard := nofun }⟩
  obtain ⟨taken, tokens, hprinted, hanswers⟩ := hfreed.drain
  have hunblocked : ¬ exchange.free.drain.blocked = true := by
    intro hblocked
    have hwaits := (hanswers.blocked_iff.1 hblocked).1
    rw [exchange.free.freed_drain] at hwaits
    cases hwaits
  have hqueue := (exchange.free.serve.blocked_or_queue_takeRest).resolve_left hunblocked toErrors
  rw [Exchange.drain, hqueue, List.append_nil] at hprinted
  subst hprinted
  have hall := helicits _ _ _ Prompt.opening_nil
    (hanswers.cuts.append (.terminator rfl .finish)) rfl
  rw [List.filterMap_append, List.append_eq_nil_iff] at hall
  obtain ⟨hnone, hlast⟩ := hall
  have hpending : Reaction.respond reactions exchange.free.drain.session.pending = none :=
    List.filterMap_eq_nil_iff.1 hlast _ (List.mem_singleton.2 rfl)
  have hclose := hanswers.ready.close hpending
  rw [answerLines, hnone, List.flatMap_nil, List.append_nil] at hclose
  exact hclose

end Exchange.Underway

end ClusterSteward
