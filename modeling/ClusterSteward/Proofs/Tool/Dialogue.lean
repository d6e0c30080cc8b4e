import ClusterSteward.Proofs.Tool.Talking

/-!
# Dialogues that come to their end

A tool that prints a question, waits for a line and goes on is answered if its output gets that
answer, neither party waits for the other, and the tool never lets too much time pass. Main
statements: `Answered.ask` and `Answered.finish`, from which the run of a whole dialogue is put
together.
-/

namespace ClusterSteward

open Prompt (Calm Elicits Reaction Resumes Trimmed answerLine interval)

namespace Behaviour

/-- The tool prints the output to one of its streams, in any chunks and with any pauses, before it
goes on in the given way. -/
inductive Prints (toErrors : Bool) (next : Behaviour) : List UInt8 → Behaviour → Prop where
  | done : Prints toErrors next [] next
  | print {chunk others output : List UInt8} {tool : Behaviour}
      (houtput : output = chunk ++ others) (hothers : Prints toErrors next others tool) :
      Prints toErrors next output (.print toErrors chunk tool)
  | pause {duration : Nat} {output : List UInt8} {tool : Behaviour}
      (h : Prints toErrors next output tool) : Prints toErrors next output (.pause duration tool)

/-- When the tool is given only the lines, it never lets more than an interval pass without
completing a token. It has printed the fresh output since it was last silent or read, and the old
output before that; then its last token was `quiet` milliseconds old. -/
def Steady (lines : List (List UInt8)) : Behaviour → List UInt8 → List UInt8 → Nat → Prop
  | .print _ chunk next, old, fresh, quiet => Steady lines next old (fresh ++ chunk) quiet
  | .pause duration next, old, fresh, quiet =>
      let since := if isHeard old fresh then 0 else quiet
      since + duration ≤ interval ∧ Steady lines next (old ++ fresh) [] (since + duration)
  | .readLine next, old, fresh, quiet =>
      ∀ line ∈ lines, Steady lines (next (some line)) (old ++ fresh) []
        (if isHeard old fresh then 0 else quiet)
  | _, _, _, _ => True

/-- The run reached the given status after reading the lines of the responses one by one. It was not
interrupted, and torn down only if the end of its output was seen first; its session ended with the
output, and no more than these lines was written after what had been accepted. -/
structure Completed (run : DialogueRun) (overtaken : Bool) (status : WaitStatus)
    (accepted : List UInt8) (responses : List String) : Prop where
  readings : run.readings = responses.map fun response => some (answerLine response)
  status_eq : run.status = status
  tornDown_eq : run.tornDown = overtaken
  uninterrupted : run.interrupted = false
  ending : run.closing.ending = .endOfStream
  intake : run.closing.intake = { accepted := accepted ++ responses.flatMap answerLine }

/-- Whenever the tool has read all that it was written so far and has printed the tail of a question
since, and is steady from there on, its dialogue is completed with the responses. -/
def Answered (circumstances : Circumstances) (reactions : List Reaction) (toErrors : Bool)
    (lines : List (List UInt8)) (tail : List UInt8) (tool : Behaviour) (responses : List String)
    (status : WaitStatus) : Prop :=
  ∀ accepted old fresh quiet exchange,
    Exchange.Underway exchange reactions toErrors circumstances.capacity accepted tail fresh quiet →
    Follows tail (old ++ fresh) → Steady lines tool old fresh quiet →
    Completed (dialogue circumstances tool exchange) circumstances.overtaken status accepted responses

variable {circumstances : Circumstances} {reactions : List Reaction} {toErrors : Bool}
  {lines : List (List UInt8)} {tool next : Behaviour} {exchange : Exchange}
  {accepted printed output old fresh tail later : List UInt8} {quiet : Nat}
  {response : String} {responses : List String} {status : WaitStatus}

/-- While a steady tool prints what passes, the session stays open and goes on answering. -/
theorem Prints.exists_dialogue_eq (h : Prints toErrors next output tool)
    (hpasses : Passes reactions circumstances.capacity (printed ++ output))
    (hunderway : exchange.Underway reactions toErrors circumstances.capacity accepted printed fresh
      quiet)
    (hfollows : Follows printed (old ++ fresh)) (hsteady : Steady lines tool old fresh quiet) :
    ∃ older newer since after,
      dialogue circumstances tool exchange = dialogue circumstances next after ∧
      after.Underway reactions toErrors circumstances.capacity accepted (printed ++ output) newer
        since ∧
      Follows (printed ++ output) (older ++ newer) ∧ Steady lines next older newer since := by
  -- the induction is on what is still to be printed; the exchange changes with every chunk
  induction h generalizing printed old fresh quiet exchange with
  | done =>
      rw [List.append_nil]
      exact ⟨old, fresh, quiet, exchange, rfl, hunderway, hfollows, hsteady⟩
  | @print chunk others output tool houtput _ ih =>
      have hprinted := hunderway.print chunk
      rw [houtput, ← List.append_assoc] at hpasses ⊢
      have hunstuck := hprinted.stuck_eq_false hpasses (List.prefix_append _ _)
      have hchunk := hfollows.append chunk
      rw [List.append_assoc] at hchunk
      obtain ⟨older, newer, since, after, hdialogue, hafter⟩ := ih hpasses hprinted hchunk hsteady
      refine ⟨older, newer, since, after, ?_, hafter⟩
      rw [dialogue, hunstuck, ← hdialogue]
      rfl
  | @pause duration output tool _ ih =>
      obtain ⟨hduration, hsteady⟩ := hsteady
      have hsettled := hunderway.drain.settle exchange.serve.blocked_or_queue_takeRest hfollows
      obtain ⟨paused, hpause, hpaused⟩ := hsettled.pause hduration
      obtain ⟨older, newer, since, after, hdialogue, hafter⟩ :=
        ih hpasses hpaused (by rwa [List.append_nil]) hsteady
      refine ⟨older, newer, since, after, ?_, hafter⟩
      rw [dialogue, hpause]
      exact hdialogue

/-- A tool is answered that asks a question, behind the tail of the question before it, and is
answered after reading the line of its response. -/
theorem Answered.ask {reader : Option (List UInt8) → Behaviour}
    (hprints : Prints toErrors (.readLine reader) output tool)
    (helicits : Elicits reactions (tail ++ output) [response])
    (hresumes : Resumes reactions (tail ++ output) later) (hcalm : Calm reactions later)
    (hfits : (answerLine response).length ≤ circumstances.capacity ∨
      later.length ≤ circumstances.capacity)
    (hresponse : '\n' ∉ response.toList) (hline : answerLine response ∈ lines)
    (h : Answered circumstances reactions toErrors lines later (reader (some (answerLine response)))
      responses status) :
    Answered circumstances reactions toErrors lines tail tool (response :: responses) status := by
  intro accepted old fresh quiet exchange hunderway hfollows hsteady
  obtain ⟨older, newer, since, after, hdialogue, hafter, hnewer, hreads⟩ :=
    hprints.exists_dialogue_eq (.of_resumes helicits hresumes hfits) hunderway hfollows hsteady
  have hsettled := hafter.drain.settle after.serve.blocked_or_queue_takeRest hnewer
  obtain ⟨hread, hconsumed⟩ := hsettled.answered after.serve.blocked_or_queue_takeRest helicits
    hresumes hcalm hresponse
  have hlater := hnewer.of_resumes hresumes
  rw [← List.append_nil (older ++ newer)] at hlater
  obtain ⟨hreadings, hstatus, htornDown, huninterrupted, hending, hintake⟩ :=
    h _ _ _ _ _ hconsumed hlater (hreads _ hline)
  rw [hdialogue, dialogue]
  dsimp only
  rw [hread]
  refine ⟨?_, hstatus, htornDown, huninterrupted, hending, ?_⟩
  · rw [List.map_cons, ← hreadings]
  · rw [List.flatMap_cons, ← List.append_assoc]
    exact hintake

/-- A tool is answered that prints what is calm and ends: what is pending at its end is calm too. -/
theorem Answered.finish (htrimmed : Trimmed reactions)
    (hprints : Prints toErrors (.finish status) output tool)
    (hcalm : Calm reactions (tail ++ output)) :
    Answered circumstances reactions toErrors lines tail tool [] status := by
  intro accepted old fresh quiet exchange hunderway hfollows hsteady
  have hlast : Elicits reactions (tail ++ output ++ [0x0A]) [] :=
    (hcalm.append (.terminator 0x0A htrimmed rfl)).elicits
  obtain ⟨older, newer, since, after, hdialogue, hafter, -, -⟩ :=
    hprints.exists_dialogue_eq (.of_elicits_nil hcalm.elicits) hunderway hfollows hsteady
  obtain ⟨hending, hintake⟩ := hafter.closed hlast
  rw [hdialogue]
  refine ⟨rfl, rfl, rfl, rfl, hending, ?_⟩
  rw [List.flatMap_nil, List.append_nil]
  exact hintake

end Behaviour

end ClusterSteward
