import ClusterSteward.Proofs.Node.Lines
import ClusterSteward.Proofs.Plan.Grounding
import ClusterSteward.Proofs.Prompt.Writing

/-!
# One line for each answer

The ids that a plan names stand in the listing, and the id of a listed node never spans lines,
however badly its line is formed. So every response to the questions about a plan is one line, and
the tool that asks them reads the answers one by one. Main statement:
`written_line_by_line_of_planned`.
-/

namespace ClusterSteward

open Prompt

/-! ## Responses on one line -/

/-- No id that the plan names spans lines. -/
structure Plan.IdsOnOneLine (plan : Plan) : Prop where
  target : '\n' ∉ plan.target.toList
  source : ∀ id, plan.source = .node id → '\n' ∉ id.toList

/-- No response of the table spans lines. -/
def Prompt.Reaction.OnOneLine (reactions : List Reaction) : Prop :=
  ∀ reaction ∈ reactions, '\n' ∉ reaction.response.toList

/-- What grounds a plan on a listing that was read is named by ids on one line. -/
theorem Migration.Goal.Grounded.idsOnOneLine {text : String} {goal : Goal} {plan : Plan}
    (h : Grounded (.parse text) goal plan) : plan.IdsOnOneLine where
  target := by
    obtain ⟨node, hnode, hid, -⟩ := h.target_listed
    exact hid ▸ Listing.newline_not_mem_id hnode
  source id hsource := by
    obtain ⟨-, node, hnode, hid, -⟩ := h.source_listed id hsource
    exact hid ▸ Listing.newline_not_mem_id hnode

namespace Prompt

/-- The responses to the questions about a plan are its ids, a number and words. -/
theorem Reaction.onOneLine_ofPlan {plan : Plan} (h : plan.IdsOnOneLine) :
    OnOneLine (ofPlan plan) := by
  have hsource : '\n' ∉ plan.source.text.toList := by
    cases hplan : plan.source with
    | all => decide
    | node id => exact h.source id hplan
  intro reaction hreaction
  simp only [ofPlan, List.mem_append, List.mem_cons, List.not_mem_nil, or_false] at hreaction
  rcases hreaction with ((rfl | rfl | rfl) | hsecond) | rfl
  · exact Text.newline_not_mem_repr plan.count
  · exact h.target
  · exact hsource
  · split at hsecond
    next => cases hsecond
    next =>
      obtain rfl := List.mem_singleton.1 hsecond
      decide
  · decide

/-- The responses to tokens are on one line when those of the table are. -/
theorem Reaction.OnOneLine.newline_not_mem {reactions : List Reaction} (h : OnOneLine reactions)
    {tokens : List Token} {response : String}
    (hresponse : response ∈ tokens.filterMap (respond reactions)) : '\n' ∉ response.toList := by
  obtain ⟨token, -, htoken⟩ := List.mem_filterMap.1 hresponse
  obtain ⟨reaction, hfound, rfl⟩ := Option.map_eq_some_iff.1 htoken
  exact h reaction (List.mem_of_find?_eq_some hfound)

/-- The lines of responses on one line are cut at the newlines into the responses. -/
theorem splitOn_flatMap_answerLine {responses : List String}
    (h : ∀ response ∈ responses, '\n' ∉ response.toList) :
    (responses.flatMap answerLine).splitOn 0x0A =
      responses.map (fun response ↦ Text.Utf8.encode response.toList) ++ [[]] := by
  induction responses with
  | nil => rfl
  | cons response responses ih =>
      obtain ⟨hfirst, hothers⟩ := List.forall_mem_cons.1 h
      have hbody : (Text.Utf8.encode response.toList).splitOn 0x0A =
          [Text.Utf8.encode response.toList] :=
        List.splitOnP_eq_singleton fun byte hbyte => beq_eq_false_iff_ne.2 fun heq =>
          Text.Utf8.newline_not_mem_encode hfirst (heq ▸ hbyte)
      have hsplit : (Text.Utf8.encode response.toList ++
            0x0A :: responses.flatMap answerLine).splitOn 0x0A =
          (Text.Utf8.encode response.toList).splitOn 0x0A ++
            (responses.flatMap answerLine).splitOn 0x0A :=
        List.splitOnP_append_cons _ _ (by decide)
      rw [List.flatMap_cons, answerLine, List.append_assoc, List.singleton_append, hsplit, hbody,
        ih hothers]
      rfl

/-- The lines of responses on one line hold a newline each. -/
theorem count_flatMap_answerLine {responses : List String}
    (h : ∀ response ∈ responses, '\n' ∉ response.toList) :
    (responses.flatMap answerLine).count 0x0A = responses.length := by
  have hline : ∀ response ∈ responses, (List.count 0x0A ∘ answerLine) response = 1 := by
    intro response hresponse
    rw [Function.comp_apply, answerLine, List.count_append,
      List.count_eq_zero_of_not_mem (Text.Utf8.newline_not_mem_encode (h response hresponse))]
    rfl
  rw [List.count_flatMap, List.map_congr_left hline]
  simp

/-! ## What the tool is written -/

/-- The bytes are the answers to the tokens, line by line. -/
structure LineByLine (reactions : List Reaction) (tokens : List Token) (written : List UInt8) :
    Prop where
  /-- The written bytes are the answers in order, each followed by a newline. -/
  written_eq : written = (tokens.filterMap (Reaction.respond reactions)).flatMap answerLine
  /-- No answer holds a newline itself. -/
  onOneLine : ∀ answer ∈ tokens.filterMap (Reaction.respond reactions), '\n' ∉ answer.toList
  /-- What is read line by line is one answer after the other, and nothing is left over. -/
  lines_eq : written.splitOn 0x0A = (tokens.filterMap (Reaction.respond reactions)).map
    (fun answer ↦ Text.Utf8.encode answer.toList) ++ [[]]
  /-- There are as many newlines as tokens that are answered. -/
  count_eq : written.count 0x0A =
    tokens.countP fun token ↦ (Reaction.respond reactions token).isSome

/-- A table with responses on one line answers line by line. -/
theorem Reaction.OnOneLine.lineByLine {reactions : List Reaction} (h : OnOneLine reactions)
    (tokens : List Token) : LineByLine reactions tokens (answerLines reactions tokens) where
  written_eq := rfl
  onOneLine _ := h.newline_not_mem
  lines_eq := splitOn_flatMap_answerLine fun _ => h.newline_not_mem
  count_eq := by
    rw [answerLines, count_flatMap_answerLine fun _ => h.newline_not_mem,
      List.length_filterMap_eq_countP]

/-- A session writes the lines of its answers to the tokens that it takes, and to a tool with limited
room the first bytes of them. -/
theorem Session.accepted_run (reactions : List Reaction) (steps : List StreamStep) :
    let session : Session := { reactions }
    (session.run steps).intake.accepted = answerLines reactions (session.tokens steps) ∧
      ∀ room, (({ reactions, intake := { room := some room } } : Session).run
        steps).intake.accepted = (answerLines reactions (session.tokens steps)).take room := by
  intro session
  have hgives := session.gives_tokens steps
  refine ⟨?_, fun room => ?_⟩
  · rw [hgives.intake_eq]
    exact congrArg Intake.accepted (Intake.foldl_offerLine [] _)
  · rw [hgives.run_eq { room := some room }]
    exact Intake.foldl_offerLine_limited room [] _

end Prompt

namespace Migration.Goal

variable {goal : Goal} {plans : List Plan} {plan : Plan}

/-- With the table of a plan for any goal on a listing that was read from any text, a session over any
output writes one line for each token that it answers, and nothing else. A tool with limited room
gets the first bytes of these lines. -/
theorem written_line_by_line_of_planned (text : String) (h : goal.Planned (.parse text) plans)
    (hplan : plan ∈ plans) (steps : List StreamStep) :
    let session : Session := { reactions := Reaction.ofPlan plan }
    let written := (session.run steps).intake.accepted
    LineByLine session.reactions (session.tokens steps) written ∧
      ∀ room, (({ session with intake := { room := some room } } : Session).run
        steps).intake.accepted = written.take room := by
  intro session written
  have hgrounded := (h.origin hplan).grounded (Listing.ordered_parse text)
  have hreactions : Reaction.OnOneLine (Reaction.ofPlan plan) :=
    Reaction.onOneLine_ofPlan hgrounded.idsOnOneLine
  obtain ⟨hwritten, hlimited⟩ := Session.accepted_run (Reaction.ofPlan plan) steps
  have hlines : written = answerLines session.reactions (session.tokens steps) := hwritten
  rw [hlines]
  exact ⟨hreactions.lineByLine _, hlimited⟩

/-- A listed id that would pass for an answer after a carriage return is written on one line. -/
theorem written_line_by_line_of_planned_return :
    let text := "a\ryes h:1@2 master\nb h:3@4 master - 0 0 1 up 7"
    let plan : Plan := ⟨"a\ryes", .node "b", 1⟩
    let session : Session := { reactions := Reaction.ofPlan plan }
    let steps := [.chunk (Text.Utf8.encode "What is the receiving node ID? ".toList)]
    let written := (session.run steps).intake.accepted
    (Goal.merge "a\ryes" "b").Planned (.parse text) [plan] ∧ plan ∈ [plan] ∧
      written = Text.Utf8.encode "a\ryes\n".toList ∧
      LineByLine session.reactions (session.tokens steps) written ∧
      ∀ room, (({ session with intake := { room := some room } } : Session).run
        steps).intake.accepted = written.take room := by
  intro text plan session steps written
  have hplanned : (Goal.merge "a\ryes" "b").Planned (.parse text) [plan] :=
    ⟨plan, rfl, by decide +kernel⟩
  have hplan : plan ∈ [plan] := List.mem_cons_self
  have hwritten : written = Text.Utf8.encode "a\ryes\n".toList := by decide +kernel
  exact ⟨hplanned, hplan, hwritten, written_line_by_line_of_planned text hplanned hplan steps⟩

end Migration.Goal

end ClusterSteward
