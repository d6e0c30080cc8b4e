import ClusterSteward.Plan.Basic
import ClusterSteward.Prompt.Token
import ClusterSteward.Text.Blank
import ClusterSteward.Text.Field

/-!
# Reactions

Prompts are answered from a fixed table. A prompt is recognised by a piece of its text, and of
several entries that recognise it the first one answers. The table for a plan answers the questions
that the admin tool asks before it moves slots.
-/

namespace ClusterSteward.Prompt

/-- An entry of the table: prompts that contain `trigger` are answered by the line `response`. -/
structure Reaction where
  trigger : String
  response : String
  deriving DecidableEq, Repr

namespace Reaction

/-- Whether the entry recognises the trimmed text of a prompt. -/
def recognises (reaction : Reaction) (prompt : List Char) : Bool :=
  Text.occursIn reaction.trigger.toList prompt

/-- The response of the first entry that recognises the token. -/
def respond (reactions : List Reaction) (token : Token) : Option String :=
  (reactions.find? (recognises · (Text.trim token.text))).map Reaction.response

/-- The prompt for the number of slots. -/
def slotCountPrompt : String :=
  "How many slots do you want to move"

/-- The prompt for the node that receives the slots. -/
def receiverPrompt : String :=
  "What is the receiving node ID"

/-- The prompt for the first source. -/
def sourcesPrompt : String :=
  "Please enter all the source node IDs"

/-- The prompt for the second source, which the tool asks for unless every master is a source. -/
def secondSourcePrompt : String :=
  "Source node #2"

/-- The prompt before the slots are moved. -/
def proceedPrompt : String :=
  "Do you want to proceed with the proposed reshard plan"

/-- The answer that ends the list of sources. -/
def sourcesDone : String :=
  "done"

/-- The answer that confirms. -/
def confirmation : String :=
  "yes"

/-- The table that answers the tool's questions about a plan. -/
def ofPlan (plan : Plan) : List Reaction :=
  [⟨slotCountPrompt, Nat.repr plan.count⟩, ⟨receiverPrompt, plan.target⟩,
    ⟨sourcesPrompt, plan.source.text⟩] ++
  (if plan.source.isAll then [] else [⟨secondSourcePrompt, sourcesDone⟩]) ++
  [⟨proceedPrompt, confirmation⟩]

end Reaction

end ClusterSteward.Prompt
