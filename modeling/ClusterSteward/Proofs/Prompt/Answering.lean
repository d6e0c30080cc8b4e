import ClusterSteward.Proofs.Prompt.Grouping
import ClusterSteward.Proofs.Prompt.Stepping
import ClusterSteward.Proofs.Prompt.Watching

/-!
# Answers that do not depend on chunks

Where a chunk ends decides whether a colon and a space end a token, but not what is answered: no
trigger of the table of a plan reaches over such an end. Main statements: `respond_eq_head?`, which
says which tokens are answered, `Grouped.filterMap_respond`, by which tokens that make up a segment
are answered as the segment is, and `Session.intake_eq_called`, which says what a session writes.
-/

namespace ClusterSteward

open Prompt.Token (waiting)

namespace Text

/-- The number of places at which a part stands in a text. They may overlap. -/
def occurrences (part text : List Char) : Nat :=
  text.tails.countP part.isPrefixOf

/-- A text that a question may be recognised by: it holds no colon, and neither its first nor its last
character is blank. -/
structure Firm (part : List Char) : Prop where
  head : ∃ c ∈ part.head?, isBlank c = false
  last : ∃ c ∈ part.getLast?, isBlank c = false
  colon : ':' ∉ part

/-- Whether a text is firm is decided at its ends and character by character. -/
instance (part : List Char) : Decidable (Firm part) :=
  have hend : ∀ end? : Option Char, end?.any (!isBlank ·) = true ↔
      ∃ c ∈ end?, isBlank c = false := fun end? => by
    cases end? <;> simp
  decidable_of_iff (part.head?.any (!isBlank ·) ∧ part.getLast?.any (!isBlank ·) ∧ ':' ∉ part)
    ⟨fun h => ⟨(hend _).1 h.1, (hend _).1 h.2.1, h.2.2⟩,
      fun h => ⟨(hend _).2 h.head, (hend _).2 h.last, h.colon⟩⟩

variable {part text left : List Char}

/-- A part has no place in a text exactly when it does not occur in it. -/
theorem occurrences_eq_zero_iff : occurrences part text = 0 ↔ ¬ part <:+: text := by
  rw [occurrences, List.countP_eq_zero, List.infix_iff_prefix_suffix]
  simp only [List.mem_tails, List.isPrefixOf_iff_prefix, not_exists, not_and]
  exact ⟨fun h tail hpart htail => h tail htail hpart, fun h tail htail hpart => h tail hpart htail⟩

/-- The places in a text are its beginning, if the part stands there, and those behind it. -/
theorem occurrences_cons (c : Char) (text : List Char) :
    occurrences part (c :: text) =
      (if part <+: c :: text then 1 else 0) + occurrences part text := by
  simp only [occurrences, List.tails_cons, List.countP_cons, List.isPrefixOf_iff_prefix, Nat.add_comm]

/-- A firm text is not empty. -/
theorem Firm.ne_nil (h : Firm part) : part ≠ [] := by
  rintro rfl
  obtain ⟨c, hc, -⟩ := h.head
  cases hc

/-- A firm text does not begin with a blank character. -/
theorem Firm.not_prefix_cons {c : Char} (h : Firm part) (hc : isBlank c = true) :
    ¬ part <+: c :: text := by
  intro hpart
  obtain ⟨first, hfirst, hblank⟩ := h.head
  obtain ⟨rest, rfl⟩ := List.head?_eq_some_iff.1 hfirst
  obtain ⟨rfl, -⟩ := List.cons_prefix_cons.1 hpart
  cases hc.symm.trans hblank

/-- A firm text that stands at the beginning of another one does not reach over a colon. -/
theorem Firm.prefix_append_iff (h : Firm part) (hcolon : ':' ∈ left) (right : List Char) :
    part <+: left ++ right ↔ part <+: left := by
  refine ⟨fun hpart => ?_, fun hpart => hpart.trans (List.prefix_append left right)⟩
  rcases List.prefix_or_prefix_of_prefix hpart (List.prefix_append left right) with hshort | hlong
  · exact hshort
  · exact absurd (hlong.subset hcolon) h.colon

/-- Behind a text after which a tool waits, the places of a firm text are counted apart. -/
theorem Firm.occurrences_append (h : Firm part) (hwaits : waiting <:+ left) (right : List Char) :
    occurrences part (left ++ right) = occurrences part left + occurrences part right := by
  induction left with
  | nil => cases List.suffix_nil.1 hwaits
  | cons c left ih =>
      have hcolon : ':' ∈ c :: left := hwaits.subset (by decide)
      rw [List.cons_append, occurrences_cons, occurrences_cons, ← List.cons_append]
      simp only [h.prefix_append_iff hcolon right]
      rcases List.suffix_cons_iff.1 hwaits with heq | hlater
      · -- nothing but the space is left, at which a firm text does not begin
        obtain ⟨-, rfl⟩ := List.cons.inj heq
        have hspace : ∀ text, occurrences part (' ' :: text) = occurrences part text := by
          intro text
          rw [occurrences_cons, if_neg (h.not_prefix_cons rfl), Nat.zero_add]
        have hnil : occurrences part [] = 0 :=
          occurrences_eq_zero_iff.2 fun hinfix => h.ne_nil (List.infix_nil.1 hinfix)
        rw [List.singleton_append, hspace, hspace, hnil, Nat.add_zero]
      · rw [ih hlater, Nat.add_assoc]

/-- A firm text in a text is still there when blank characters are dropped in front. -/
theorem infix_trimStart (hpart : part <:+: text) (hhead : ∃ c ∈ part.head?, isBlank c = false) :
    part <:+: trimStart text := by
  obtain ⟨c, hc, hblank⟩ := hhead
  obtain ⟨rest, rfl⟩ := List.head?_eq_some_iff.1 hc
  induction text with
  | nil => cases List.infix_nil.1 hpart
  | cons first text ih =>
      rw [trimStart, List.dropWhile_cons]
      split
      next hfirst =>
        rcases List.infix_cons_iff.1 hpart with hstart | hlater
        · obtain ⟨rfl, -⟩ := List.cons_prefix_cons.1 hstart
          cases hfirst.symm.trans hblank
        · exact ih hlater
      next => exact hpart

/-- A firm text occurs in a text exactly when it occurs in the trimmed text. -/
theorem Firm.infix_trim_iff (h : Firm part) : part <:+: trim text ↔ part <:+: text := by
  refine ⟨fun hpart => hpart.trans <| trim_infix text, fun hpart => ?_⟩
  have hreverse : part.reverse <:+: trimStart (trimStart text).reverse :=
    infix_trimStart (List.reverse_infix.2 (infix_trimStart hpart h.head)) (by simpa using h.last)
  rw [trim, trimEnd, ← List.reverse_infix, List.reverse_reverse]
  exact hreverse

end Text

namespace Prompt

open Text (Firm occurrences)
open Token (segments lastToken)

/-! ## What a segment calls for -/

/-- The number of places at which triggers of the table stand in the text. -/
def triggerCount (reactions : List Reaction) (text : List Char) : Nat :=
  (reactions.map fun reaction ↦ occurrences reaction.trigger.toList text).sum

/-- The responses of the entries whose triggers stand in the text. -/
def called (reactions : List Reaction) (text : List Char) : List String :=
  (reactions.filter fun reaction ↦ 0 < occurrences reaction.trigger.toList text).map
    Reaction.response

/-- The triggers of the table are firm. -/
def FirmTriggers (reactions : List Reaction) : Prop :=
  ∀ reaction ∈ reactions, Firm reaction.trigger.toList

variable {reactions : List Reaction} {text left right : List Char} {group : List Token}
  {token : Token}

/-- The triggers of the table of a plan are firm. -/
theorem firmTriggers_ofPlan (plan : Plan) : FirmTriggers (Reaction.ofPlan plan) := by
  have hfirm : ∀ trigger ∈ [Reaction.slotCountPrompt, Reaction.receiverPrompt,
      Reaction.sourcesPrompt, Reaction.secondSourcePrompt, Reaction.proceedPrompt],
      Firm trigger.toList := by
    decide +kernel
  have htriggers : (Reaction.ofPlan plan).map Reaction.trigger ⊆ [Reaction.slotCountPrompt,
      Reaction.receiverPrompt, Reaction.sourcesPrompt, Reaction.secondSourcePrompt,
      Reaction.proceedPrompt] := by
    obtain ⟨target, source, count⟩ := plan
    cases source <;> simp [Reaction.ofPlan, Source.isAll]
  exact fun reaction hreaction => hfirm _ (htriggers (List.mem_map_of_mem hreaction))

/-- No more responses are called for than there are triggers. -/
theorem length_called_le (reactions : List Reaction) (text : List Char) :
    (called reactions text).length ≤ triggerCount reactions text := by
  rw [called, List.length_map, triggerCount]
  induction reactions with
  | nil => rfl
  | cons reaction reactions ih =>
      rw [List.map_cons, List.sum_cons, List.filter_cons]
      split
      next hfound =>
        have hplace : 0 < occurrences reaction.trigger.toList text := of_decide_eq_true hfound
        rw [List.length_cons]
        omega
      next => omega

/-- A text without triggers calls for nothing. -/
theorem called_eq_nil (h : triggerCount reactions text = 0) : called reactions text = [] :=
  List.length_eq_zero_iff.1 (Nat.le_zero.1 (h ▸ length_called_le reactions text))

/-- No trigger stands in a text without triggers. -/
theorem occurrences_eq_zero (h : triggerCount reactions text = 0) :
    ∀ reaction ∈ reactions, occurrences reaction.trigger.toList text = 0 :=
  List.forall_mem_map.1 (List.sum_eq_zero_iff_forall_eq_nat.1 h)

/-- Texts in which each trigger stands as often call for the same responses. -/
theorem called_congr {other : List Char}
    (h : ∀ reaction ∈ reactions, occurrences reaction.trigger.toList text =
      occurrences reaction.trigger.toList other) : called reactions text = called reactions other :=
  congrArg (List.map Reaction.response)
    (List.filter_congr fun reaction hreaction => by rw [h reaction hreaction])

/-- A token gets the first of the responses that its text calls for. -/
theorem respond_eq_head? (hfirm : FirmTriggers reactions) (token : Token) :
    Reaction.respond reactions token = (called reactions token.text).head? := by
  have htrim : ∀ reaction ∈ reactions, reaction.recognises (Text.trim token.text) =
      decide (0 < occurrences reaction.trigger.toList token.text) := by
    intro reaction hreaction
    rw [Bool.eq_iff_iff, Reaction.recognises, Text.occursIn_iff, decide_eq_true_iff,
      (hfirm reaction hreaction).infix_trim_iff, Nat.pos_iff_ne_zero, ne_eq,
      Text.occurrences_eq_zero_iff, not_not]
  rw [Reaction.respond, called, List.head?_map, ← List.filter_congr htrim, List.head?_filter]

/-- A token with no more than one trigger gets what its text calls for. -/
theorem toList_respond (hfirm : FirmTriggers reactions)
    (hsingle : triggerCount reactions token.text ≤ 1) :
    (Reaction.respond reactions token).toList = called reactions token.text := by
  have hlength := (length_called_le reactions token.text).trans hsingle
  rw [respond_eq_head? hfirm]
  match called reactions token.text, hlength with
  | [], _ => rfl
  | [response], _ => rfl

/-- Triggers are counted apart behind a text after which a tool waits. -/
theorem triggerCount_append (hfirm : FirmTriggers reactions) (hwaits : waiting <:+ left)
    (right : List Char) : triggerCount reactions (left ++ right) =
      triggerCount reactions left + triggerCount reactions right := by
  rw [triggerCount, triggerCount, triggerCount, ← List.sum_map_add]
  congr 1
  exact List.map_congr_left fun reaction hreaction =>
    (hfirm reaction hreaction).occurrences_append hwaits right

/-- Behind a text after which a tool waits, responses are called for apart if there is no more than
one trigger. -/
theorem called_append (hfirm : FirmTriggers reactions) (hwaits : waiting <:+ left)
    (hsingle : triggerCount reactions (left ++ right) ≤ 1) :
    called reactions (left ++ right) = called reactions left ++ called reactions right := by
  have hsum := triggerCount_append hfirm hwaits right
  have hplaces : ∀ reaction ∈ reactions, occurrences reaction.trigger.toList (left ++ right) =
      occurrences reaction.trigger.toList left + occurrences reaction.trigger.toList right :=
    fun reaction hreaction => (hfirm reaction hreaction).occurrences_append hwaits right
  -- the only trigger, if there is one, is on one side
  rcases Nat.eq_zero_or_pos (triggerCount reactions left) with hzero | hpos
  · rw [called_eq_nil hzero, List.nil_append]
    refine called_congr fun reaction hreaction => ?_
    rw [hplaces reaction hreaction, occurrences_eq_zero hzero reaction hreaction, Nat.zero_add]
  · have hzero : triggerCount reactions right = 0 := by omega
    rw [called_eq_nil hzero, List.append_nil]
    refine called_congr fun reaction hreaction => ?_
    rw [hplaces reaction hreaction, occurrences_eq_zero hzero reaction hreaction, Nat.add_zero]

/-- Tokens of which each but the last ends as a tool does that waits for input are answered as their
joined text is, if it has no more than one trigger. -/
theorem filterMap_respond (hfirm : FirmTriggers reactions)
    (hwaits : ∀ token ∈ group.dropLast, waiting <:+ token.text)
    (hsingle : triggerCount reactions (group.flatMap Token.text) ≤ 1) :
    group.filterMap (Reaction.respond reactions) =
      called reactions (group.flatMap Token.text) := by
  induction group with
  | nil =>
      have hnone : triggerCount reactions [] = 0 := by
        refine List.sum_eq_zero_iff_forall_eq_nat.2 (List.forall_mem_map.2 fun reaction hreaction => ?_)
        exact Text.occurrences_eq_zero_iff.2 fun hinfix =>
          (hfirm reaction hreaction).ne_nil (List.infix_nil.1 hinfix)
      exact (called_eq_nil hnone).symm
  | cons token group ih =>
      rw [List.flatMap_cons] at hsingle ⊢
      cases group with
      | nil =>
          rw [List.flatMap_nil, List.append_nil] at hsingle ⊢
          rw [← toList_respond hfirm hsingle, List.filterMap_cons]
          cases Reaction.respond reactions token <;> rfl
      | cons other group =>
          rw [List.dropLast_cons_cons] at hwaits
          obtain ⟨htoken, hgroup⟩ := List.forall_mem_cons.1 hwaits
          have hsum := triggerCount_append hfirm htoken ((other :: group).flatMap Token.text)
          rw [called_append hfirm htoken hsingle, ← ih hgroup (by omega),
            ← toList_respond hfirm (by omega), List.filterMap_cons]
          cases Reaction.respond reactions token <;> rfl

/-- Tokens that are grouped by segments with no more than one trigger each are answered segment by
segment. -/
theorem Grouped.filterMap_respond {segments : List (List UInt8)} {groups : List (List Token)}
    (h : Grouped segments groups) (hfirm : FirmTriggers reactions)
    (hsingle : ∀ segment ∈ segments, triggerCount reactions (Text.Utf8.decode segment) ≤ 1) :
    groups.flatten.filterMap (Reaction.respond reactions) =
      segments.flatMap fun segment ↦ called reactions (Text.Utf8.decode segment) := by
  have hgroup : ∀ {segment group}, MakesUp segment group →
      triggerCount reactions (Text.Utf8.decode segment) ≤ 1 →
      group.filterMap (Reaction.respond reactions) =
        called reactions (Text.Utf8.decode segment) := by
    intro segment group h hsegment
    rw [← h.text_eq] at hsegment ⊢
    exact Prompt.filterMap_respond hfirm h.waits hsegment
  induction h with
  | last h => simpa using hgroup h (hsingle _ List.mem_cons_self)
  | cons h _ _ ih =>
      obtain ⟨hfirst, hrest⟩ := List.forall_mem_cons.1 hsingle
      rw [List.flatten_cons, List.filterMap_append, hgroup h hfirst, ih hrest, List.flatMap_cons]

/-! ## What a session writes -/

/-- The output that the steps of a stream bring. -/
def output : List StreamStep → List UInt8
  | [] => []
  | .chunk bytes :: steps => bytes ++ output steps
  | _ :: steps => output steps

/-- A session that sees the end of the output has cut all of it into tokens and a last one, and has
offered the responses to them in order. -/
theorem Session.exists_cuts_run {session : Session} {steps : List StreamStep}
    (hpending : Settled session.pending) (hfailure : .failure ∉ steps)
    (hending : (session.run steps).ending = .endOfStream) :
    ∃ tokens rest, Cuts session.pending (output steps) tokens rest ∧
      (session.run steps).intake =
        ((tokens ++ lastToken rest).filterMap (Reaction.respond session.reactions)).foldl
          Intake.offerLine session.intake := by
  induction steps generalizing session with
  | nil =>
      refine ⟨[], session.pending, .finish, ?_⟩
      rw [run, close_eq, Token.takeLast_of_settled hpending, List.nil_append]
  | cons step steps ih =>
      have hrest : .failure ∉ steps := fun hmem => hfailure (List.mem_cons_of_mem _ hmem)
      cases step with
      | chunk bytes =>
          obtain ⟨hchunk, hsettled⟩ := cuts_takeAll bytes hpending
          rw [run, receive_eq] at hending ⊢
          obtain ⟨tokens, rest, hcuts, hintake⟩ := ih hsettled hrest hending
          refine ⟨_, rest, hchunk.append hcuts, ?_⟩
          simp only [hintake, List.append_assoc, List.filterMap_append, List.foldl_append]
      | silence duration =>
          rcases session.wait_cases duration with ⟨-, hwait⟩ | ⟨-, -, -, hwait⟩ | ⟨-, hwait⟩
          · rw [run_silence_of_ok hwait] at hending ⊢
            refine ih ?_ hrest hending
            exact hpending
          · rw [run_silence_of_ok hwait] at hending ⊢
            refine ih ?_ hrest hending
            exact hpending
          · rw [run_silence_of_error hwait] at hending
            cases hending
      | failure => exact absurd List.mem_cons_self hfailure
      | hang => cases hending

/-- When no segment of its output has more than one trigger of the table of a plan, a session that
sees the end of the output writes, segment by segment, the response of the trigger that stands in the
segment, as a line. Where the chunks of the output end and when they come makes no difference. -/
theorem Session.intake_eq_called (plan : Plan) (steps : List StreamStep)
    (hsingle : ∀ segment ∈ segments (output steps),
      triggerCount (Reaction.ofPlan plan) (Text.Utf8.decode segment) ≤ 1)
    (hfailure : .failure ∉ steps)
    (hending : (({ reactions := Reaction.ofPlan plan } : Session).run steps).ending =
      .endOfStream) :
    (({ reactions := Reaction.ofPlan plan } : Session).run steps).intake =
      { accepted := (segments (output steps)).flatMap fun segment ↦
          (called (Reaction.ofPlan plan) (Text.Utf8.decode segment)).flatMap answerLine } := by
  obtain ⟨tokens, rest, hcuts, hintake⟩ := exists_cuts_run settled_nil hfailure hending
  obtain ⟨groups, hflatten, hgroups⟩ := hcuts.exists_groups nofun
  rw [hintake, hflatten, hgroups.filterMap_respond (firmTriggers_ofPlan plan) hsingle,
    Intake.foldl_offerLine, List.nil_append, List.flatMap_assoc]
  rfl

/-- Output that is split inside a character, and inside the first of its two questions. -/
def splitScript : List StreamStep :=
  [.chunk [0xC3], .chunk (0xA9 :: Text.Utf8.encode ": How many slots do y".toList), .silence 900,
    .chunk (Text.Utf8.encode "ou want to move (from 1)? Source node #2: ".toList), .silence 900]

/-- Each of the two questions is answered once. -/
theorem Session.intake_eq_called_splitScript :
    let reactions := Reaction.ofPlan ⟨"target", .node "source", 5⟩
    let closing := ({ reactions } : Session).run splitScript
    (∀ segment ∈ segments (output splitScript),
        triggerCount reactions (Text.Utf8.decode segment) ≤ 1) ∧
      .failure ∉ splitScript ∧ closing.ending = .endOfStream ∧
      closing.intake = { accepted := Text.Utf8.encode "5\ndone\n".toList } := by
  intro reactions closing
  have hsingle : ∀ segment ∈ segments (output splitScript),
      triggerCount reactions (Text.Utf8.decode segment) ≤ 1 := by
    decide +kernel
  have hfailure : .failure ∉ splitScript := by decide
  have hending : closing.ending = .endOfStream := by decide +kernel
  refine ⟨hsingle, hfailure, hending, ?_⟩
  rw [Session.intake_eq_called _ _ hsingle hfailure hending]
  decide +kernel

end Prompt

end ClusterSteward
