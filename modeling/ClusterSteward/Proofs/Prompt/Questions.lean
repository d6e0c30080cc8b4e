import ClusterSteward.Proofs.Prompt.Cutting

/-!
# What an output elicits

A tool prints remarks, which no entry of the table recognises, and questions. `Elicits` says which
responses an output gets, however it is cut, and `Calm` that an output changes nothing in what the
output behind it gets. A question is made of a text that is answered as soon as a byte completes it,
and of a calm rest. Main statements: `Calm.remarks`, `Question.of_text` and `Question.of_open`, and
the responses that the table of a plan gives to each question that the tool asks about the plan.
-/

namespace ClusterSteward.Prompt

open Token (isTerminator isOpen openEnding)

/-- Output of whole lines, in each of which no trigger of the table occurs. -/
inductive Remarks (reactions : List Reaction) : List UInt8 → Prop where
  | nil : Remarks reactions []
  | line {line others : List UInt8} (hline : 0x0A ∉ line)
      (hsilent : Silent reactions (Text.Utf8.decode line)) (hothers : Remarks reactions others) :
      Remarks reactions (line ++ 0x0A :: others)

/-- Bytes that may be pending where a line or a question begins: a trigger that occurs in them and a
text behind them occurs in the text alone. -/
structure Opening (reactions : List Reaction) (pending : List UInt8) : Prop where
  decode_append : ∀ bytes, Text.Utf8.decode (pending ++ bytes) =
    Text.Utf8.decode pending ++ Text.Utf8.decode bytes
  closed : pending.getLast? ≠ some 0x3A
  apart : ∀ reaction ∈ reactions, ∀ text,
    reaction.trigger.toList <:+: Text.Utf8.decode pending ++ text → reaction.trigger.toList <:+: text

/-- However the output is cut behind an opening, it gets the responses. -/
def Elicits (reactions : List Reaction) (output : List UInt8) (responses : List String) : Prop :=
  ∀ pending tokens rest, Opening reactions pending → Cuts pending output tokens rest →
    isOpen rest = false → tokens.filterMap (Reaction.respond reactions) = responses

/-- Whatever is printed behind the output gets the responses that it gets without the output. -/
def Calm (reactions : List Reaction) (output : List UInt8) : Prop :=
  ∀ others responses, Elicits reactions others responses →
    Elicits reactions (output ++ others) responses

variable {reactions : List Reaction} {output others pending tail taken queue rest : List UInt8}
  {tokens : List Token} {responses more : List String} {response : String}

/-! ## Openings -/

/-- Nothing pending is an opening. -/
theorem opening_nil : Opening reactions [] :=
  ⟨fun _ => rfl, nofun, fun _ _ _ h => h⟩

/-- An opening behind another one makes a longer one. -/
theorem Opening.append (h : Opening reactions pending) (hothers : Opening reactions others) :
    Opening reactions (pending ++ others) := by
  refine ⟨fun bytes => ?_, ?_, fun reaction hreaction text htrigger => ?_⟩
  · rw [List.append_assoc, h.decode_append, h.decode_append, hothers.decode_append,
      List.append_assoc]
  · rw [List.getLast?_append]
    cases hlast : others.getLast? with
    | none => exact h.closed
    | some byte => exact fun heq => hothers.closed (hlast.trans heq)
  · rw [h.decode_append, List.append_assoc] at htrigger
    exact hothers.apart reaction hreaction text (h.apart reaction hreaction _ htrigger)

/-- Behind an opening, the same triggers occur. -/
theorem Opening.infix_iff (h : Opening reactions pending) (bytes : List UInt8) :
    ∀ reaction ∈ reactions, reaction.trigger.toList <:+: Text.Utf8.decode (pending ++ bytes) ↔
      reaction.trigger.toList <:+: Text.Utf8.decode bytes := by
  intro reaction hreaction
  rw [h.decode_append]
  exact ⟨h.apart reaction hreaction _, fun htrigger =>
    htrigger.trans (List.suffix_append _ _).isInfix⟩

/-- Behind an opening, no trigger occurs in a line without triggers. -/
theorem Opening.silent_append {line : List UInt8} (h : Opening reactions pending)
    (hline : Silent reactions (Text.Utf8.decode line)) :
    Silent reactions (Text.Utf8.decode (pending ++ line)) :=
  fun reaction hreaction htrigger =>
    hline reaction hreaction ((h.infix_iff line reaction hreaction).1 htrigger)

/-- Behind an opening, a token gets the same response. -/
theorem Opening.respond_append (h : Opening reactions pending) (htrimmed : Trimmed reactions)
    (token : Token) :
    Reaction.respond reactions (pending ++ token) = Reaction.respond reactions token :=
  Reaction.respond_congr htrimmed (h.infix_iff token)

/-- No trigger occurs in an empty text. -/
theorem silent_nil (htrimmed : Trimmed reactions) : Silent reactions [] :=
  fun reaction hreaction hinfix => (htrimmed reaction hreaction).1 (List.infix_nil.1 hinfix)

/-- An opening gets no response. -/
theorem Opening.respond_eq_none (h : Opening reactions pending) (htrimmed : Trimmed reactions) :
    Reaction.respond reactions pending = none := by
  rw [← List.append_nil pending, h.respond_append htrimmed]
  exact Reaction.respond_of_silent (silent_nil htrimmed)

/-- A space is an opening. -/
theorem opening_space (htrimmed : Trimmed reactions) : Opening reactions [0x20] := by
  refine ⟨fun bytes => ?_, by decide, fun reaction hreaction text htrigger => ?_⟩
  · have hascii : (0x20 : UInt8).toNat < 0x80 := by decide
    exact Text.Utf8.decode_append_of_getLast? bytes rfl hascii
  · obtain ⟨hne, hhead, -⟩ := htrimmed reaction hreaction
    obtain ⟨c, part, hpart⟩ := List.exists_cons_of_ne_nil hne
    have hblank : Text.isBlank c = false := hhead c (by rw [hpart]; rfl)
    have hspace : Text.Utf8.decode [0x20] = [' '] := by decide
    rw [hspace, List.singleton_append, List.infix_cons_iff, hpart, List.cons_prefix_cons] at htrigger
    rcases htrigger with ⟨rfl, -⟩ | hlater
    · cases hblank
    · exact hpart ▸ hlater

/-! ## Responses -/

/-- No output elicits nothing. -/
theorem Elicits.nil : Elicits reactions [] [] := by
  intro pending tokens rest _ hcuts _
  cases hcuts
  rfl

/-- The part of an output that has been taken has got the first of its responses. -/
theorem Elicits.isPrefix (h : Elicits reactions (taken ++ queue) responses)
    (hcuts : Cuts [] taken tokens rest) (hsettled : Settled rest) :
    tokens.filterMap (Reaction.respond reactions) <+: responses := by
  obtain ⟨hqueue, hlast⟩ := cuts_takeAll queue hsettled
  rw [← h _ _ _ opening_nil (hcuts.append hqueue) hlast.closed, List.filterMap_append]
  exact List.prefix_append _ _

/-- The part of an output that has been taken has got its only response if it has got any. -/
theorem Elicits.eq_singleton (h : Elicits reactions (taken ++ queue) [response])
    (hcuts : Cuts [] taken tokens rest) (hsettled : Settled rest)
    (hanswered : tokens.filterMap (Reaction.respond reactions) ≠ []) :
    tokens.filterMap (Reaction.respond reactions) = [response] := by
  rcases List.prefix_cons_iff.1 (h.isPrefix hcuts hsettled) with hnone | ⟨others, hone, hothers⟩
  · exact absurd hnone hanswered
  · rw [hone, List.prefix_nil.1 hothers]

/-- Plain output elicits nothing as long as nothing completes it. -/
theorem Elicits.plain (hplain : Plain output) : Elicits reactions output [] := by
  intro pending tokens rest hpending hcuts _
  rw [← List.append_nil output] at hcuts
  cases hcuts.of_plain hpending.closed hplain
  rfl

/-- A colon does not complete plain output. -/
theorem Elicits.plain_colon (hplain : Plain output) : Elicits reactions (output ++ [0x3A]) [] := by
  intro pending tokens rest hpending hcuts _
  cases hcuts.of_plain hpending.closed hplain with
  | terminator hstop _ => cases hstop
  | prompt _ hopen _ => cases (of_isOpen hopen).1
  | keep _ hcuts =>
      cases hcuts
      rfl

/-- Plain output before a terminator is a token. It elicits the response to it, and then what the
others elicit. -/
theorem Elicits.of_plain (output : List UInt8) {stop : UInt8} (htrimmed : Trimmed reactions)
    (hplain : Plain output) (hstop : isTerminator stop = true) (h : Elicits reactions others more) :
    Elicits reactions (output ++ stop :: others)
      ((Reaction.respond reactions output).toList ++ more) := by
  intro pending tokens rest hpending hcuts hrest
  obtain ⟨later, rfl, hlater⟩ := (hcuts.of_plain hpending.closed hplain).of_terminator hstop
  rw [List.filterMap_cons, hpending.respond_append htrimmed, h _ _ _ opening_nil hlater hrest]
  cases Reaction.respond reactions output <;> rfl

/-- Plain output before a colon and a space is a token with them, and elicits the response to it. -/
theorem Elicits.of_open (htrimmed : Trimmed reactions) (hplain : Plain output) :
    Elicits reactions (output ++ openEnding)
      (Reaction.respond reactions (output ++ openEnding)).toList := by
  intro pending tokens rest hpending hcuts hrest
  obtain ⟨rfl, -⟩ := (hcuts.of_plain hpending.closed hplain).of_open hrest
  rw [List.append_assoc, List.filterMap_cons, hpending.respond_append htrimmed]
  cases Reaction.respond reactions (output ++ openEnding) <;> rfl

/-! ## Calm output -/

/-- No output is calm. -/
theorem Calm.nil : Calm reactions [] :=
  fun _ _ h => h

/-- Calm output behind calm output is calm. -/
theorem Calm.append (h : Calm reactions output) (hothers : Calm reactions others) :
    Calm reactions (output ++ others) := by
  intro last responses hlast
  rw [List.append_assoc]
  exact h _ _ (hothers _ _ hlast)

/-- Calm output elicits nothing. -/
theorem Calm.elicits (h : Calm reactions output) : Elicits reactions output [] := by
  have helicits := h [] [] .nil
  rwa [List.append_nil] at helicits

/-- A line without triggers is calm: the newline ends a token, so the next line begins with nothing
pending. -/
theorem Calm.line {line : List UInt8} (hline : 0x0A ∉ line)
    (hsilent : Silent reactions (Text.Utf8.decode line)) : Calm reactions (line ++ [0x0A]) := by
  intro others responses h pending tokens rest hpending hcuts hrest
  rw [List.append_assoc, List.singleton_append] at hcuts
  obtain ⟨heard, later, rfl, hheard, hlater⟩ := hcuts.of_line hline (hpending.silent_append hsilent)
  rw [List.filterMap_append, hheard, List.nil_append]
  exact h _ _ _ opening_nil hlater hrest

/-- Remarks are calm. -/
theorem Calm.remarks (h : Remarks reactions output) : Calm reactions output := by
  induction h with
  | nil => exact .nil
  | line hline hsilent _ ih =>
      rw [List.append_cons]
      exact (Calm.line hline hsilent).append ih

/-- A terminator is calm. -/
theorem Calm.terminator (stop : UInt8) (htrimmed : Trimmed reactions)
    (hstop : isTerminator stop = true) : Calm reactions [stop] := by
  intro others responses h
  have hothers := Elicits.of_plain [] htrimmed nofun hstop h
  rwa [opening_nil.respond_eq_none htrimmed] at hothers

/-- A plain opening is calm. -/
theorem Calm.of_plain (hplain : Plain output) (hopening : Opening reactions output) :
    Calm reactions output :=
  fun _ _ h _ _ _ hpending hcuts hrest =>
    h _ _ _ (hpending.append hopening) (hcuts.of_plain hpending.closed hplain) hrest

/-- An opening that ends in a colon and a space is calm, whether or not it is a token. -/
theorem Calm.of_open (htrimmed : Trimmed reactions) (hplain : Plain output)
    (hopening : Opening reactions (output ++ openEnding)) :
    Calm reactions (output ++ openEnding) := by
  intro others responses h pending tokens rest hpending hcuts hrest
  have hwhole := hpending.append hopening
  rw [List.append_assoc] at hcuts
  rw [openEnding, List.append_cons output, ← List.append_assoc, ← List.append_assoc] at hwhole
  cases hcuts.of_plain hpending.closed hplain with
  | terminator hstop _ => cases hstop
  | prompt _ hopen _ => cases (of_isOpen hopen).1
  | keep _ hcuts =>
      cases hcuts with
      | terminator hstop _ => cases hstop
      | keep _ hcuts => exact h _ _ _ hwhole hcuts hrest
      | prompt _ _ hcuts =>
          rw [List.filterMap_cons_none (hwhole.respond_eq_none htrimmed)]
          exact h _ _ _ opening_nil hcuts hrest

/-- The end of a question in parentheses is calm. -/
theorem Calm.question_end (htrimmed : Trimmed reactions) : Calm reactions [0x3F, 0x20] :=
  (Calm.terminator 0x3F htrimmed rfl).append (.of_plain (by decide) (opening_space htrimmed))

/-! ## Questions -/

/-- Once any of the output has got a response, the output before the tail has been taken, and what
follows is cut on its own. -/
def Resumes (reactions : List Reaction) (output tail : List UInt8) : Prop :=
  ∃ before, output = before ++ tail ∧ before.getLast? ≠ some 0x3A ∧
    ∀ taken tokens rest, taken <+: output → Cuts [] taken tokens rest → Settled rest →
      tokens.filterMap (Reaction.respond reactions) ≠ [] →
      ∃ behind first more, taken = before ++ behind ∧ tokens = first ++ more ∧
        Cuts [] behind more rest

/-- The question gets the response when all of it but the calm tail has been taken, whatever calm
output comes before it. -/
structure Question (reactions : List Reaction) (question : List UInt8) (response : String)
    (tail : List UInt8) : Prop where
  elicits : Elicits reactions question [response]
  calm : Calm reactions tail
  resumes : ∀ lead, Calm reactions lead → Resumes reactions (lead ++ question) tail

/-- Of an output that begins with what elicits nothing, more than that has been taken when it has got
a response. -/
theorem exists_of_answered {lead : List UInt8} (hlead : Elicits reactions lead [])
    (htaken : taken <+: lead ++ others) (hcuts : Cuts [] taken tokens rest) (hsettled : Settled rest)
    (hanswered : tokens.filterMap (Reaction.respond reactions) ≠ []) :
    ∃ byte behind, taken = lead ++ byte :: behind ∧ byte :: behind <+: others := by
  have hlong : ¬ taken <+: lead := by
    rintro ⟨queue, rfl⟩
    exact hanswered (List.prefix_nil.1 (hlead.isPrefix hcuts hsettled))
  rcases List.prefix_or_prefix_of_prefix htaken (List.prefix_append lead others) with
    hshort | ⟨behind, rfl⟩
  · exact absurd hshort hlong
  · cases behind with
    | nil => exact absurd (by simp) hlong
    | cons byte behind => exact ⟨byte, behind, rfl, (List.prefix_append_right_inj lead).1 htaken⟩

/-- A plain text before a terminator is a question, if it has a response and what follows is calm. -/
theorem Question.of_text {question : List UInt8} (htrimmed : Trimmed reactions) (text : String)
    (stop : UInt8) (hquestion : question = Text.Utf8.encode text.toList ++ stop :: tail)
    (hplain : Plain (Text.Utf8.encode text.toList)) (hstop : isTerminator stop = true)
    (hresponse : Reaction.respond reactions (Text.Utf8.encode text.toList) = some response)
    (htail : Calm reactions tail) : Question reactions question response tail := by
  subst hquestion
  refine ⟨?_, htail, fun lead hlead => ⟨lead ++ Text.Utf8.encode text.toList ++ [stop], by simp,
    ?_, fun taken tokens rest htaken hcuts hsettled hanswered => ?_⟩⟩
  · have helicits := Elicits.of_plain _ htrimmed hplain hstop htail.elicits
    rwa [hresponse] at helicits
  · rw [List.getLast?_concat]
    rintro ⟨⟩
    cases hstop
  · rw [← List.append_assoc] at htaken
    obtain ⟨byte, behind, rfl, hbyte⟩ :=
      exists_of_answered (hlead _ _ (.plain hplain)) htaken hcuts hsettled hanswered
    obtain rfl : byte = stop := (List.cons_prefix_cons.1 hbyte).1
    obtain ⟨first, between, last, rfl, -, hlast⟩ := hcuts.exists_of_append
    obtain ⟨more, rfl, hmore⟩ := hlast.of_terminator hstop
    exact ⟨behind, first ++ [between], more, by simp, by simp, hmore⟩

/-- A plain text before a colon and a space is a question, if it has a response with them. -/
theorem Question.of_open {question : List UInt8} (htrimmed : Trimmed reactions) (text : String)
    (hquestion : question = Text.Utf8.encode text.toList ++ openEnding)
    (hplain : Plain (Text.Utf8.encode text.toList))
    (hresponse : Reaction.respond reactions question = some response) :
    Question reactions question response [] := by
  subst hquestion
  refine ⟨?_, .nil, fun lead hlead => ⟨lead ++ (Text.Utf8.encode text.toList ++ openEnding), by simp,
    ?_, fun taken tokens rest htaken hcuts hsettled hanswered => ?_⟩⟩
  · have helicits := Elicits.of_open htrimmed hplain
    rwa [hresponse] at helicits
  · rw [openEnding, List.append_cons, ← List.append_assoc, List.getLast?_concat]
    decide
  · have hwhole : lead ++ (Text.Utf8.encode text.toList ++ openEnding) =
        lead ++ (Text.Utf8.encode text.toList ++ [0x3A]) ++ [0x20] := by simp [openEnding]
    rw [hwhole] at htaken ⊢
    obtain ⟨byte, behind, rfl, hbyte⟩ :=
      exists_of_answered (hlead _ _ (.plain_colon hplain)) htaken hcuts hsettled hanswered
    obtain ⟨rfl, hbehind⟩ := List.cons_prefix_cons.1 hbyte
    obtain rfl := List.prefix_nil.1 hbehind
    -- the colon and the space are there, so the last token ends with them
    rw [← hwhole, ← List.append_assoc] at hcuts
    obtain ⟨first, between, last, rfl, -, hlast⟩ := hcuts.exists_of_append
    obtain ⟨rfl, rfl⟩ := hlast.of_open hsettled.closed
    exact ⟨[], first ++ [between ++ openEnding], [], by simp, by simp, .finish⟩

/-! ## The questions about a plan -/

/-- The question for the number of slots. -/
def countQuestion : List UInt8 :=
  Text.Utf8.encode "How many slots do you want to move (from 1 to 16384)? ".toList

/-- The question for the node that receives the slots. -/
def receiverQuestion : List UInt8 :=
  Text.Utf8.encode "What is the receiving node ID? ".toList

/-- The line before the questions for the sources. -/
def sourcesRequest : List UInt8 :=
  Text.Utf8.encode "Please enter all the source node IDs.\n".toList

/-- The question for the first source. -/
def firstSourceQuestion : List UInt8 :=
  Text.Utf8.encode "Source node #1: ".toList

/-- The question for the second source. -/
def secondSourceQuestion : List UInt8 :=
  Text.Utf8.encode "Source node #2: ".toList

/-- The question before the slots are moved. -/
def proceedQuestion : List UInt8 :=
  Text.Utf8.encode "Do you want to proceed with the proposed reshard plan (yes/no)? ".toList

/-- The triggers that the table of a plan may have. -/
def planTriggers : List String :=
  [Reaction.slotCountPrompt, Reaction.receiverPrompt, Reaction.sourcesPrompt,
    Reaction.secondSourcePrompt, Reaction.proceedPrompt]

/-- The table of a plan has no other triggers. -/
theorem trigger_mem_planTriggers {plan : Plan} {reaction : Reaction}
    (h : reaction ∈ Reaction.ofPlan plan) : reaction.trigger ∈ planTriggers := by
  have hsubset : (Reaction.ofPlan plan).map Reaction.trigger ⊆ planTriggers := by
    obtain ⟨target, source, count⟩ := plan
    cases source <;> simp [Reaction.ofPlan, Source.isAll, planTriggers]
  exact hsubset (List.mem_map_of_mem h)

/-- The triggers of the table of a plan begin and end with letters or digits. -/
theorem trimmed_ofPlan (plan : Plan) : Trimmed (Reaction.ofPlan plan) := by
  have htriggers : ∀ trigger ∈ planTriggers, trigger.toList ≠ [] ∧
      (∀ c ∈ trigger.toList.head?, Text.isBlank c = false) ∧
      ∀ c ∈ trigger.toList.getLast?, Text.isBlank c = false := by
    simp [planTriggers, Reaction.slotCountPrompt, Reaction.receiverPrompt, Reaction.sourcesPrompt,
      Reaction.secondSourcePrompt, Reaction.proceedPrompt, Text.isBlank]
  exact fun reaction hreaction => htriggers _ (trigger_mem_planTriggers hreaction)

/-- The first question for a source is an opening: no trigger begins within it. -/
theorem opening_firstSourceQuestion (plan : Plan) :
    Opening (Reaction.ofPlan plan) firstSourceQuestion := by
  have htext : Text.Utf8.decode firstSourceQuestion = "Source node #1: ".toList := by
    decide +kernel
  have hlast : firstSourceQuestion.getLast? = some 0x20 := by decide +kernel
  have happart : ∀ trigger ∈ planTriggers, ∀ tail ∈ "Source node #1: ".toList.tails, tail ≠ [] →
      ¬ tail <+: trigger.toList ∧ ¬ trigger.toList <+: tail := by
    decide +kernel
  refine ⟨fun bytes => ?_, by decide +kernel, fun reaction hreaction text htrigger => ?_⟩
  · exact Text.Utf8.decode_append_of_getLast? bytes hlast (by decide)
  · rw [htext] at htrigger
    exact Text.infix_of_apart (happart _ (trigger_mem_planTriggers hreaction)) htrigger

/-- The first question for a source is calm. -/
theorem calm_firstSourceQuestion (plan : Plan) :
    Calm (Reaction.ofPlan plan) firstSourceQuestion := by
  have hquestion : firstSourceQuestion =
      Text.Utf8.encode "Source node #1".toList ++ openEnding := by
    decide +kernel
  have hopening := opening_firstSourceQuestion plan
  rw [hquestion] at hopening ⊢
  exact .of_open (trimmed_ofPlan plan) (by decide +kernel) hopening

/-- The question for the number of slots gets the number. -/
theorem question_countQuestion (plan : Plan) :
    Question (Reaction.ofPlan plan) countQuestion (Nat.repr plan.count) [0x3F, 0x20] := by
  refine .of_text (trimmed_ofPlan plan)
    "How many slots do you want to move (from 1 to 16384" 0x29 ?hquestion ?hplain rfl ?hresponse
    (.question_end (trimmed_ofPlan plan))
  case hquestion => decide +kernel
  case hplain => decide +kernel
  case hresponse => cbv

/-- The question for the receiving node gets the target. -/
theorem question_receiverQuestion (plan : Plan) :
    Question (Reaction.ofPlan plan) receiverQuestion plan.target [0x20] := by
  refine .of_text (trimmed_ofPlan plan) "What is the receiving node ID" 0x3F
    ?hquestion ?hplain rfl ?hresponse (.of_plain (by decide) (opening_space (trimmed_ofPlan plan)))
  case hquestion => decide +kernel
  case hplain => decide +kernel
  case hresponse => cbv

/-- The request for the sources gets the source, before the first question for one is asked. -/
theorem question_sourcesRequest (plan : Plan) {between : List UInt8}
    (hbetween : Remarks (Reaction.ofPlan plan) between) :
    Question (Reaction.ofPlan plan) (sourcesRequest ++ (between ++ firstSourceQuestion))
      plan.source.text (between ++ firstSourceQuestion) := by
  have hrequest : sourcesRequest =
      Text.Utf8.encode "Please enter all the source node IDs.".toList ++ [0x0A] := by
    decide +kernel
  rw [hrequest, List.append_assoc, List.singleton_append]
  refine .of_text (trimmed_ofPlan plan) "Please enter all the source node IDs." 0x0A
    rfl ?hplain rfl ?hresponse ((Calm.remarks hbetween).append (calm_firstSourceQuestion plan))
  case hplain => decide +kernel
  case hresponse => cbv

/-- The second question for a source, which the tool asks when the first answer names one node, gets
the end of the list. -/
theorem question_secondSourceQuestion {plan : Plan} {id : String}
    (hsource : plan.source = .node id) :
    Question (Reaction.ofPlan plan) secondSourceQuestion Reaction.sourcesDone [] := by
  refine .of_open (trimmed_ofPlan plan) "Source node #2" ?hquestion ?hplain ?hresponse
  case hquestion => decide +kernel
  case hplain => decide +kernel
  case hresponse =>
    obtain ⟨target, source, count⟩ := plan
    cases hsource
    cbv

/-- The last question gets the confirmation. -/
theorem question_proceedQuestion (plan : Plan) :
    Question (Reaction.ofPlan plan) proceedQuestion Reaction.confirmation [0x3F, 0x20] := by
  refine .of_text (trimmed_ofPlan plan)
    "Do you want to proceed with the proposed reshard plan (yes/no" 0x29 ?hquestion ?hplain rfl
    ?hresponse (.question_end (trimmed_ofPlan plan))
  case hquestion => decide +kernel
  case hplain => decide +kernel
  case hresponse =>
    obtain ⟨target, source, count⟩ := plan
    cases source <;> cbv

end ClusterSteward.Prompt
