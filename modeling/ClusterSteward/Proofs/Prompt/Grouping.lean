import ClusterSteward.Proofs.Prompt.Cutting

/-!
# Which tokens a stream gives

A stream falls into segments, each but the last ended by a terminator. Where it is fed in pieces and
tokens are asked for in between, a segment may be given as several tokens. `Grouped` says which
tokens may stand for which segment. Main statements: `Cuts.exists_groups`, by which tokens of a
stream that may be cut so are grouped by its segments, and `grouped_of_play`, by which the tokens of
every run of a tokenizer are.
-/

namespace ClusterSteward.Prompt

open Token (isTerminator isOpen openEnding)

namespace Token

/-- The pieces of a stream between its terminators. The last one is what follows the last terminator,
and may be empty. -/
def segments (stream : List UInt8) : List (List UInt8) :=
  stream.splitOnP isTerminator

/-- The characters that end a token. -/
def terminators : List Char :=
  ['\n', '?', ')']

/-- The end of a text after which a tool waits for input. -/
def waiting : List Char :=
  [':', ' ']

variable {token : Token} {stream : List UInt8}

/-- The bytes that end a token are those of the characters that do. -/
theorem isTerminator_iff {byte : UInt8} :
    isTerminator byte = true ↔ ∃ c ∈ terminators, byte.toNat = c.toNat := by
  simp [isTerminator, terminators, ← UInt8.toNat_inj, or_assoc]

/-- A token without terminators has none in its text. -/
theorem terminators_disjoint_text (h : ∀ byte ∈ token, isTerminator byte = false) :
    ∀ c ∈ token.text, c ∉ terminators := by
  intro c hc hterminator
  have hrange : ∀ c ∈ terminators, c.toNat < 0x80 ∧ c.toNat ≠ 0 := by
    simp [terminators]
  obtain ⟨hascii, hnul⟩ := hrange c hterminator
  obtain ⟨byte, hbyte, hcode⟩ := Text.Utf8.exists_byte_of_mem_decode hc hascii hnul
  have hstop := isTerminator_iff.2 ⟨c, hterminator, hcode⟩
  rw [h byte hbyte] at hstop
  cases hstop

/-- The text of an open token ends in a colon and a space. -/
theorem waiting_suffix_text (h : isOpen token = true) : waiting <:+ token.text := by
  obtain ⟨before, rfl⟩ := List.isSuffixOf_iff_suffix.1 h
  have htext : text (before ++ openEnding) = Text.Utf8.decode before ++ waiting :=
    Text.Utf8.decode_append_cons before [0x20] (by decide : (0x3A : UInt8).toNat < 0x80)
  exact htext ▸ List.suffix_append _ _

/-- Bytes may be decoded apart behind an open token. -/
theorem decode_append_of_isOpen (h : isOpen token = true) (bytes : List UInt8) :
    Text.Utf8.decode (token ++ bytes) = token.text ++ Text.Utf8.decode bytes := by
  obtain ⟨before, rfl⟩ := List.isSuffixOf_iff_suffix.1 h
  have hspace : before ++ openEnding = before ++ [0x3A] ++ [0x20] := by simp [openEnding]
  rw [text, hspace]
  exact Text.Utf8.decode_append_of_ascii bytes (by decide : (0x20 : UInt8).toNat < 0x80)

/-- Bytes without terminators are one segment. -/
theorem segments_of_unterminated (h : ∀ byte ∈ token, isTerminator byte = false) :
    segments token = [token] :=
  List.splitOnP_eq_singleton h

/-- The first terminator ends the first segment. -/
theorem segments_append_cons {byte : UInt8} (h : ∀ other ∈ token, isTerminator other = false)
    (hbyte : isTerminator byte = true) (stream : List UInt8) :
    segments (token ++ byte :: stream) = token :: segments stream :=
  List.splitOnP_append_cons_of_forall_mem h byte hbyte stream

/-- Bytes without terminators before a stream belong to its first segment. -/
theorem segments_append (h : ∀ byte ∈ token, isTerminator byte = false) (stream : List UInt8) :
    segments (token ++ stream) = (segments stream).modifyHead (token ++ ·) := by
  induction token with
  | nil =>
      cases hsegments : segments stream <;> simp [hsegments]
  | cons byte token ih =>
      obtain ⟨hbyte, hrest⟩ := List.forall_mem_cons.1 h
      rw [List.cons_append, segments, List.splitOnP_cons_eq_if_modifyHead, hbyte]
      rw [segments] at ih
      simp [ih hrest, segments, Function.comp_def]

end Token

open Token (segments terminators waiting lastToken)

/-- The tokens make up the segment. Joined they are the segment, and so are their texts; none of
them holds a terminator, and each of them but the last ends as a tool does that waits for input. -/
structure MakesUp (segment : List UInt8) (group : List Token) : Prop where
  flatten_eq : group.flatten = segment
  text_eq : group.flatMap Token.text = Text.Utf8.decode segment
  unterminated : ∀ token ∈ group, ∀ c ∈ token.text, c ∉ terminators
  waits : ∀ token ∈ group.dropLast, waiting <:+ token.text

/-- There is one group of tokens for each segment, which makes it up. Every segment but the last has
a token, and the last one has one unless it is empty. -/
inductive Grouped : List (List UInt8) → List (List Token) → Prop where
  | last {segment : List UInt8} {group : List Token} (h : MakesUp segment group)
      (hempty : segment = [] ↔ group = []) : Grouped [segment] [group]
  | cons {segment : List UInt8} {segments : List (List UInt8)} {group : List Token}
      {groups : List (List Token)} (h : MakesUp segment group) (hne : group ≠ [])
      (hrest : Grouped segments groups) : Grouped (segment :: segments) (group :: groups)

variable {pending output rest segment : List UInt8} {tokens group : List Token} {token : Token}

/-- No token makes up nothing. -/
theorem makesUp_nil : MakesUp [] [] :=
  ⟨rfl, rfl, nofun, nofun⟩

/-- A token without terminators makes up itself. -/
theorem makesUp_singleton (h : ∀ byte ∈ token, isTerminator byte = false) :
    MakesUp token [token] where
  flatten_eq := List.flatten_singleton
  text_eq := List.flatMap_singleton ..
  unterminated := List.forall_mem_singleton.2 (Token.terminators_disjoint_text h)
  waits := nofun

/-- An open token may be put before tokens that make up a segment. -/
theorem MakesUp.cons (h : MakesUp segment group)
    (htoken : ∀ byte ∈ token, isTerminator byte = false) (hopen : isOpen token = true) :
    MakesUp (token ++ segment) (token :: group) where
  flatten_eq := by rw [List.flatten_cons, h.flatten_eq]
  text_eq := by rw [List.flatMap_cons, h.text_eq, Token.decode_append_of_isOpen hopen]
  unterminated := List.forall_mem_cons.2 ⟨Token.terminators_disjoint_text htoken, h.unterminated⟩
  waits := by
    cases group with
    | nil => exact nofun
    | cons other group =>
        rw [List.dropLast_cons_cons]
        exact List.forall_mem_cons.2 ⟨Token.waiting_suffix_text hopen, h.waits⟩

/-- An open token before a stream is put into its first group. -/
theorem Grouped.cons_open {groups : List (List Token)} (h : Grouped (segments output) groups)
    (htoken : ∀ byte ∈ token, isTerminator byte = false) (hopen : isOpen token = true) :
    ∃ others, token :: groups.flatten = others.flatten ∧
      Grouped (segments (token ++ output)) others := by
  have hne := Token.ne_nil_of_isOpen hopen
  rw [Token.segments_append htoken]
  generalize segments output = pieces at h
  cases h with
  | @last segment group h _ =>
      exact ⟨[token :: group], by simp, .last (h.cons htoken hopen) (by simp [hne])⟩
  | @cons segment segments group groups h _ hrest =>
      exact ⟨(token :: group) :: groups, by simp, .cons (h.cons htoken hopen) (by simp) hrest⟩

/-- Where a stream is cut into tokens and a last one, these are grouped by its segments. -/
theorem Cuts.exists_groups (h : Cuts pending output tokens rest)
    (hpending : ∀ byte ∈ pending, isTerminator byte = false) :
    ∃ groups, tokens ++ lastToken rest = groups.flatten ∧
      Grouped (segments (pending ++ output)) groups := by
  induction h with
  | @finish pending =>
      refine ⟨[lastToken pending], by simp, ?_⟩
      rw [List.append_nil, Token.segments_of_unterminated hpending]
      cases pending with
      | nil => exact .last makesUp_nil (by simp [lastToken])
      | cons byte pending => exact .last (makesUp_singleton hpending) (by simp [lastToken])
  | @terminator pending output rest tokens byte hbyte _ ih =>
      obtain ⟨groups, htokens, hgroups⟩ := ih nofun
      refine ⟨[pending] :: groups, by simp [htokens], ?_⟩
      rw [Token.segments_append_cons hpending hbyte]
      exact .cons (makesUp_singleton hpending) (by simp) hgroups
  | keep hbyte _ ih =>
      obtain ⟨groups, htokens, hgroups⟩ := ih (by simpa [or_imp, forall_and] using ⟨hpending, hbyte⟩)
      exact ⟨groups, htokens, by simpa using hgroups⟩
  | prompt hbyte hopen _ ih =>
      obtain ⟨groups, htokens, hgroups⟩ := ih nofun
      obtain ⟨others, hothers, hgrouped⟩ := hgroups.cons_open
        (by simpa [or_imp, forall_and] using ⟨hpending, hbyte⟩) hopen
      exact ⟨others, by simp [htokens, ← hothers], by simpa using hgrouped⟩

/-! ## Runs of a tokenizer -/

/-- What is done with the pending bytes of a stream that goes on: more bytes are fed, or the next
token is asked for, of which there may be none. -/
inductive Turn where
  | feed (bytes : List UInt8)
  | ask
  deriving DecidableEq, Repr

/-- The stream that is fed. -/
def fed : List Turn → List UInt8
  | [] => []
  | .feed bytes :: turns => bytes ++ fed turns
  | .ask :: turns => fed turns

/-- The tokens that the turns give, and the bytes that are pending after them. -/
def play : List Turn → List UInt8 → List Token × List UInt8
  | [], pending => ([], pending)
  | .feed bytes :: turns, pending => play turns (pending ++ bytes)
  | .ask :: turns, pending =>
      match Token.next? pending with
      | none => play turns pending
      | some (token, rest) => (token :: (play turns rest).1, (play turns rest).2)

/-- When the stream has ended, asking for a last token until there is none gives the tokens and
leaves the rest. -/
inductive Drains : List UInt8 → List Token → List UInt8 → Prop where
  | done {pending : List UInt8} (h : Token.last? pending = none) : Drains pending [] pending
  | next {pending after rest : List UInt8} {token : Token} {tokens : List Token}
      (h : Token.last? pending = some (token, after)) (hrest : Drains after tokens rest) :
      Drains pending (token :: tokens) rest

/-- Asking for last tokens comes to an end: it gives the last tokens and leaves nothing. -/
theorem drains_iff : Drains pending tokens rest ↔ tokens = Token.takeLast pending ∧ rest = [] := by
  constructor
  · intro h
    induction h with
    | done h =>
        rw [Token.last?_eq_none_iff.1 h]
        exact ⟨Token.takeLast_nil.symm, rfl⟩
    | next h _ ih =>
        obtain ⟨rfl, rfl⟩ := ih
        exact ⟨(Token.takeLast_of_some h).symm, rfl⟩
  · rintro ⟨rfl, rfl⟩
    induction pending using Token.takeLast.induct with
    | case1 pending hnone =>
        obtain rfl := Token.last?_eq_none_iff.1 hnone
        rw [Token.takeLast_nil]
        exact .done hnone
    | case2 pending token rest hlast _ ih =>
        rw [Token.takeLast_of_some hlast]
        exact .next hlast ih

/-- Taking the next token is a cut of the bytes that it takes. -/
theorem exists_cuts_of_next? (h : Token.next? pending = some (token, rest)) :
    ∃ head, pending = head ++ rest ∧ Cuts [] head [token] [] := by
  have hnext := h
  rw [Token.next?] at h
  split at h
  next parts hcut =>
    obtain rfl := Option.some.inj h
    obtain ⟨byte, hbyte, rfl, htoken⟩ := Token.eq_of_cutTerminator hcut
    exact ⟨token ++ [byte], by simp, .of_unterminated htoken (.terminator hbyte .finish)⟩
  next =>
    split at h
    next =>
      obtain ⟨rfl, rfl⟩ := Prod.mk.inj (Option.some.inj h)
      exact ⟨pending, (List.append_nil pending).symm, .of_next? settled_nil hnext .finish⟩
    next => cases h

/-- The turns take tokens off the stream, and leave the rest of it pending. -/
theorem exists_cuts_play (turns : List Turn) (pending : List UInt8) :
    ∃ head, pending ++ fed turns = head ++ (play turns pending).2 ∧
      Cuts [] head (play turns pending).1 [] := by
  induction turns generalizing pending with
  | nil => exact ⟨[], by simp [fed, play], .finish⟩
  | cons turn turns ih =>
      cases turn with
      | feed bytes =>
          obtain ⟨head, heq, hcuts⟩ := ih (pending ++ bytes)
          exact ⟨head, by rw [fed, play, ← heq, List.append_assoc], hcuts⟩
      | ask =>
          rw [fed, play]
          split
          next => exact ih pending
          next token rest hnext =>
            obtain ⟨first, rfl, hfirst⟩ := exists_cuts_of_next? hnext
            obtain ⟨head, heq, hcuts⟩ := ih rest
            refine ⟨first ++ head, ?_, hfirst.append hcuts⟩
            rw [List.append_assoc, List.append_assoc, heq]

/-- At the end of a stream the rest of it is cut into tokens and a last one. -/
theorem exists_cuts_takeLast (pending : List UInt8) :
    ∃ tokens rest, Cuts [] pending tokens rest ∧
      Token.takeLast pending = tokens ++ lastToken rest := by
  induction pending using Token.takeAll.induct with
  | case1 pending hnone =>
      have hsettled := Token.next?_eq_none_iff.1 hnone
      have hcuts : Cuts [] (pending ++ []) [] pending :=
        .of_unterminated hsettled.unterminated .finish
      rw [List.append_nil] at hcuts
      exact ⟨[], pending, hcuts, Token.takeLast_of_settled hsettled⟩
  | case2 pending token rest hnext _ ih =>
      obtain ⟨tokens, final, hcuts, htokens⟩ := ih
      have hlast : Token.last? pending = some (token, rest) := by rw [Token.last?, hnext]
      refine ⟨token :: tokens, final, .of_next? settled_nil hnext hcuts, ?_⟩
      rw [Token.takeLast_of_some hlast, htokens, List.cons_append]

/-- However a stream is fed, and whenever a token is asked for in between, asking for last tokens
when it has ended gives finitely many of them and leaves nothing pending, and all tokens together are
grouped by the segments of the stream. -/
theorem grouped_of_play (turns : List Turn) :
    ∃ (last : List Token) (groups : List (List Token)),
      (∀ tokens rest, Drains (play turns []).2 tokens rest ↔ tokens = last ∧ rest = []) ∧
      (play turns []).1 ++ last = groups.flatten ∧
      Grouped (segments (fed turns)) groups := by
  obtain ⟨head, heq, hhead⟩ := exists_cuts_play turns []
  obtain ⟨tokens, rest, htail, hlast⟩ := exists_cuts_takeLast (play turns []).2
  have hcuts := hhead.append htail
  rw [← heq] at hcuts
  obtain ⟨groups, hflatten, hgroups⟩ := hcuts.exists_groups nofun
  refine ⟨_, groups, fun _ _ => drains_iff, ?_, hgroups⟩
  rw [hlast, ← List.append_assoc, hflatten]

end ClusterSteward.Prompt
