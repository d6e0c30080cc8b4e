import ClusterSteward.Prompt.Token
import ClusterSteward.Proofs.Prompt.Recognition

/-!
# Where output is cut

Output comes in chunks, and where a chunk ends decides whether a colon and a space end a token.
`Cuts` says into which tokens an output may be cut, whatever its chunks are. Main statements:
`cuts_takeAll`, by which every chunk is cut so, `Cuts.exists_of_append`, by which an output is cut
part by part, and `Cuts.of_terminator`, `Cuts.of_open` and `Cuts.of_line`, which say what tokens an
output of each kind gives.
-/

namespace ClusterSteward.Prompt

open Token (isTerminator isOpen openEnding)

/-- With some bytes pending, the output may be cut into the tokens so that the rest is pending.
Every terminator ends a token. The end of a chunk may end one too, when what is pending ends in a
colon and a space. -/
inductive Cuts : List UInt8 → List UInt8 → List Token → List UInt8 → Prop where
  | finish {pending : List UInt8} : Cuts pending [] [] pending
  | terminator {pending output rest : List UInt8} {tokens : List Token} {byte : UInt8}
      (hbyte : isTerminator byte = true) (hrest : Cuts [] output tokens rest) :
      Cuts pending (byte :: output) (pending :: tokens) rest
  | keep {pending output rest : List UInt8} {tokens : List Token} {byte : UInt8}
      (hbyte : isTerminator byte = false) (hrest : Cuts (pending ++ [byte]) output tokens rest) :
      Cuts pending (byte :: output) tokens rest
  | prompt {pending output rest : List UInt8} {tokens : List Token} {byte : UInt8}
      (hbyte : isTerminator byte = false) (hopen : isOpen (pending ++ [byte]) = true)
      (hrest : Cuts [] output tokens rest) :
      Cuts pending (byte :: output) ((pending ++ [byte]) :: tokens) rest

/-- Bytes that may stay pending at the end of a chunk: they hold no terminator and do not end in a
colon and a space. -/
structure Settled (pending : List UInt8) : Prop where
  unterminated : ∀ byte ∈ pending, isTerminator byte = false
  closed : isOpen pending = false

variable {pending middle output others rest : List UInt8} {tokens : List Token}

/-- Output that is cut in two parts is cut. -/
theorem Cuts.append {more : List Token} (h : Cuts pending output tokens middle)
    (hothers : Cuts middle others more rest) :
    Cuts pending (output ++ others) (tokens ++ more) rest := by
  induction h with
  | finish => exact hothers
  | terminator hbyte _ ih => exact .terminator hbyte (ih hothers)
  | keep hbyte _ ih => exact .keep hbyte (ih hothers)
  | prompt hbyte hopen _ ih => exact .prompt hbyte hopen (ih hothers)

/-- Output of two parts is cut in the first part and then in the second. -/
theorem Cuts.exists_of_append (h : Cuts pending (output ++ others) tokens rest) :
    ∃ first between more, tokens = first ++ more ∧ Cuts pending output first between ∧
      Cuts between others more rest := by
  induction output generalizing pending tokens with
  | nil => exact ⟨[], pending, tokens, rfl, .finish, h⟩
  | cons byte output ih =>
      cases h with
      | terminator hbyte h =>
          obtain ⟨first, between, more, rfl, hfirst, hmore⟩ := ih h
          exact ⟨_, between, more, rfl, .terminator hbyte hfirst, hmore⟩
      | keep hbyte h =>
          obtain ⟨first, between, more, rfl, hfirst, hmore⟩ := ih h
          exact ⟨_, between, more, rfl, .keep hbyte hfirst, hmore⟩
      | prompt hbyte hopen h =>
          obtain ⟨first, between, more, rfl, hfirst, hmore⟩ := ih h
          exact ⟨_, between, more, rfl, .prompt hbyte hopen hfirst, hmore⟩

/-- What stays pending is the end of what was pending and of the output. -/
theorem Cuts.isSuffix (h : Cuts pending output tokens rest) : rest <:+ pending ++ output := by
  induction h with
  | finish => simp
  | @terminator pending _ _ _ byte _ _ ih => exact ih.trans ⟨pending ++ [byte], by simp⟩
  | keep _ _ ih => simpa using ih
  | @prompt pending _ _ _ byte _ _ _ ih => exact ih.trans ⟨pending ++ [byte], by simp⟩

/-- Output that completes no token stays pending. -/
theorem Cuts.eq_of_nil (h : Cuts pending output [] rest) : rest = pending ++ output := by
  generalize hnone : ([] : List Token) = tokens at h
  induction h with
  | finish => simp
  | terminator => cases hnone
  | keep _ _ ih => simpa using ih hnone
  | prompt => cases hnone

/-- Output without terminators may stay pending. -/
theorem Cuts.of_unterminated (houtput : ∀ byte ∈ output, isTerminator byte = false)
    (h : Cuts (pending ++ output) others tokens rest) :
    Cuts pending (output ++ others) tokens rest := by
  induction output generalizing pending with
  | nil => simpa using h
  | cons byte output ih =>
      obtain ⟨hbyte, hrest⟩ := List.forall_mem_cons.1 houtput
      refine .keep hbyte (ih hrest ?_)
      simpa using h

/-- Terminators are ASCII. -/
theorem Token.toNat_lt_of_isTerminator {byte : UInt8} (h : isTerminator byte = true) :
    byte.toNat < 0x80 := by
  simp only [isTerminator, Bool.or_eq_true, beq_iff_eq] at h
  rcases h with (rfl | rfl) | rfl <;> decide

/-- Bytes are not cut at a terminator exactly when they hold none. -/
theorem Token.cutTerminator_eq_none_iff :
    Token.cutTerminator output = none ↔ ∀ byte ∈ output, isTerminator byte = false := by
  induction output with
  | nil => simp [Token.cutTerminator]
  | cons byte output ih =>
      rw [Token.cutTerminator, List.forall_mem_cons, ← ih]
      cases isTerminator byte <;> simp

/-- When the pending bytes hold no terminator, the first one comes with the output. -/
theorem exists_of_cutTerminator {token : Token} {byte : UInt8}
    (hpending : ∀ other ∈ pending, isTerminator other = false) (hbyte : isTerminator byte = true)
    (h : pending ++ output = token ++ byte :: rest) :
    ∃ before, token = pending ++ before ∧ output = before ++ byte :: rest := by
  rcases List.append_eq_append_iff.1 h with ⟨before, htoken, houtput⟩ | ⟨after, hsplit, hafter⟩
  · exact ⟨before, htoken, houtput⟩
  · cases after with
    | nil => exact ⟨[], by simpa using hsplit.symm, by simpa using hafter.symm⟩
    | cons other after =>
        obtain rfl : byte = other := (List.cons.inj hafter).1
        have hmem : byte ∈ pending := by simp [hsplit]
        rw [hpending byte hmem] at hbyte
        cases hbyte

/-- When there is a next token, the tokens are that one and those of the bytes after it. -/
theorem Token.takeAll_of_some {token : Token} (h : Token.next? pending = some (token, rest)) :
    Token.takeAll pending = (token :: (Token.takeAll rest).1, (Token.takeAll rest).2) := by
  rw [Token.takeAll]
  split
  next hnone =>
    rw [h] at hnone
    cases hnone
  next hsome =>
    rw [h] at hsome
    cases hsome
    rfl

/-- When there is no next token, all bytes are left. -/
theorem Token.takeAll_of_none (h : Token.next? pending = none) :
    Token.takeAll pending = ([], pending) := by
  rw [Token.takeAll]
  split
  next => rfl
  next hsome =>
    rw [h] at hsome
    cases hsome

/-- Nothing pending is settled. -/
theorem settled_nil : Settled [] :=
  ⟨nofun, rfl⟩

/-- No token is taken exactly of settled bytes. -/
theorem Token.next?_eq_none_iff : Token.next? pending = none ↔ Settled pending := by
  rw [Token.next?]
  constructor
  · intro h
    split at h
    next => cases h
    next hcut =>
      have hclosed : isOpen pending = false := by simpa using h
      exact ⟨Token.cutTerminator_eq_none_iff.1 hcut, hclosed⟩
  · rintro ⟨hunterminated, hclosed⟩
    rw [Token.cutTerminator_eq_none_iff.2 hunterminated, hclosed]
    rfl

/-- The last token of settled bytes, if there are any. -/
def Token.lastToken (pending : List UInt8) : List Token :=
  if pending.isEmpty then [] else [pending]

/-- There is no last token exactly of nothing. -/
theorem Token.last?_eq_none_iff : Token.last? pending = none ↔ pending = [] := by
  rw [Token.last?]
  constructor
  · intro h
    split at h
    next => cases h
    next => simpa using h
  · rintro rfl
    rfl

/-- When there is a last token, the last tokens are that one and those of the bytes after it. -/
theorem Token.takeLast_of_some {token : Token} (h : Token.last? pending = some (token, rest)) :
    Token.takeLast pending = token :: Token.takeLast rest := by
  rw [Token.takeLast]
  split
  next hnone =>
    rw [h] at hnone
    cases hnone
  next hsome =>
    rw [h] at hsome
    cases hsome
    rfl

/-- There are no last tokens of nothing. -/
theorem Token.takeLast_nil : Token.takeLast [] = [] := by
  rw [Token.takeLast]
  rfl

/-- Settled bytes are one token when the output ends after them. -/
theorem Token.takeLast_of_settled (h : Settled pending) :
    Token.takeLast pending = Token.lastToken pending := by
  cases pending with
  | nil => exact Token.takeLast_nil
  | cons byte pending =>
      have hlast : Token.last? (byte :: pending) = some (byte :: pending, []) := by
        rw [Token.last?, Token.next?_eq_none_iff.2 h]
        rfl
      rw [Token.takeLast_of_some hlast, Token.takeLast_nil]
      rfl

/-- Taking a token that was not pending already is a cut. -/
theorem Cuts.of_next? {token : Token} {left : List UInt8} (hpending : Settled pending)
    (hnext : Token.next? (pending ++ output) = some (token, left))
    (h : Cuts [] left tokens rest) : Cuts pending output (token :: tokens) rest := by
  rw [Token.next?] at hnext
  split at hnext
  next parts hcut =>
    obtain rfl := Option.some.inj hnext
    obtain ⟨byte, hbyte, heq, htoken⟩ := Token.eq_of_cutTerminator hcut
    obtain ⟨before, rfl, rfl⟩ := exists_of_cutTerminator hpending.unterminated hbyte heq
    have hbefore : ∀ other ∈ before, isTerminator other = false :=
      fun other hother => htoken other (List.mem_append_right _ hother)
    exact .of_unterminated hbefore (.terminator hbyte h)
  next hcut =>
    split at hnext
    next hopen =>
      simp only [Option.some.injEq, Prod.mk.injEq] at hnext
      obtain ⟨rfl, rfl⟩ := hnext
      -- the space that opens the prompt is new: what was pending does not end openly
      have hne : output ≠ [] := by
        rintro rfl
        rw [List.append_nil, hpending.closed] at hopen
        cases hopen
      obtain ⟨before, byte, rfl⟩ := (List.eq_nil_or_concat output).resolve_left hne
      rw [List.concat_eq_append, ← List.append_assoc] at hopen hcut ⊢
      have hplain := Token.cutTerminator_eq_none_iff.1 hcut
      have hbefore : ∀ other ∈ before, isTerminator other = false := fun other hother =>
        hplain other (List.mem_append_left _ (List.mem_append_right _ hother))
      exact .of_unterminated hbefore (.prompt (hplain byte (by simp)) hopen h)
    next => cases hnext

/-- Every chunk is cut where its output may be cut, and what stays pending is settled. -/
theorem cuts_takeAll (output : List UInt8) (hpending : Settled pending) :
    Cuts pending output (Token.takeAll (pending ++ output)).1
        (Token.takeAll (pending ++ output)).2 ∧
      Settled (Token.takeAll (pending ++ output)).2 := by
  -- the recursion of `takeAll`: each token leaves fewer bytes, of which none are pending
  generalize hbytes : pending ++ output = bytes
  induction bytes using Token.takeAll.induct generalizing pending output with
  | case1 bytes hnone =>
      subst hbytes
      have hsettled := Token.next?_eq_none_iff.1 hnone
      have houtput : ∀ byte ∈ output, isTerminator byte = false :=
        fun byte hbyte => hsettled.unterminated byte (List.mem_append_right _ hbyte)
      rw [Token.takeAll_of_none hnone]
      have hcuts : Cuts pending (output ++ []) [] (pending ++ output) :=
        .of_unterminated houtput .finish
      rw [List.append_nil] at hcuts
      exact ⟨hcuts, hsettled⟩
  | case2 bytes token left hnext hshorter ih =>
      subst hbytes
      obtain ⟨hcuts, hsettled⟩ := ih left settled_nil rfl
      rw [Token.takeAll_of_some hnext]
      exact ⟨.of_next? hpending hnext hcuts, hsettled⟩

/-! ## Output of each kind -/

/-- Bytes that end in a colon and a space end in a space, and before it in a colon. -/
theorem of_isOpen {byte : UInt8} (h : isOpen (pending ++ [byte]) = true) :
    byte = 0x20 ∧ pending.getLast? = some 0x3A := by
  have hsuffix : [0x3A] ++ [0x20] <:+ pending ++ [byte] := List.isSuffixOf_iff_suffix.1 h
  obtain ⟨before, hbefore⟩ := hsuffix
  rw [← List.append_assoc] at hbefore
  obtain ⟨rfl, hbyte⟩ := List.append_inj' hbefore rfl
  exact ⟨(List.singleton_inj.1 hbyte).symm, by simp⟩

/-- Bytes at which nothing is cut: colons and terminators are not among them. -/
def Plain (output : List UInt8) : Prop :=
  ∀ byte ∈ output, byte ≠ 0x3A ∧ isTerminator byte = false

/-- Whether bytes are plain is decided byte by byte. -/
instance (output : List UInt8) : Decidable (Plain output) :=
  List.decidableBAll (fun byte ↦ byte ≠ 0x3A ∧ isTerminator byte = false) output

/-- Plain output stays pending, if it does not come right after a colon. -/
theorem Cuts.of_plain (hpending : pending.getLast? ≠ some 0x3A) (hplain : Plain output)
    (h : Cuts pending (output ++ others) tokens rest) :
    Cuts (pending ++ output) others tokens rest := by
  induction output generalizing pending with
  | nil => simpa using h
  | cons byte output ih =>
      obtain ⟨⟨hcolon, hbyte⟩, hothers⟩ := List.forall_mem_cons.1 hplain
      have hnext : (pending ++ [byte]).getLast? ≠ some 0x3A := by simpa using hcolon
      cases h with
      | terminator hstop _ => cases hbyte.symm.trans hstop
      | keep _ h => simpa using ih hnext hothers h
      | prompt _ hopen _ => exact absurd (of_isOpen hopen).2 hpending

/-- A terminator gives one token. -/
theorem Cuts.of_terminator {stop : UInt8} (hstop : isTerminator stop = true)
    (h : Cuts pending (stop :: others) tokens rest) :
    ∃ more, tokens = pending :: more ∧ Cuts [] others more rest := by
  cases h with
  | terminator _ h => exact ⟨_, rfl, h⟩
  | keep hkeep _ => cases hkeep.symm.trans hstop
  | prompt hkeep _ _ => cases hkeep.symm.trans hstop

/-- A colon and a space after other bytes give one token, if nothing that ends so is left
pending. -/
theorem Cuts.of_open (h : Cuts pending openEnding tokens rest) (hrest : isOpen rest = false) :
    tokens = [pending ++ openEnding] ∧ rest = [] := by
  rw [openEnding] at h
  cases h with
  | terminator hstop _ => cases hstop
  | prompt _ hopen _ => cases (of_isOpen hopen).1
  | keep _ h =>
      cases h with
      | terminator hstop _ => cases hstop
      | prompt _ _ h =>
          cases h
          simp [openEnding]
      | keep _ h =>
          cases h
          have hopen : isOpen (pending ++ openEnding) = true :=
            List.isSuffixOf_iff_suffix.2 (List.suffix_append _ _)
          rw [List.append_assoc] at hrest
          cases hopen.symm.trans hrest

/-- Output that ends in a colon leaves a colon at the end of what is pending. -/
theorem Cuts.getLast?_of_colon (h : Cuts pending (output ++ [0x3A]) tokens rest) :
    rest.getLast? = some 0x3A := by
  obtain ⟨first, between, more, -, -, hlast⟩ := h.exists_of_append
  cases hlast with
  | terminator hstop _ => cases hstop
  | prompt _ hopen _ => cases (of_isOpen hopen).1
  | keep _ hlast =>
      cases hlast
      simp

/-- Pending bytes that end in a colon end openly with a space. -/
theorem isOpen_space (h : pending.getLast? = some 0x3A) : isOpen (pending ++ [0x20]) = true := by
  obtain ⟨before, rfl⟩ := List.getLast?_eq_some_iff.1 h
  exact List.isSuffixOf_iff_suffix.2 ⟨before, by simp [openEnding]⟩

/-- If all output ends in a colon and a space then so does what is pending of it, unless nothing is.
The output that was cut off `before` did not end in a colon. -/
theorem Cuts.isOpen_rest {before : List UInt8} (h : Cuts [] output tokens rest)
    (hbefore : before.getLast? ≠ some 0x3A) (hopen : isOpen (before ++ output) = true)
    (hrest : rest ≠ []) : isOpen rest = true := by
  obtain ⟨start, byte, rfl⟩ := (List.eq_nil_or_concat rest).resolve_left hrest
  rw [List.concat_eq_append] at h ⊢
  obtain ⟨early, hsplit⟩ := h.isSuffix
  rw [List.nil_append, ← List.append_assoc] at hsplit
  subst hsplit
  rw [← List.append_assoc] at hopen
  obtain ⟨rfl, hcolon⟩ := of_isOpen hopen
  -- the space is pending, so what is pending before it was pending there too
  obtain ⟨first, between, more, -, hfirst, hlast⟩ := h.exists_of_append
  have hstart : between = start := by
    generalize hspace : start ++ [0x20] = pending at hlast
    cases hlast with
    | terminator hstop _ => cases hstop
    | prompt _ _ hlast =>
        cases hlast
        simp at hspace
    | keep _ hlast =>
        cases hlast
        exact (List.append_cancel_right hspace).symm
  subst hstart
  refine isOpen_space ?_
  rw [List.getLast?_append] at hcolon
  cases hearly : (early ++ between).getLast? with
  | none =>
      rw [hearly] at hcolon
      exact absurd hcolon hbefore
  | some last =>
      rw [hearly] at hcolon
      obtain rfl := Option.some.inj hcolon
      obtain ⟨output, houtput⟩ := List.getLast?_eq_some_iff.1 hearly
      rw [houtput] at hfirst
      exact hfirst.getLast?_of_colon

/-- A line without triggers gives no token that is answered, and leaves nothing pending. -/
theorem Cuts.of_line {reactions : List Reaction} {line : List UInt8}
    (hline : 0x0A ∉ line) (hsilent : Silent reactions (Text.Utf8.decode (pending ++ line)))
    (h : Cuts pending (line ++ 0x0A :: others) tokens rest) :
    ∃ heard more, tokens = heard ++ more ∧ heard.filterMap (Reaction.respond reactions) = [] ∧
      Cuts [] others more rest := by
  induction line generalizing pending tokens with
  | nil =>
      obtain ⟨more, rfl, hmore⟩ := Cuts.of_terminator (by decide) h
      rw [List.append_nil] at hsilent
      refine ⟨[pending], more, rfl, ?_, hmore⟩
      rw [List.filterMap_cons_none (Reaction.respond_of_silent hsilent), List.filterMap_nil]
  | cons byte line ih =>
      have hrest : 0x0A ∉ line := fun hmem => hline (List.mem_cons_of_mem _ hmem)
      cases h with
      | keep _ h =>
          rw [List.append_cons] at hsilent
          exact ih hrest hsilent h
      | terminator hstop h =>
          have hascii := Token.toNat_lt_of_isTerminator hstop
          obtain ⟨hbefore, -, hafter⟩ := hsilent.of_ascii hascii
          obtain ⟨heard, more, rfl, hheard, hmore⟩ :=
            ih hrest (List.nil_append line ▸ hafter) h
          refine ⟨pending :: heard, more, rfl, ?_, hmore⟩
          rw [List.filterMap_cons_none (Reaction.respond_of_silent hbefore), hheard]
      | prompt _ hopen h =>
          obtain rfl := (of_isOpen hopen).1
          obtain ⟨-, hbefore, hafter⟩ := hsilent.of_ascii (by decide)
          obtain ⟨heard, more, rfl, hheard, hmore⟩ :=
            ih hrest (List.nil_append line ▸ hafter) h
          refine ⟨(pending ++ [0x20]) :: heard, more, rfl, ?_, hmore⟩
          rw [List.filterMap_cons_none (Reaction.respond_of_silent hbefore), hheard]

end ClusterSteward.Prompt
