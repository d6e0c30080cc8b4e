import ClusterSteward.Text.Utf8

/-!
# Prompt tokens

The output of an interactive tool is cut into tokens, of which each may be a prompt. A token ends
before a newline, a question mark or a closing parenthesis, and what is pending is a token too when
it ends as a tool does that waits for input: in a colon and a space. At the end of the output the
rest is the last token. Main statements: `length_rest_lt_of_next?`, by which cutting comes to an
end, and `eq_or_eq_of_next?`, which says what a token is made of.
-/

namespace ClusterSteward.Prompt

/-- The bytes of a token; the byte that ends it is not part of it. -/
abbrev Token := List UInt8

namespace Token

/-- The text of a token. -/
def text (token : Token) : List Char :=
  Text.Utf8.decode token

/-- Whether the byte ends a token: a newline, a question mark or a closing parenthesis. -/
def isTerminator (byte : UInt8) : Bool :=
  byte == 0x0A || byte == 0x3F || byte == 0x29

/-- The colon and the space after which a tool waits for input. -/
def openEnding : List UInt8 :=
  [0x3A, 0x20]

/-- Whether the pending bytes end in a colon and a space. -/
def isOpen (pending : List UInt8) : Bool :=
  openEnding.isSuffixOf pending

/-- The bytes before and after the first terminator. -/
def cutTerminator : List UInt8 → Option (Token × List UInt8)
  | [] => none
  | byte :: rest =>
      if isTerminator byte then some ([], rest)
      else (cutTerminator rest).map fun (token, after) ↦ (byte :: token, after)

/-- The next token of the pending bytes and the bytes left after it. -/
def next? (pending : List UInt8) : Option (Token × List UInt8) :=
  match cutTerminator pending with
  | some parts => some parts
  | none => if isOpen pending then some (pending, []) else none

/-- The next token of the pending bytes when no more bytes follow them. -/
def last? (pending : List UInt8) : Option (Token × List UInt8) :=
  match next? pending with
  | some parts => some parts
  | none => if pending.isEmpty then none else some (pending, [])

/-- A cut loses nothing but the terminator, and cuts at the first one. -/
theorem eq_of_cutTerminator {pending rest : List UInt8} {token : Token}
    (h : cutTerminator pending = some (token, rest)) :
    ∃ byte, isTerminator byte = true ∧ pending = token ++ byte :: rest ∧
      ∀ other ∈ token, isTerminator other = false := by
  induction pending generalizing token with
  | nil => simp [cutTerminator] at h
  | cons byte bytes ih =>
      rw [cutTerminator] at h
      split at h
      next hbyte =>
        simp only [Option.some.injEq, Prod.mk.injEq] at h
        obtain ⟨rfl, rfl⟩ := h
        exact ⟨byte, hbyte, rfl, by simp⟩
      next hbyte =>
        simp only [Option.map_eq_some_iff, Prod.mk.injEq] at h
        obtain ⟨⟨head, tail⟩, hcut, rfl, rfl⟩ := h
        obtain ⟨stop, hstop, rfl, hhead⟩ := ih hcut
        exact ⟨stop, hstop, rfl, by simpa [hbyte] using hhead⟩

/-- A token is followed by a terminator, or is all that is pending and ends openly. -/
theorem eq_or_eq_of_next? {pending rest : List UInt8} {token : Token}
    (h : next? pending = some (token, rest)) :
    (∃ byte, isTerminator byte = true ∧ pending = token ++ byte :: rest) ∨
      (pending = token ∧ rest = [] ∧ isOpen pending = true) := by
  rw [next?] at h
  split at h
  next parts hcut =>
    obtain rfl : parts = (token, rest) := by simpa using h
    obtain ⟨byte, hbyte, heq, -⟩ := eq_of_cutTerminator hcut
    exact .inl ⟨byte, hbyte, heq⟩
  next =>
    split at h
    next hopen =>
      simp only [Option.some.injEq, Prod.mk.injEq] at h
      exact .inr ⟨h.1, h.2.symm, hopen⟩
    next => simp at h

/-- Pending bytes that end openly are not empty. -/
theorem ne_nil_of_isOpen {pending : List UInt8} (h : isOpen pending = true) : pending ≠ [] := by
  rintro rfl
  exact absurd h (by decide)

/-- Taking a token leaves fewer bytes. -/
theorem length_rest_lt_of_next? {pending rest : List UInt8} {token : Token}
    (h : next? pending = some (token, rest)) : rest.length < pending.length := by
  rcases eq_or_eq_of_next? h with ⟨byte, -, rfl⟩ | ⟨rfl, rfl, hopen⟩
  · simp only [List.length_append, List.length_cons]
    omega
  · exact List.length_pos_iff.2 (ne_nil_of_isOpen hopen)

/-- Taking a last token leaves fewer bytes. -/
theorem length_rest_lt_of_last? {pending rest : List UInt8} {token : Token}
    (h : last? pending = some (token, rest)) : rest.length < pending.length := by
  rw [last?] at h
  split at h
  next parts hnext =>
    obtain rfl : parts = (token, rest) := by simpa using h
    exact length_rest_lt_of_next? hnext
  next =>
    split at h
    next => simp at h
    next hne =>
      simp only [Option.some.injEq, Prod.mk.injEq] at h
      obtain ⟨-, rfl⟩ := h
      exact List.length_pos_iff.2 (by simpa using hne)

/-- The tokens of the pending bytes, and the bytes left after them. -/
def takeAll (pending : List UInt8) : List Token × List UInt8 :=
  match h : next? pending with
  | none => ([], pending)
  | some (token, rest) =>
      have := length_rest_lt_of_next? h
      (token :: (takeAll rest).1, (takeAll rest).2)
termination_by pending.length

/-- The tokens of the pending bytes when no more bytes follow them. -/
def takeLast (pending : List UInt8) : List Token :=
  match h : last? pending with
  | none => []
  | some (token, rest) =>
      have := length_rest_lt_of_last? h
      token :: takeLast rest
termination_by pending.length

end Token

end ClusterSteward.Prompt
