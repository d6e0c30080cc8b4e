import Mathlib
import ClusterSteward.Text.Blank
import ClusterSteward.Text.Decimal

/-!
# Words and numerals

What trimming, splitting into words and reading numbers do to text that was written as words and
numerals. Main statements: `words_intercalate`, which says that words joined by spaces are read
back, `trim_eq_self`, and `readUInt16_decimal`, which says that a numeral is read as its number.
-/

namespace ClusterSteward.Text

/-- A text without blank characters. -/
def Solid (text : List Char) : Prop :=
  ∀ c ∈ text, isBlank c = false

/-- A word is a text without blank characters that is not empty. -/
structure IsWord (text : List Char) : Prop where
  ne_nil : text ≠ []
  solid : Solid text

instance (text : List Char) : Decidable (Solid text) :=
  List.decidableBAll (fun c ↦ isBlank c = false) text

instance (text : List Char) : Decidable (IsWord text) :=
  decidable_of_iff (text ≠ [] ∧ Solid text) ⟨fun h => ⟨h.1, h.2⟩, fun h => ⟨h.1, h.2⟩⟩

/-! ## Blank characters -/

/-- An ASCII character is blank exactly when its code is a control code from 9 to 13 or a space. -/
theorem isBlank_of_lt {c : Char} (h : c.toNat < 0x80) :
    isBlank c = true ↔ (9 ≤ c.toNat ∧ c.toNat ≤ 13) ∨ c.toNat = 0x20 := by
  simp only [isBlank, Bool.or_eq_true, Bool.and_eq_true, decide_eq_true_eq, beq_iff_eq]
  omega

/-- A solid text holds no space. -/
theorem Solid.space_not_mem {text : List Char} (h : Solid text) : ' ' ∉ text := by
  intro hmem
  exact absurd (h ' ' hmem) (by decide)

/-- A solid text holds no newline. -/
theorem Solid.newline_not_mem {text : List Char} (h : Solid text) : '\n' ∉ text := by
  intro hmem
  exact absurd (h '\n' hmem) (by decide)

/-- Solid texts are joined to a solid text. -/
theorem Solid.append {left right : List Char} (hleft : Solid left) (hright : Solid right) :
    Solid (left ++ right) := by
  intro c hc
  exact (List.mem_append.1 hc).elim (hleft c) (hright c)

/-- A solid text stays solid behind a character that is not blank. -/
theorem Solid.cons {c : Char} {text : List Char} (hc : isBlank c = false) (h : Solid text) :
    Solid (c :: text) :=
  List.forall_mem_cons.2 ⟨hc, h⟩

/-- What holds of the characters of some texts and of a separator holds of the joined text. -/
theorem forall_mem_intercalate {p : Char → Prop} {separator : List Char} {parts : List (List Char)}
    (hseparator : ∀ c ∈ separator, p c) (h : ∀ part ∈ parts, ∀ c ∈ part, p c) :
    ∀ c ∈ separator.intercalate parts, p c := by
  induction parts with
  | nil => exact fun c hc => nomatch hc
  | cons part parts ih =>
      have hpart := h part List.mem_cons_self
      have hparts := ih fun other hmem => h other (List.mem_cons_of_mem _ hmem)
      cases parts with
      | nil => simpa using hpart
      | cons other others =>
          rw [List.intercalate_cons_cons]
          exact List.forall_mem_append.2 ⟨List.forall_mem_append.2 ⟨hpart, hseparator⟩, hparts⟩

/-- What holds of the last characters of some texts, none of them empty, holds of the last one of
the joined text. -/
theorem forall_mem_getLast?_intercalate {p : Char → Prop} {separator : List Char}
    {parts : List (List Char)} (hne : ∀ part ∈ parts, part ≠ [])
    (h : ∀ part ∈ parts, ∀ c ∈ part.getLast?, p c) :
    ∀ c ∈ (separator.intercalate parts).getLast?, p c := by
  induction parts with
  | nil => exact fun c hc => nomatch hc
  | cons part parts ih =>
      have hparts := ih (fun other hmem => hne other (List.mem_cons_of_mem _ hmem))
        fun other hmem => h other (List.mem_cons_of_mem _ hmem)
      cases parts with
      | nil => simpa using h part List.mem_cons_self
      | cons other others =>
          have hlast : separator.intercalate (other :: others) ≠ [] := by
            have hother : other ≠ [] := hne other (by simp)
            cases others with
            | nil => simpa using hother
            | cons third rest => simp [List.intercalate_cons_cons, hother]
          rw [List.intercalate_cons_cons, List.getLast?_append_of_ne_nil _ hlast]
          exact hparts

/-! ## Trimming -/

/-- There is nothing to trim in front of a character that is not blank. -/
theorem trimStart_eq_self {text : List Char} (h : ∀ c ∈ text.head?, isBlank c = false) :
    trimStart text = text := by
  cases text with
  | nil => rfl
  | cons c rest =>
      have hc : isBlank c = false := h c (by simp)
      simp [trimStart, hc]

/-- There is nothing to trim behind a character that is not blank. -/
theorem trimEnd_eq_self {text : List Char} (h : ∀ c ∈ text.getLast?, isBlank c = false) :
    trimEnd text = text := by
  have hreverse : trimStart text.reverse = text.reverse := trimStart_eq_self (by simpa using h)
  rw [trimStart] at hreverse
  rw [trimEnd, hreverse, List.reverse_reverse]

/-- A text is trimmed already when neither its first nor its last character is blank. -/
theorem trim_eq_self {text : List Char} (hhead : ∀ c ∈ text.head?, isBlank c = false)
    (hlast : ∀ c ∈ text.getLast?, isBlank c = false) : trim text = text := by
  rw [trim, trimStart_eq_self hhead, trimEnd_eq_self hlast]

@[simp] theorem trimEnd_nil : trimEnd [] = [] := rfl

/-- Nothing is left of a text exactly when it is blank. -/
theorem trimEnd_eq_nil_iff {text : List Char} : trimEnd text = [] ↔ allBlank text = true := by
  rw [trimEnd, List.reverse_eq_nil_iff, List.dropWhile_eq_nil_iff, allBlank, List.all_eq_true]
  simp only [List.mem_reverse]

/-- Trimming the end leaves the start of a text. -/
theorem trimEnd_prefix (text : List Char) : trimEnd text <+: text := by
  rw [trimEnd, ← List.reverse_suffix, List.reverse_reverse]
  exact List.dropWhile_suffix _

/-- Trimming leaves a consecutive piece of the text. -/
theorem trim_infix (text : List Char) : trim text <:+: text := by
  have hstart : trimStart text <:+ text := List.dropWhile_suffix _
  have hend : trim text <+: trimStart text := trimEnd_prefix (trimStart text)
  exact hend.isInfix.trans hstart.isInfix

/-- What is left of a text starts as the text does. -/
theorem mem_head?_of_trimEnd {text : List Char} {c : Char} (h : c ∈ (trimEnd text).head?) :
    c ∈ text.head? := by
  obtain ⟨blanks, hblanks⟩ := trimEnd_prefix text
  obtain ⟨rest, hrest⟩ := List.head?_eq_some_iff.1 h
  rw [← hblanks, hrest]
  rfl

/-- Behind a text, blanks are cut off the end; what is not blank keeps the text as it is. -/
theorem trimEnd_append (left right : List Char) :
    trimEnd (left ++ right) = if allBlank right then trimEnd left else left ++ trimEnd right := by
  have hblank : (right.reverse.dropWhile isBlank).isEmpty = allBlank right := by
    rw [Bool.eq_iff_iff, List.isEmpty_iff, ← trimEnd_eq_nil_iff, trimEnd, List.reverse_eq_nil_iff]
  rw [trimEnd, List.reverse_append, List.dropWhile_append, hblank]
  split
  next => rfl
  next => rw [List.reverse_append, List.reverse_reverse, trimEnd]

/-- Blanks around a text do not change what trimming leaves of it. -/
theorem trim_append {before text after : List Char} (hbefore : allBlank before = true)
    (hafter : allBlank after = true) : trim (before ++ text ++ after) = trim text := by
  have hblank : ∀ c ∈ before, isBlank c = true := List.all_eq_true.1 hbefore
  have hstart : trimStart (before ++ text ++ after) = trimStart (text ++ after) := by
    rw [List.append_assoc, trimStart, List.dropWhile_append_of_pos hblank]
    rfl
  have hsplit : trimStart (text ++ after) =
      if (trimStart text).isEmpty then [] else trimStart text ++ after := by
    rw [trimStart, List.dropWhile_append, List.dropWhile_eq_nil_iff.2 (List.all_eq_true.1 hafter)]
    rfl
  rw [trim, hstart, hsplit, trim]
  split
  next hnone => rw [List.isEmpty_iff.1 hnone]
  next => rw [trimEnd_append, if_pos hafter]

/-- Trimming cuts blanks off both ends of a text. -/
theorem exists_append_trim (text : List Char) :
    ∃ before after, allBlank before = true ∧ allBlank after = true ∧
      text = before ++ trim text ++ after := by
  have hstart : text.takeWhile isBlank ++ trimStart text = text := List.takeWhile_append_dropWhile
  have hend : trimStart text =
      trim text ++ ((trimStart text).reverse.takeWhile isBlank).reverse := by
    rw [trim, trimEnd, ← List.reverse_append, List.takeWhile_append_dropWhile,
      List.reverse_reverse]
  refine ⟨text.takeWhile isBlank, ((trimStart text).reverse.takeWhile isBlank).reverse, ?_, ?_, ?_⟩
  · exact List.all_takeWhile
  · rw [allBlank, List.all_reverse]
    exact List.all_takeWhile
  · rw [List.append_assoc, ← hend, hstart]

/-- A trimmed text is trimmed already. -/
theorem trim_trim (text : List Char) : trim (trim text) = trim text := by
  obtain ⟨before, after, hbefore, hafter, htext⟩ := exists_append_trim text
  calc trim (trim text) = trim (before ++ trim text ++ after) := (trim_append hbefore hafter).symm
    _ = trim text := by rw [← htext]

/-- A trimmed text does not end in a blank character. -/
theorem isBlank_getLast?_trim (text : List Char) :
    ∀ c ∈ (trim text).getLast?, isBlank c = false := by
  intro c hc
  have hstop := List.head?_dropWhile_not isBlank (trimStart text).reverse
  rw [trim, trimEnd, List.getLast?_reverse] at hc
  rw [hc] at hstop
  exact hstop

/-- A solid text is trimmed already. -/
theorem Solid.trim_eq {text : List Char} (h : Solid text) : trim text = text :=
  trim_eq_self (fun c hc => h c (List.mem_of_mem_head? hc))
    (fun c hc => h c (List.mem_of_mem_getLast? hc))

/-- Behind a word, blanks are cut off the end of the rest only. -/
theorem IsWord.trimEnd_append {word : List Char} (h : IsWord word) (before rest : List Char) :
    trimEnd (before ++ word ++ rest) = before ++ word ++ trimEnd rest := by
  rw [Text.trimEnd_append]
  split
  next hblank =>
    have hlast : ∀ c ∈ (before ++ word).getLast?, isBlank c = false := by
      intro c hc
      rw [List.getLast?_append_of_ne_nil _ h.ne_nil] at hc
      exact h.solid c (List.mem_of_mem_getLast? hc)
    rw [trimEnd_eq_self hlast, trimEnd_eq_nil_iff.2 hblank, List.append_nil]
  next => rfl

/-- Of a text that starts with a word, only the rest is trimmed, at its end. -/
theorem IsWord.trim_append {word : List Char} (h : IsWord word) (rest : List Char) :
    trim (word ++ rest) = word ++ trimEnd rest := by
  have hstart : trimStart (word ++ rest) = word ++ rest := by
    refine trimStart_eq_self fun c hc => ?_
    rw [List.head?_append_of_ne_nil _ h.ne_nil] at hc
    exact h.solid c (List.mem_of_mem_head? hc)
  rw [trim, hstart]
  exact h.trimEnd_append [] rest

/-! ## Words -/

/-- The words after a word and a space are those of the rest, behind that word. -/
theorem words_append_space {word rest : List Char} (h : IsWord word) :
    words (word ++ ' ' :: rest) = word :: words rest := by
  have hne : word.isEmpty = false := by simpa using h.ne_nil
  rw [words, List.splitOnP_append_cons_of_forall_mem h.solid ' ' (by decide),
    List.filter_cons_of_pos (by simp [hne])]
  rfl

/-- A space in front of a text does not change its words. -/
theorem words_space (rest : List Char) : words (' ' :: rest) = words rest := by
  rw [words, List.splitOnP_cons_eq_if_modifyHead, if_pos (by decide),
    List.filter_cons_of_neg (by simp)]
  rfl

/-- The only word of a word is itself. -/
theorem IsWord.words_eq {word : List Char} (h : IsWord word) : words word = [word] := by
  have hne : word.isEmpty = false := by simpa using h.ne_nil
  simp [words, List.splitOnP_eq_singleton h.solid, hne]

/-- Words joined by spaces are read back. -/
theorem words_intercalate {parts : List (List Char)} (h : ∀ part ∈ parts, IsWord part) :
    words ([' '].intercalate parts) = parts := by
  induction parts with
  | nil => rfl
  | cons part parts ih =>
      have hpart : IsWord part := h part List.mem_cons_self
      have hparts : ∀ other ∈ parts, IsWord other := fun other hmem =>
        h other (List.mem_cons_of_mem _ hmem)
      cases parts with
      | nil => simpa using hpart.words_eq
      | cons other others =>
          have hjoin : [' '].intercalate (part :: other :: others) =
              part ++ ' ' :: [' '].intercalate (other :: others) := by
            simp [List.intercalate_cons_cons]
          rw [hjoin, words_append_space hpart, ih hparts]

/-- Words joined by spaces do not end in a blank character. -/
theorem isBlank_getLast?_intercalate {parts : List (List Char)}
    (h : ∀ part ∈ parts, IsWord part) :
    ∀ c ∈ ([' '].intercalate parts).getLast?, isBlank c = false :=
  forall_mem_getLast?_intercalate (fun part hpart => (h part hpart).ne_nil)
    fun part hpart c hc => (h part hpart).solid c (List.mem_of_mem_getLast? hc)

/-! ## Openings -/

/-- An opening is dropped from a text that it stands in front of. -/
theorem dropOpening_append (opening rest : List Char) :
    dropOpening opening (opening ++ rest) = rest := by
  have hopening : opening.isPrefixOf (opening ++ rest) = true :=
    List.isPrefixOf_iff_prefix.2 (List.prefix_append opening rest)
  rw [dropOpening, if_pos hopening, List.drop_left]

/-- An opening that does not stand in front of a text is not dropped from it. -/
theorem dropOpening_eq_self {opening text : List Char} (h : ¬ opening <+: text) :
    dropOpening opening text = text := by
  rw [dropOpening, if_neg fun hopening => h (List.isPrefixOf_iff_prefix.1 hopening)]

/-- What is left behind an opening ends the text. -/
theorem dropOpening_suffix (opening text : List Char) : dropOpening opening text <:+ text := by
  rw [dropOpening]
  split
  next => exact List.drop_suffix _ _
  next => exact List.suffix_refl _

/-! ## Numerals -/

/-- A digit is not blank. -/
theorem isBlank_of_isDigit {c : Char} (h : c.isDigit = true) : isBlank c = false := by
  simp only [Char.isDigit, Bool.and_eq_true, decide_eq_true_eq] at h
  have hlow : 48 ≤ c.toNat := h.1
  have hhigh : c.toNat ≤ 57 := h.2
  rw [Bool.eq_false_iff, ne_eq, isBlank_of_lt (by omega)]
  omega

/-- A digit is no letter. -/
theorem isAlpha_of_isDigit {c : Char} (h : c.isDigit = true) : c.isAlpha = false := by
  simp only [Char.isDigit, Bool.and_eq_true, decide_eq_true_eq] at h
  have hhigh : c.toNat ≤ 57 := h.2
  rw [Bool.eq_false_iff]
  intro halpha
  simp only [Char.isAlpha, Char.isUpper, Char.isLower, Bool.or_eq_true, Bool.and_eq_true,
    decide_eq_true_eq] at halpha
  rcases halpha with ⟨hupper, -⟩ | ⟨hlower, -⟩
  · have hletter : 65 ≤ c.toNat := hupper
    omega
  · have hletter : 97 ≤ c.toNat := hlower
    omega

/-- A numeral is made of digits. -/
theorem isDigit_of_mem_decimal {c : Char} {value : Nat} (h : c ∈ decimal value) :
    c.isDigit = true :=
  Nat.isDigit_of_mem_toDigits (by decide) (by decide) h

/-- A numeral is a word. -/
theorem isWord_decimal (value : Nat) : IsWord (decimal value) where
  ne_nil := Nat.toDigits_ne_nil
  solid _ hc := isBlank_of_isDigit (isDigit_of_mem_decimal hc)

/-- A character that is no digit does not occur in a numeral. -/
theorem not_mem_decimal {c : Char} (h : c.isDigit = false) (value : Nat) : c ∉ decimal value := by
  intro hmem
  rw [isDigit_of_mem_decimal hmem] at h
  contradiction

/-- A number is written on one line. -/
theorem newline_not_mem_repr (value : Nat) : '\n' ∉ (Nat.repr value).toList := by
  rw [Nat.toList_repr]
  exact not_mem_decimal (by decide) value

/-- The value of digits is computed by the usual recursion from the left. -/
theorem foldlM_digitValue? {text : List Char} (h : ∀ c ∈ text, c.isDigit = true) (start : Nat) :
    text.foldlM (fun value c ↦ (digitValue? c).map (10 * value + ·)) start =
      some (Nat.ofDigitChars 10 text start) := by
  induction text generalizing start with
  | nil => simp
  | cons c rest ih =>
      have hc : digitValue? c = some (c.toNat - '0'.toNat) := by
        simp [digitValue?, h c List.mem_cons_self]
      rw [List.foldlM_cons, hc, Nat.ofDigitChars_cons]
      exact ih (fun other hmem => h other (List.mem_cons_of_mem _ hmem)) _

/-- A numeral has the value that it was written for. -/
theorem digitsValue?_decimal (value : Nat) : digitsValue? (decimal value) = some value := by
  rw [digitsValue?, foldlM_digitValue? fun _ => isDigit_of_mem_decimal]
  exact congrArg some Nat.ofDigitChars_ten_toDigits

/-- A numeral does not start with a plus sign. -/
theorem dropOpening_plus_decimal (value : Nat) :
    dropOpening ['+'] (decimal value) = decimal value :=
  dropOpening_eq_self fun hopening =>
    not_mem_decimal (by decide) value (hopening.subset List.mem_cons_self)

/-- A numeral below the limit is read as its number. -/
theorem readBelow_decimal {limit value : Nat} (h : value < limit) :
    readBelow limit (decimal value) = some value := by
  have hne : (decimal value).isEmpty = false := by
    simpa using (isWord_decimal value).ne_nil
  simp [readBelow, dropOpening_plus_decimal, hne, digitsValue?_decimal, h]

/-- The numeral of a 16-bit number is read as that number. -/
theorem readUInt16_decimal (value : UInt16) : readUInt16 (decimal value.toNat) = some value := by
  rw [readUInt16, readBelow_decimal value.toNat_lt_size]
  simp

end ClusterSteward.Text
