import ClusterSteward.Report
import ClusterSteward.Proofs.Node.RoundTrip

/-!
# What decides a field of a report

A line of a report is an entry when a colon separates a name from a value in it, and it has a say in
the field of the key that its name names, in no other. A later entry overrides an earlier one, so that
the last line of a key decides what its field holds. Main statements: `Text.readBelow_eq_some_iff`,
which says what a number may look like, and `Report.decided_parse`.
-/

namespace ClusterSteward

namespace Text

/-! ## Numerals -/

/-- The text writes the number in digits, of which there is at least one, with or without a plus sign
in front of them. -/
def IsNumeral (text : List Char) (number : Nat) : Prop :=
  ∃ digits, digits ≠ [] ∧ (∀ c ∈ digits, c.isDigit = true) ∧
    (text = digits ∨ text = '+' :: digits) ∧ Nat.ofDigitChars 10 digits 0 = number

/-- Only digits have a value. -/
theorem isDigit_of_foldlM_digitValue? {text : List Char} {start value : Nat}
    (h : text.foldlM (fun value c ↦ (digitValue? c).map (10 * value + ·)) start = some value) :
    ∀ c ∈ text, c.isDigit = true := by
  induction text generalizing start with
  | nil => exact fun c hc => nomatch hc
  | cons c rest ih =>
      rw [List.foldlM_cons] at h
      obtain ⟨next, hnext, hrest⟩ := Option.bind_eq_some_iff.1 h
      obtain ⟨digit, hdigit, -⟩ := Option.map_eq_some_iff.1 hnext
      have hc : c.isDigit = true := by
        by_contra hno
        rw [digitValue?, if_neg hno] at hdigit
        cases hdigit
      exact List.forall_mem_cons.2 ⟨hc, ih hrest⟩

/-- A text has a value when it is made of digits, and it is the number that they write. -/
theorem digitsValue?_eq_some_iff {text : List Char} {value : Nat} :
    digitsValue? text = some value ↔
      (∀ c ∈ text, c.isDigit = true) ∧ Nat.ofDigitChars 10 text 0 = value := by
  constructor
  · intro h
    have hdigits := isDigit_of_foldlM_digitValue? h
    rw [digitsValue?, foldlM_digitValue? hdigits] at h
    exact ⟨hdigits, Option.some.inj h⟩
  · rintro ⟨hdigits, rfl⟩
    exact foldlM_digitValue? hdigits 0

/-- The digits of a numeral are what is left behind its plus sign, if it has one. -/
theorem isNumeral_iff {text : List Char} {number : Nat} :
    IsNumeral text number ↔ dropOpening ['+'] text ≠ [] ∧
      digitsValue? (dropOpening ['+'] text) = some number := by
  rw [digitsValue?_eq_some_iff]
  constructor
  · rintro ⟨digits, hne, hdigits, hsign, hnumber⟩
    have hdrop : dropOpening ['+'] text = digits := by
      rcases hsign with rfl | rfl
      · refine dropOpening_eq_self fun hplus => ?_
        exact absurd (hdigits '+' (hplus.subset List.mem_cons_self)) (by decide)
      · exact dropOpening_append ['+'] digits
    rw [hdrop]
    exact ⟨hne, hdigits, hnumber⟩
  · rintro ⟨hne, hdigits, hnumber⟩
    refine ⟨_, hne, hdigits, ?_, hnumber⟩
    by_cases hplus : ['+'] <+: text
    · obtain ⟨digits, rfl⟩ := hplus
      rw [dropOpening_append]
      exact .inr rfl
    · rw [dropOpening_eq_self hplus]
      exact .inl rfl

/-- Exactly the numerals of the numbers below the limit are read. -/
theorem readBelow_eq_some_iff {limit number : Nat} {text : List Char} :
    readBelow limit text = some number ↔ IsNumeral text number ∧ number < limit := by
  rw [isNumeral_iff, readBelow]
  split
  next hempty => simp_all
  next hempty => simp_all [Option.filter_eq_some_iff]

/-- What is read as a 32-bit number, or else zero. -/
theorem toNat_readUInt32 (text : List Char) :
    ((readUInt32 text).getD 0).toNat = (readBelow UInt32.size text).getD 0 := by
  rw [readUInt32]
  cases hread : readBelow UInt32.size text with
  | none => rfl
  | some number => exact UInt32.toNat_ofNat_of_lt' (readBelow_eq_some_iff.1 hread).2

/-- What is read as a 64-bit number, or else zero. -/
theorem toNat_readUInt64 (text : List Char) :
    ((readUInt64 text).getD 0).toNat = (readBelow UInt64.size text).getD 0 := by
  rw [readUInt64]
  cases hread : readBelow UInt64.size text with
  | none => rfl
  | some number => exact UInt64.toNat_ofNat_of_lt' (readBelow_eq_some_iff.1 hread).2

/-! ## The last colon -/

/-- A text that is not cut does not hold the character. -/
theorem not_mem_of_cutLast {stop : Char} {text : List Char} (h : cutLast stop text = none) :
    stop ∉ text := by
  induction text with
  | nil => exact List.not_mem_nil
  | cons c rest ih =>
      rw [cutLast] at h
      split at h
      next => cases h
      next hrest =>
        split at h
        next => cases h
        next hc =>
          rw [List.mem_cons, not_or]
          exact ⟨Ne.symm hc, ih hrest⟩

/-- A text is cut at its last `stop`, and loses nothing else. -/
theorem cutLast_eq_some_iff {stop : Char} {text before after : List Char} :
    cutLast stop text = some (before, after) ↔ text = before ++ stop :: after ∧ stop ∉ after := by
  constructor
  · intro h
    induction text generalizing before with
    | nil => cases h
    | cons c rest ih =>
        rw [cutLast] at h
        split at h
        next hrest =>
          cases h
          obtain ⟨rfl, hafter⟩ := ih hrest
          exact ⟨rfl, hafter⟩
        next hrest =>
          split at h
          next hc =>
            cases h
            exact ⟨congrArg (· :: _) hc, not_mem_of_cutLast hrest⟩
          next => cases h
  · rintro ⟨rfl, hafter⟩
    exact cutLast_append before hafter

end Text

/-! ## Fields -/

/-- What a field of a report holds: a state, or a number. -/
inductive FieldValue where
  | state (state : ClusterState)
  | number (number : Nat)
  deriving DecidableEq, Repr

namespace ReportKey

/-- How many numbers the field of the key can hold. -/
def limit : ReportKey → Nat
  | epoch => UInt64.size
  | _ => UInt32.size

/-- What the field of the key holds when nothing is known. -/
def blank : ReportKey → FieldValue
  | state => .state .unknown
  | _ => .number 0

/-- The text tells what the field of the key holds: the name of a state, in any mix of upper and lower
case, or the numeral of a number that the field can hold. -/
inductive Tells : ReportKey → List Char → FieldValue → Prop where
  | state {value : List Char} (state : ClusterState)
      (hname : value.map Char.toLower = state.text.toList) : Tells .state value (.state state)
  | number {key : ReportKey} {value : List Char} {number : Nat} (hkey : key ≠ .state)
      (hnumeral : Text.IsNumeral value number) (hlt : number < key.limit) :
      Tells key value (.number number)

/-- A name belongs to one key. -/
theorem ofName?_name (key : ReportKey) : ofName? key.name.toList = some key := by
  cases key <;> decide

/-- The key that is found for a name has that name. -/
theorem name_of_ofName? {name : List Char} {key : ReportKey} (h : ofName? name = some key) :
    key.name.toList = name := by
  rw [ofName?] at h
  simpa using List.find?_some h

end ReportKey

namespace Report

variable {report left right : Report} {key other : ReportKey} {line name value : List Char}
  {content : FieldValue}

/-- What the field of a key holds. -/
def field (report : Report) : ReportKey → FieldValue
  | .state => .state report.state
  | .slotsAssigned => .number report.slotsAssigned.toNat
  | .slotsOk => .number report.slotsOk.toNat
  | .slotsSuspected => .number report.slotsSuspected.toNat
  | .slotsFailed => .number report.slotsFailed.toNat
  | .knownNodes => .number report.knownNodes.toNat
  | .size => .number report.size.toNat
  | .epoch => .number report.epoch.toNat

/-- A report is its fields. -/
theorem ext_field (h : ∀ key, left.field key = right.field key) : left = right := by
  have hstate := h .state
  have hassigned := h .slotsAssigned
  have hok := h .slotsOk
  have hsuspected := h .slotsSuspected
  have hfailed := h .slotsFailed
  have hknown := h .knownNodes
  have hsize := h .size
  have hepoch := h .epoch
  cases left
  cases right
  simp_all [field, UInt32.toNat_inj, UInt64.toNat_inj]

/-- Nothing is known before a line is read. -/
theorem field_empty (key : ReportKey) : ({} : Report).field key = key.blank := by
  cases key <;> rfl

/-- What the field of a key holds when a value was read for it. -/
def read (key : ReportKey) (value : List Char) : FieldValue :=
  (note {} key value).field key

/-- A value that is read for a key decides its field. -/
theorem field_note_self (report : Report) (key : ReportKey) (value : List Char) :
    (report.note key value).field key = read key value := by
  cases key <;> rfl

/-- A value that is read for another key leaves the field as it is. -/
theorem field_note_of_ne (h : other ≠ key) (report : Report) (value : List Char) :
    (report.note other value).field key = report.field key := by
  cases other <;> cases key <;> first | rfl | contradiction

/-- A number is read when the field can hold it, and zero otherwise. -/
theorem read_of_ne_state (h : key ≠ .state) (value : List Char) :
    read key value = .number ((Text.readBelow key.limit value).getD 0) := by
  cases key with
  | state => contradiction
  | epoch => exact congrArg FieldValue.number (Text.toNat_readUInt64 value)
  | _ => exact congrArg FieldValue.number (Text.toNat_readUInt32 value)

/-- What a value tells is read from it. -/
theorem read_of_tells (htrim : Text.trim value = value) (h : key.Tells value content) :
    read key value = content := by
  cases h with
  | state state hname =>
      have hstate : ClusterState.ofChars value = state := by
        rw [ClusterState.ofChars, htrim, hname]
        cases state <;> decide
      exact congrArg FieldValue.state hstate
  | number hkey hnumeral hlt =>
      rw [read_of_ne_state hkey, Text.readBelow_eq_some_iff.2 ⟨hnumeral, hlt⟩]
      rfl

/-- A value that tells nothing leaves the field blank. -/
theorem read_of_not_tells (htrim : Text.trim value = value)
    (h : ∀ content, ¬ key.Tells value content) : read key value = key.blank := by
  by_cases hkey : key = .state
  · subst hkey
    have hname (state : ClusterState) : value.map Char.toLower ≠ state.text.toList :=
      fun hname => h _ (.state state hname)
    have hstate : ClusterState.ofChars value = .unknown := by
      rw [ClusterState.ofChars, htrim]
      exact (if_neg (hname .ok)).trans (if_neg (hname .fail))
    exact congrArg FieldValue.state hstate
  · have hnone : Text.readBelow key.limit value = none := by
      cases hread : Text.readBelow key.limit value with
      | none => rfl
      | some number =>
          obtain ⟨hnumeral, hlt⟩ := Text.readBelow_eq_some_iff.1 hread
          exact absurd (.number hkey hnumeral hlt) (h _)
    rw [read_of_ne_state hkey, hnone]
    cases key <;> first | rfl | contradiction

/-! ## Entries -/

/-- The line is an entry: blanks at its ends aside it is no comment, and its last colon stands between a
text with the given name and a text with the given value. -/
def IsEntry (line name value : List Char) : Prop :=
  (Text.trim line).head? ≠ some '#' ∧
    ∃ before after, Text.trim line = before ++ ':' :: after ∧ ':' ∉ after ∧
      Text.trim before = name ∧ Text.trim after = value

/-- The line is an entry with the name of the key. -/
def IsLineOf (key : ReportKey) (line : List Char) : Prop :=
  ∃ value, IsEntry line key.name.toList value

/-- The entries are what is found in lines. -/
theorem isEntry_iff : IsEntry line name value ↔ entry? line = some (name, value) := by
  rw [IsEntry, entry?]
  split
  next hcomment => simp [hcomment]
  next hcomment =>
    simp only [Option.map_eq_some_iff, Prod.exists, Text.cutLast_eq_some_iff, Prod.mk.injEq,
      and_assoc]
    exact and_iff_right hcomment

/-- Whether a line is of a key is seen by its entry. -/
instance (key : ReportKey) (line : List Char) : Decidable (IsLineOf key line) :=
  decidable_of_iff ((Option.map Prod.fst <| entry? line) = some key.name.toList) <| by
    simp [IsLineOf, isEntry_iff]

/-- The value of an entry has no blanks at its ends. -/
theorem IsEntry.trim_value (h : IsEntry line name value) : Text.trim value = value := by
  obtain ⟨-, before, after, -, -, -, rfl⟩ := h
  exact Text.trim_trim after

/-- A line has one name and one value. -/
theorem IsEntry.unique {otherName otherValue : List Char} (h : IsEntry line name value)
    (hother : IsEntry line otherName otherValue) : name = otherName ∧ value = otherValue := by
  have heq := (isEntry_iff.1 h).symm.trans (isEntry_iff.1 hother)
  simpa using heq

/-- A line of a key sets the field of the key. -/
theorem readLine_of_isEntry (h : IsEntry line key.name.toList value) (report : Report) :
    report.readLine line = report.note key value := by
  rw [readLine, knownEntry?, isEntry_iff.1 h]
  simp [ReportKey.ofName?_name]

/-- A line that is not of the key leaves its field as it is. -/
theorem field_readLine_of_not_isLineOf (h : ¬ IsLineOf key line) (report : Report) :
    (report.readLine line).field key = report.field key := by
  rw [readLine, knownEntry?]
  cases hentry : entry? line with
  | none => rfl
  | some entry =>
      obtain ⟨name, value⟩ := entry
      have hline := isEntry_iff.2 hentry
      cases hother : ReportKey.ofName? name with
      | none => simp [hother]
      | some other =>
          -- an entry of this key would make the line one of its lines
          have hne : other ≠ key := by
            rintro rfl
            exact h ⟨value, (ReportKey.name_of_ofName? hother).symm ▸ hline⟩
          simpa [hother] using field_note_of_ne hne report value

/-! ## The last line of a key -/

/-- Lines that are not of the key leave its field as it is. -/
theorem field_foldl_of_not_isLineOf {lines : List (List Char)}
    (h : ∀ line ∈ lines, ¬ IsLineOf key line) (report : Report) :
    (lines.foldl readLine report).field key = report.field key := by
  induction lines generalizing report with
  | nil => rfl
  | cons line lines ih =>
      rw [List.foldl_cons, ih fun other hother => h other (List.mem_cons_of_mem _ hother)]
      exact field_readLine_of_not_isLineOf (h line List.mem_cons_self) report

/-- The last line of the key among the lines has the given value. -/
def LastEntry (lines : List (List Char)) (key : ReportKey) (value : List Char) : Prop :=
  ∃ before line after, lines = before ++ line :: after ∧ IsEntry line key.name.toList value ∧
    ∀ other ∈ after, ¬ IsLineOf key other

/-- The value of the last line of a key has no blanks at its ends. -/
theorem LastEntry.trim_value {lines : List (List Char)} (h : LastEntry lines key value) :
    Text.trim value = value := by
  obtain ⟨_, _, _, _, hentry, _⟩ := h
  exact hentry.trim_value

/-- The last line of a key decides what its field holds, whatever the lines before it say. -/
theorem field_foldl_of_lastEntry {lines : List (List Char)} (h : LastEntry lines key value)
    (report : Report) : (lines.foldl readLine report).field key = read key value := by
  obtain ⟨before, line, after, rfl, hentry, hafter⟩ := h
  rw [List.foldl_append, List.foldl_cons, field_foldl_of_not_isLineOf hafter,
    readLine_of_isEntry hentry, field_note_self]

/-- The field of the key is decided by the last line of the key. -/
structure Decided (report : Report) (lines : List (List Char)) (key : ReportKey) : Prop where
  /-- Without a line of the key, nothing is known. -/
  absent : (∀ line ∈ lines, ¬ IsLineOf key line) → report.field key = key.blank
  /-- The field holds what the value of the last line of the key tells. -/
  told : ∀ value content, LastEntry lines key value → key.Tells value content →
    report.field key = content
  /-- Nothing is known either when that value tells nothing, whatever earlier lines told. -/
  untold : ∀ value, LastEntry lines key value → (∀ content, ¬ key.Tells value content) →
    report.field key = key.blank

/-- Every field of a report that was read is decided by the last line of its key. -/
theorem decided_parse (text : String) (key : ReportKey) :
    (parse text).Decided (text.toList.splitOn '\n') key where
  absent h := by rw [parse, ofChars, field_foldl_of_not_isLineOf h, field_empty]
  told value content hlast htells := by
    rw [parse, ofChars, field_foldl_of_lastEntry hlast, read_of_tells hlast.trim_value htells]
  untold value hlast hnot := by
    rw [parse, ofChars, field_foldl_of_lastEntry hlast, read_of_not_tells hlast.trim_value hnot]

end Report

end ClusterSteward
