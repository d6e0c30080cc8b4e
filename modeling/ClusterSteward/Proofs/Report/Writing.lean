import ClusterSteward.Proofs.Report.Entries

/-!
# Reading a written report back

A report that is written with a line for each field is read back, in whatever order its lines stand,
however they end and whatever else stands between them. Main statement: `Report.decided_readBack`.
-/

namespace ClusterSteward

namespace ReportKey

/-- Every key is listed. -/
theorem mem_all (key : ReportKey) : key ∈ all := by
  cases key <;> decide

/-- Every key is listed once. -/
theorem nodup_all : all.Nodup := by
  decide

/-- Keys have different names. -/
theorem name_inj {left right : ReportKey} (h : left.name.toList = right.name.toList) :
    left = right := by
  have hfound := ofName?_name left
  rw [h, ofName?_name] at hfound
  exact (Option.some.inj hfound).symm

/-- A name is a word. -/
theorem isWord_name (key : ReportKey) : Text.IsWord key.name.toList := by
  cases key <;> decide

/-- A name does not open a comment. -/
theorem head?_name_append (key : ReportKey) (rest : List Char) :
    (key.name.toList ++ rest).head? = some 'c' := by
  cases key <;> rfl

end ReportKey

namespace Report

variable {report : Report} {key other : ReportKey}

/-! ## Written fields -/

/-- What a report writes for a field tells what it holds. -/
theorem tells_value (report : Report) (key : ReportKey) :
    key.Tells (report.value key) (report.field key) := by
  have hnumeral (number : Nat) : Text.IsNumeral (Text.decimal number) number :=
    ⟨_, (Text.isWord_decimal number).ne_nil, fun _ => Text.isDigit_of_mem_decimal, .inl rfl,
      Nat.ofDigitChars_ten_toDigits⟩
  cases key with
  | state =>
      refine .state report.state ?_
      rw [value]
      cases report.state <;> decide
  | epoch => exact .number nofun (hnumeral _) (UInt64.toNat_lt_size _)
  | _ => exact .number nofun (hnumeral _) (UInt32.toNat_lt_size _)

/-- What a report writes for a field is a word without a colon. -/
theorem isWord_value (report : Report) (key : ReportKey) :
    Text.IsWord (report.value key) ∧ ':' ∉ report.value key := by
  have hdecimal (number : Nat) :
      Text.IsWord (Text.decimal number) ∧ ':' ∉ Text.decimal number :=
    ⟨Text.isWord_decimal number, Text.not_mem_decimal (by decide) number⟩
  cases key with
  | state =>
      rw [value]
      cases report.state <;> decide
  | _ => exact hdecimal _

/-- A line of a written report: the field of a key, at whose end a carriage return may stand, or any
other text. -/
inductive WrittenLine where
  | field (key : ReportKey) (carriage : Bool)
  | stray (text : List Char)
  deriving DecidableEq, Repr

namespace WrittenLine

/-- The key whose field the line writes. -/
def key? : WrittenLine → Option ReportKey
  | .field key _ => some key
  | .stray _ => none

/-- The characters of the line. -/
def chars (report : Report) : WrittenLine → List Char
  | .field key carriage => report.line key ++ if carriage then ['\r'] else []
  | .stray text => text

/-- The line writes a field, or it is one line and no line of a key. -/
def Harmless : WrittenLine → Prop
  | .field _ _ => True
  | .stray text => '\n' ∉ text ∧ ∀ key, ¬ IsLineOf key text

instance : DecidablePred Harmless
  | .field _ _ => inferInstanceAs (Decidable True)
  | .stray text =>
      decidable_of_iff ('\n' ∉ text ∧ ∀ key ∈ ReportKey.all, ¬ IsLineOf key text)
        ⟨fun h => ⟨h.1, fun key => h.2 key key.mem_all⟩, fun h => ⟨h.1, fun key _ => h.2 key⟩⟩

/-- The line that writes a field is an entry for its key. -/
theorem isEntry_field (report : Report) (key : ReportKey) (carriage : Bool) :
    IsEntry ((field key carriage).chars report) key.name.toList (report.value key) := by
  obtain ⟨hvalue, hcolon⟩ := report.isWord_value key
  have hname := key.isWord_name
  have hsolid : Text.Solid (report.line key) :=
    hname.solid.append (.cons (by decide) hvalue.solid)
  have htrim : Text.trim ((field key carriage).chars report) = report.line key := by
    have hblank : Text.allBlank (if carriage then ['\r'] else []) = true := by
      cases carriage <;> decide
    have hstart : Text.allBlank [] = true := rfl
    exact (Text.trim_append hstart hblank).trans hsolid.trim_eq
  rw [IsEntry, htrim]
  refine ⟨?_, _, _, rfl, hcolon, hname.solid.trim_eq, hvalue.solid.trim_eq⟩
  rw [line, ReportKey.head?_name_append]
  decide

/-- The line that writes a field is of no other key. -/
theorem eq_of_isLineOf_field {carriage : Bool}
    (h : IsLineOf key ((field other carriage).chars report)) : other = key := by
  obtain ⟨value, hvalue⟩ := h
  exact ReportKey.name_inj ((isEntry_field report other carriage).unique hvalue).1

/-- A harmless line holds no newline. -/
theorem Harmless.newline_not_mem {line : WrittenLine} (h : line.Harmless) (report : Report) :
    '\n' ∉ line.chars report := by
  cases line with
  | field key carriage =>
      have hname := key.isWord_name.solid.newline_not_mem
      have hvalue := (report.isWord_value key).1.solid.newline_not_mem
      cases carriage <;> simp [chars, Report.line, hname, hvalue]
  | stray text => exact h.1

/-- A harmless line is of no key but the one whose field it writes. -/
theorem Harmless.not_isLineOf {line : WrittenLine} (h : line.Harmless) (hkey : line.key? ≠ some key)
    (report : Report) : ¬ IsLineOf key (line.chars report) := by
  cases line with
  | field other carriage =>
      exact fun hline => hkey (congrArg some (eq_of_isLineOf_field hline))
  | stray text => exact h.2 key

end WrittenLine

/-- The lines of a report that is written out: each field once, in any order, and other lines that are
of no key. -/
structure Complete (lines : List WrittenLine) : Prop where
  keys_perm : (lines.filterMap WrittenLine.key?).Perm ReportKey.all
  harmless : ∀ line ∈ lines, line.Harmless

instance : DecidablePred Complete := fun lines ↦
  decidable_of_iff
    ((lines.filterMap WrittenLine.key?).Perm ReportKey.all ∧ ∀ line ∈ lines, line.Harmless)
    ⟨fun h => ⟨h.1, h.2⟩, fun h => ⟨h.1, h.2⟩⟩

/-- The report written in the given lines, with newlines between them. The last line may be empty, so
that every other line ends in a newline. -/
def written (report : Report) (lines : List WrittenLine) : String :=
  String.ofList (['\n'].intercalate (lines.map (WrittenLine.chars report)))

variable {lines : List WrittenLine}

/-- The lines of a written report are those that it was written in. -/
theorem Complete.splitOn_written (h : Complete lines) (report : Report) :
    (report.written lines).toList.splitOn '\n' = lines.map (WrittenLine.chars report) := by
  have hne : lines ≠ [] := by
    rintro rfl
    exact absurd h.keys_perm.length_eq (by decide)
  rw [written, String.toList_ofList]
  refine List.splitOn_intercalate '\n' (fun text htext => ?_) (by simpa using hne)
  obtain ⟨line, hline, rfl⟩ := List.mem_map.1 htext
  exact (h.harmless line hline).newline_not_mem report

/-- The last line of a key in a written report is the one that writes its field. -/
theorem Complete.lastEntry (h : Complete lines) (report : Report) (key : ReportKey) :
    LastEntry (lines.map (WrittenLine.chars report)) key (report.value key) := by
  have hmem : key ∈ lines.filterMap WrittenLine.key? := h.keys_perm.mem_iff.2 key.mem_all
  have hnodup := h.keys_perm.nodup_iff.2 ReportKey.nodup_all
  obtain ⟨line, hline, hkey⟩ := List.mem_filterMap.1 hmem
  obtain ⟨before, after, rfl⟩ := List.append_of_mem hline
  -- no line behind it has the key once more
  have hafter : ∀ other ∈ after, other.key? ≠ some key := by
    intro other hother hsame
    rw [List.filterMap_append, List.filterMap_cons, hkey] at hnodup
    exact (List.nodup_cons.1 (List.nodup_append.1 hnodup).2.1).1
      (List.mem_filterMap.2 ⟨other, hother, hsame⟩)
  cases line with
  | stray text => cases hkey
  | field found carriage =>
      obtain rfl := Option.some.inj hkey
      refine ⟨_, _, _, List.map_append, WrittenLine.isEntry_field report found carriage, ?_⟩
      intro text htext
      obtain ⟨other, hother, rfl⟩ := List.mem_map.1 htext
      exact (h.harmless other (by simp [hother])).not_isLineOf (hafter other hother) report

/-- A written report is read back. -/
theorem Complete.parse_written (h : Complete lines) (report : Report) :
    parse (report.written lines) = report := by
  refine ext_field fun key => ?_
  have hlast := h.lastEntry report key
  rw [← h.splitOn_written report] at hlast
  exact (decided_parse (report.written lines) key).told _ _ hlast (report.tells_value key)

/-- Every field of a report that is read is decided by the last line of its key, so that a report with a
line for each field is read back in whatever order and with whatever line ends it was written. -/
theorem decided_readBack :
    (∀ text key, (parse text).Decided (text.toList.splitOn '\n') key) ∧
      ∀ report lines, Complete lines → parse (report.written lines) = report :=
  ⟨decided_parse, fun report _ h => h.parse_written report⟩

/-- A report with the greatest numbers is read back from lines in another order, with both line ends and
with lines between them that nearly have a key. A last line with a number that is too great decides
against an earlier one that could be read. -/
theorem decided_readBack_shuffled :
    let report : Report :=
      { state := .fail, slotsAssigned := 4294967295, knownNodes := 6, epoch := 18446744073709551615 }
    let lines : List WrittenLine :=
      [.field .epoch true, .stray "# cluster_size:9\r".toList, .field .size false,
        .field .slotsFailed true, .stray "cluster_size:1:2".toList, .field .slotsOk false,
        .field .state true, .field .knownNodes false, .stray "cluster_size".toList,
        .field .slotsSuspected false, .field .slotsAssigned false, .stray []]
    let text := " cluster_size : 3\r\ncluster_size:4294967296\ncluster_size:7:8\n"
    (Complete lines ∧ parse (report.written lines) = report) ∧
      LastEntry (text.toList.splitOn '\n') .size "4294967296".toList ∧
      (parse text).field .size = .number 0 := by
  intro report lines text
  have hcomplete : Complete lines := by decide +kernel
  have hlast : LastEntry (text.toList.splitOn '\n') .size "4294967296".toList :=
    ⟨[" cluster_size : 3\r".toList], "cluster_size:4294967296".toList,
      ["cluster_size:7:8".toList, []], by decide +kernel,
      isEntry_iff.2 (by decide +kernel), by decide +kernel⟩
  have hnot : ∀ content, ¬ ReportKey.Tells .size "4294967296".toList content := by
    intro content htells
    cases htells with
    | number hkey hnumeral hlt =>
        have hread := Text.readBelow_eq_some_iff.2 ⟨hnumeral, hlt⟩
        have hnone : Text.readBelow UInt32.size "4294967296".toList = none := by decide +kernel
        exact absurd (hnone.symm.trans hread) nofun
  exact ⟨⟨hcomplete, decided_readBack.2 report lines hcomplete⟩, hlast,
    (decided_readBack.1 text .size).untold _ hlast hnot⟩

end Report

end ClusterSteward
