import ClusterSteward.Node.Reading
import ClusterSteward.Proofs.Text.Words

/-!
# Reading written node lines

A line that was written from well-formed parts is read as the node that the parts describe. There
is a lemma for each field, in the order of the line, and each says what reading the rest of the
line from that field on gives. Main statements: `Node.ofChars_chars`, and `Node.parse_framed`, by
which blanks around a line and the mark of a reply in front of it change nothing.
-/

namespace ClusterSteward

/-! ## Cutting -/

namespace Text

/-- A text without the character is not cut at it. -/
theorem cut_eq_none {stop : Char} {text : List Char} (h : stop ∉ text) : cut stop text = none := by
  induction text with
  | nil => rfl
  | cons c rest ih =>
      simp only [List.mem_cons, not_or] at h
      simp [cut, Ne.symm h.1, ih h.2]

/-- A text without the character is not cut at it from the end either. -/
theorem cutLast_eq_none {stop : Char} {text : List Char} (h : stop ∉ text) :
    cutLast stop text = none := by
  induction text with
  | nil => rfl
  | cons c rest ih =>
      simp only [List.mem_cons, not_or] at h
      simp [cutLast, Ne.symm h.1, ih h.2]

/-- Joining any text to a part without `stop` and cutting at the last `stop` gives both back. -/
theorem cutLast_append {stop : Char} (before : List Char) {after : List Char} (h : stop ∉ after) :
    cutLast stop (before ++ stop :: after) = some (before, after) := by
  induction before with
  | nil => simp [cutLast, cutLast_eq_none h]
  | cons c before ih => simp [cutLast, ih]

end Text

/-! ## Slot items -/

namespace SlotItem

/-- An item is well formed when its mark, if it is one, has no blank character. -/
def WellFormed : SlotItem → Prop
  | .mark text => Text.Solid text
  | _ => True

instance : DecidablePred WellFormed
  | .slot _ => inferInstanceAs (Decidable True)
  | .span _ _ => inferInstanceAs (Decidable True)
  | .mark text => inferInstanceAs (Decidable (Text.Solid text))

/-- A well-formed item is a word. -/
theorem isWord_chars {item : SlotItem} (h : item.WellFormed) : Text.IsWord item.chars := by
  cases item with
  | slot number => exact Text.isWord_decimal _
  | span left right =>
      have hright := Text.Solid.cons (c := '-') (by decide) (Text.isWord_decimal right.toNat).solid
      exact ⟨by simp [chars], (Text.isWord_decimal left.toNat).solid.append hright⟩
  | mark text =>
      have hclose : Text.Solid [']'] := Text.Solid.cons (by decide) (fun c hc => nomatch hc)
      exact ⟨by simp [chars], .cons (by decide) (.append h hclose)⟩

/-- The written form of an item that is no mark does not start like one. -/
theorem head?_decimal_append_ne (number : Nat) (rest : List Char) :
    (Text.decimal number ++ rest).head? ≠ some '[' := by
  cases hdigits : Text.decimal number with
  | nil => exact absurd hdigits (Text.isWord_decimal number).ne_nil
  | cons c digits =>
      have hc : c.isDigit = true := Text.isDigit_of_mem_decimal (hdigits ▸ List.mem_cons_self)
      rintro heq
      obtain rfl : c = '[' := by simpa using heq
      exact absurd hc (by decide)

/-- An item is read as the range that it assigns. -/
theorem readSlotItem_chars (item : SlotItem) : Node.readSlotItem item.chars = item.range? := by
  cases item with
  | slot number =>
      have hhead : (Text.decimal number.toNat).head? ≠ some '[' := by
        simpa using head?_decimal_append_ne number.toNat []
      have hcut := Text.cut_eq_none (Text.not_mem_decimal (c := '-') (by decide) number.toNat)
      simp [chars, Node.readSlotItem, hhead, hcut, Text.readUInt16_decimal, range?]
  | span left right =>
      have hhead := head?_decimal_append_ne left.toNat ('-' :: Text.decimal right.toNat)
      have hcut := Text.cut_append (Text.decimal right.toNat)
        (Text.not_mem_decimal (c := '-') (by decide) left.toNat)
      rw [chars, Node.readSlotItem, if_neg hhead, hcut]
      simp [Text.readUInt16_decimal, range?]
  | mark text => simp [chars, Node.readSlotItem, range?]

end SlotItem

/-! ## Lines -/

namespace NodeLine

/-- The parts of a line from which its text can be read back. -/
structure WellFormed (line : NodeLine) : Prop where
  id_word : Text.IsWord line.id
  id_unmarked : ¬ Node.replyMark <+: line.id
  host_plain : ∀ c ∈ line.host, Text.isBlank c = false ∧ c ≠ '@' ∧ c ≠ '[' ∧ c ≠ ']'
  host_closed : line.host.getLast? ≠ some ':'
  suffix_unspaced : ∀ suffix ∈ line.suffix, ' ' ∉ suffix
  flags_ne_nil : line.flags ≠ []
  flags_word : ∀ flag ∈ line.flags, Text.IsWord flag ∧ ',' ∉ flag
  master_word : Text.IsWord line.master
  master_absent : "slave".toList ∉ line.flags → line.master = ['-']
  ping_digits : ∀ c ∈ line.pingSent, c.isDigit = true
  pong_digits : ∀ c ∈ line.pongReceived, c.isDigit = true
  epoch_digits : ∀ c ∈ line.epoch, c.isDigit = true
  link_solid : Text.Solid line.linkState
  link_letter : ∃ c ∈ line.linkState.head?, c.isAlpha = true
  items_wellFormed : ∀ item ∈ line.items, item.WellFormed

/-- Whether a line is well formed is decided part by part. -/
instance : DecidablePred WellFormed := fun line ↦
  -- over the characters of the text; the search would go through all characters there are
  letI : Decidable (∀ c ∈ line.host, Text.isBlank c = false ∧ c ≠ '@' ∧ c ≠ '[' ∧ c ≠ ']') :=
    List.decidableBAll _ _
  letI (text : List Char) : Decidable (∀ c ∈ text, c.isDigit = true) := List.decidableBAll _ _
  decidable_of_iff
    ((Text.IsWord line.id ∧ ¬ Node.replyMark <+: line.id) ∧
      ((∀ c ∈ line.host, Text.isBlank c = false ∧ c ≠ '@' ∧ c ≠ '[' ∧ c ≠ ']') ∧
        line.host.getLast? ≠ some ':') ∧
      (∀ suffix ∈ line.suffix, ' ' ∉ suffix) ∧
      (line.flags ≠ [] ∧ ∀ flag ∈ line.flags, Text.IsWord flag ∧ ',' ∉ flag) ∧
      (Text.IsWord line.master ∧ ("slave".toList ∉ line.flags → line.master = ['-'])) ∧
      ((∀ c ∈ line.pingSent, c.isDigit = true) ∧ (∀ c ∈ line.pongReceived, c.isDigit = true) ∧
        ∀ c ∈ line.epoch, c.isDigit = true) ∧
      (Text.Solid line.linkState ∧ line.linkState.head?.any Char.isAlpha = true) ∧
      ∀ item ∈ line.items, item.WellFormed)
    ⟨fun ⟨⟨hid, hmark⟩, ⟨hplain, hclosed⟩, hsuffix, ⟨hne, hflags⟩, ⟨hmaster, habsent⟩,
        ⟨hping, hpong, hepoch⟩, ⟨hlink, hletter⟩, hitems⟩ =>
      ⟨hid, hmark, hplain, hclosed, hsuffix, hne, hflags, hmaster, habsent, hping, hpong, hepoch,
        hlink, (Option.any_eq_true _ _).1 hletter, hitems⟩,
    fun h => ⟨⟨h.id_word, h.id_unmarked⟩, ⟨h.host_plain, h.host_closed⟩, h.suffix_unspaced,
      ⟨h.flags_ne_nil, h.flags_word⟩, ⟨h.master_word, h.master_absent⟩,
      ⟨h.ping_digits, h.pong_digits, h.epoch_digits⟩,
      ⟨h.link_solid, (Option.any_eq_true _ _).2 h.link_letter⟩, h.items_wellFormed⟩⟩

/-- The text of the bus port and its suffix. -/
def busField (line : NodeLine) : List Char :=
  Text.decimal line.busPort.toNat ++
    match line.suffix with
    | none => []
    | some suffix => ',' :: suffix

/-- The text of the link state and the items. -/
def linkField (line : NodeLine) : List Char :=
  [' '].intercalate (line.linkState :: line.items.map SlotItem.chars)

/-- The three counters, in the order of the line. -/
def counters (line : NodeLine) : List (List Char) :=
  [line.pingSent, line.pongReceived, line.epoch]

/-- The text of the three counters and what follows them. -/
def counterField (line : NodeLine) : List Char :=
  line.pingSent ++ ' ' :: (line.pongReceived ++ ' ' :: (line.epoch ++ ' ' :: line.linkField))

/-- The link state follows the counters behind a space. -/
theorem counterField_eq (line : NodeLine) :
    line.counterField = ([' '].intercalate line.counters ++ [' ']) ++ line.linkField := by
  simp [counterField, counters, List.intercalate_cons_cons]

/-- The counters are made of digits. -/
theorem WellFormed.isDigit_of_mem_counters {line : NodeLine} (h : line.WellFormed) :
    ∀ counter ∈ line.counters, ∀ c ∈ counter, c.isDigit = true :=
  List.forall_mem_cons.2 ⟨h.ping_digits, List.forall_mem_cons.2 ⟨h.pong_digits,
    List.forall_mem_singleton.2 h.epoch_digits⟩⟩

/-- The fields of the line, with any text in the place of its host and client port. -/
def fieldsAt (line : NodeLine) (place : List Char) : List (List Char) :=
  [line.id, place ++ '@' :: line.busField, [','].intercalate line.flags, line.master, line.pingSent,
    line.pongReceived, line.epoch, line.linkState] ++ line.items.map SlotItem.chars

/-- The fields of the line have its host and client port in that place. -/
theorem fields_eq (line : NodeLine) :
    line.fields = line.fieldsAt (line.host ++ ':' :: Text.decimal line.port.toNat) := by
  cases hsuffix : line.suffix <;> simp [fields, fieldsAt, address, busField, hsuffix]

/-- The text of these fields is each field before the text of the following ones. -/
theorem intercalate_fieldsAt (line : NodeLine) (place : List Char) :
    [' '].intercalate (line.fieldsAt place) = line.id ++ ' ' :: (place ++
      '@' :: (line.busField ++ ' ' :: ([','].intercalate line.flags ++
        ' ' :: (line.master ++ ' ' :: line.counterField)))) := by
  simp [fieldsAt, counterField, linkField, List.intercalate_cons_cons]

/-- A line is its fields, each before the text of the following ones. -/
theorem chars_eq (line : NodeLine) :
    line.chars = line.id ++ ' ' :: (line.host ++ ':' :: Text.decimal line.port.toNat ++
      '@' :: (line.busField ++ ' ' :: ([','].intercalate line.flags ++
        ' ' :: (line.master ++ ' ' :: line.counterField)))) := by
  rw [chars, fields_eq, intercalate_fieldsAt]

/-- The items follow the link state behind a space, if there are any. -/
theorem WellFormed.linkField_eq {line : NodeLine} (h : line.WellFormed) :
    ∃ tail, line.linkField = line.linkState ++ tail ∧ (∀ c ∈ tail.head?, c = ' ') ∧
      Text.words tail = line.items.map SlotItem.chars := by
  have hitems : ∀ part ∈ line.items.map SlotItem.chars, Text.IsWord part := by
    intro part hpart
    obtain ⟨item, hitem, rfl⟩ := List.mem_map.1 hpart
    exact SlotItem.isWord_chars (h.items_wellFormed item hitem)
  rw [linkField]
  generalize line.items.map SlotItem.chars = parts at hitems
  cases parts with
  | nil => exact ⟨[], by simp, by simp, rfl⟩
  | cons part parts =>
      refine ⟨' ' :: [' '].intercalate (part :: parts), ?_, by simp, ?_⟩
      · rw [List.intercalate_cons_cons]
        simp
      · rw [Text.words_space, Text.words_intercalate hitems]

/-- There is nothing to trim behind the link state and the items. -/
theorem WellFormed.trimEnd_append_linkField {line : NodeLine} (h : line.WellFormed)
    (before : List Char) : Text.trimEnd (before ++ line.linkField) = before ++ line.linkField := by
  obtain ⟨letter, hletter, -⟩ := h.link_letter
  obtain ⟨others, hlink⟩ := List.head?_eq_some_iff.1 hletter
  have hparts : ∀ part ∈ line.linkState :: line.items.map SlotItem.chars, Text.IsWord part := by
    intro part hpart
    rcases List.mem_cons.1 hpart with rfl | hitem
    · exact ⟨by simp [hlink], h.link_solid⟩
    · obtain ⟨item, hmem, rfl⟩ := List.mem_map.1 hitem
      exact SlotItem.isWord_chars (h.items_wellFormed item hmem)
  have hfield : line.linkField ≠ [] := by
    obtain ⟨tail, heq, -⟩ := h.linkField_eq
    simp [heq, hlink]
  apply Text.trimEnd_eq_self
  rw [List.getLast?_append_of_ne_nil _ hfield]
  exact Text.isBlank_getLast?_intercalate hparts

/-- There is nothing to trim behind a line. -/
theorem WellFormed.trimEnd_fields {line : NodeLine} (h : line.WellFormed) (place : List Char) :
    let tail := ' ' :: (place ++ '@' :: (line.busField ++ ' ' :: ([','].intercalate line.flags ++
      ' ' :: (line.master ++ ' ' :: line.counterField))))
    Text.trimEnd tail = tail := by
  have hlink := h.trimEnd_append_linkField (' ' :: (place ++ '@' :: (line.busField ++
    ' ' :: ([','].intercalate line.flags ++ ' ' :: (line.master ++ ' ' :: (line.pingSent ++
      ' ' :: (line.pongReceived ++ ' ' :: (line.epoch ++ [' ']))))))))
  simpa [NodeLine.counterField] using hlink

end NodeLine

namespace Node

/-! ## Fields -/

/-- What is read from the first letter on. -/
theorem readLink_eq {text tail : List Char} (node : Node)
    (hdrop : text.dropWhile (fun c ↦ !c.isAlpha) = tail) (hne : tail ≠ []) :
    readLink node text =
      { node with
        linkState := String.ofList (tail.takeWhile (· ≠ ' '))
        slots := (Text.words (tail.dropWhile (· ≠ ' '))).filterMap readSlotItem } := by
  rw [readLink, hdrop]
  cases tail with
  | nil => contradiction
  | cons c rest => rfl

variable {line : NodeLine}

/-- Reading the link state takes the words after it as items. -/
theorem readLink_linkField (h : line.WellFormed) (node : Node) :
    readLink node line.linkField =
      { node with
        linkState := String.ofList line.linkState
        slots := line.items.filterMap SlotItem.range? } := by
  obtain ⟨letter, hletter, halpha⟩ := h.link_letter
  obtain ⟨tail, hfield, htail, hwords⟩ := h.linkField_eq
  obtain ⟨others, hlink⟩ := List.head?_eq_some_iff.1 hletter
  have hspace : ∀ c ∈ line.linkState, decide (c ≠ ' ') = true := by
    intro c hc
    exact decide_eq_true fun heq => h.link_solid.space_not_mem (heq ▸ hc)
  have hdrop : line.linkField.dropWhile (fun c ↦ !c.isAlpha) = line.linkField := by
    rw [hfield, hlink]
    simp [halpha]
  have hstop : tail.takeWhile (· ≠ ' ') = [] ∧ tail.dropWhile (· ≠ ' ') = tail := by
    cases tail with
    | nil => exact ⟨rfl, rfl⟩
    | cons c rest =>
        obtain rfl : c = ' ' := htail c (by simp)
        simp
  rw [readLink_eq node hdrop (by simp [hfield, hlink]), hfield,
    List.takeWhile_append_of_pos hspace, List.dropWhile_append_of_pos hspace, hstop.1, hstop.2,
    hwords, List.append_nil, List.filterMap_map]
  have hread : readSlotItem ∘ SlotItem.chars = SlotItem.range? :=
    funext SlotItem.readSlotItem_chars
  rw [hread]

/-- No link state is read from a text without letters. -/
theorem readLink_of_unlettered (node : Node) {text : List Char}
    (h : ∀ c ∈ text, c.isAlpha = false) : readLink node text = node := by
  have hdrop : text.dropWhile (fun c ↦ !c.isAlpha) = [] :=
    List.dropWhile_eq_nil_iff.2 fun c hc => by simp [h c hc]
  rw [readLink, hdrop]

/-- A text without letters is skipped on the way to the link state. -/
theorem readLink_append (node : Node) {skipped : List Char}
    (h : ∀ c ∈ skipped, c.isAlpha = false) (text : List Char) :
    readLink node (skipped ++ text) = readLink node text := by
  rw [readLink, readLink, List.dropWhile_append_of_pos fun c hc => by simp [h c hc]]

/-- A node with the flags of the line is a replica when the line says so. -/
theorem isReplica_iff {node : Node} (hflags : node.flags = ⟨line.flags.map String.ofList⟩) :
    node.isReplica = true ↔ "slave".toList ∈ line.flags := by
  rw [isReplica, hflags, Flags.isReplica, Flags.contains, List.contains_iff_mem, List.mem_map]
  constructor
  · rintro ⟨flag, hflag, heq⟩
    rwa [← heq, String.toList_ofList]
  · intro hflag
    exact ⟨_, hflag, String.ofList_toList⟩

/-- Reading the master goes on behind it. The dash of a node that is no replica is skipped. -/
theorem readMaster_line (h : line.WellFormed) {node : Node}
    (hflags : node.flags = ⟨line.flags.map String.ofList⟩) (hnone : node.masterId = none)
    (rest : List Char) :
    readMaster node (line.master ++ ' ' :: rest) =
      readLink { node with
        masterId := if line.master = ['-'] then none
          else some (String.ofList line.master) } rest := by
  by_cases hflag : "slave".toList ∈ line.flags
  · have hcut := Text.cut_append rest h.master_word.solid.space_not_mem
    rw [readMaster, if_pos ((isReplica_iff hflags).2 hflag), hcut]
    by_cases hdash : line.master = ['-']
    · simp [hdash, ← hnone]
    · simp [hdash, h.master_word.ne_nil]
  · have hdash : line.master = ['-'] := h.master_absent hflag
    have hfalse : node.isReplica ≠ true := fun htrue => hflag ((isReplica_iff hflags).1 htrue)
    have hskip : ∀ c ∈ ['-', ' '], c.isAlpha = false :=
      List.forall_mem_cons.2 ⟨rfl, List.forall_mem_singleton.2 rfl⟩
    rw [readMaster, if_neg hfalse, hdash]
    simpa [← hnone] using readLink_append node hskip rest

/-- Flags joined by commas are read back. -/
theorem flags_intercalate (h : line.WellFormed) :
    Flags.ofChars ([','].intercalate line.flags) = ⟨line.flags.map String.ofList⟩ := by
  have hsplit : ([','].intercalate line.flags).splitOn ',' = line.flags :=
    List.splitOn_intercalate ',' (fun flag hflag => (h.flags_word flag hflag).2) h.flags_ne_nil
  have htrim : line.flags.map Text.trim = line.flags := by
    rw [List.map_congr_left fun flag hflag => (h.flags_word flag hflag).1.solid.trim_eq]
    exact List.map_id line.flags
  have hkeep : line.flags.filter (fun token ↦ !token.isEmpty) = line.flags :=
    List.filter_eq_self.2 fun flag hflag => by simpa using (h.flags_word flag hflag).1.ne_nil
  rw [Flags.ofChars, hsplit, htrim, hkeep]

/-- The flags of a line make one word. -/
theorem isWord_flags (h : line.WellFormed) : Text.IsWord ([','].intercalate line.flags) where
  ne_nil := by
    obtain ⟨flag, flags, hflags⟩ := List.exists_cons_of_ne_nil h.flags_ne_nil
    have hflag : flag ≠ [] := (h.flags_word flag (hflags ▸ List.mem_cons_self)).1.ne_nil
    cases flags with
    | nil => simpa [hflags] using hflag
    | cons other others => simp [hflags, List.intercalate_cons_cons, hflag]
  solid := Text.forall_mem_intercalate (List.forall_mem_singleton.2 rfl)
    fun flag hflag => (h.flags_word flag hflag).1.solid

/-- Reading the flags goes on to the master. -/
theorem readFlags_line (h : line.WellFormed) (node : Node) (rest : List Char) :
    readFlags node ([','].intercalate line.flags ++ ' ' :: rest) =
      readMaster { node with flags := ⟨line.flags.map String.ofList⟩ } rest := by
  rw [readFlags, Text.cut_append _ (isWord_flags h).solid.space_not_mem]
  show readMaster { node with flags := Flags.ofChars ([','].intercalate line.flags) } _ = _
  rw [flags_intercalate h]

/-- A bus port is read up to the comma behind it. -/
theorem readBusPort_append (port : UInt16) {suffix : List Char}
    (hsuffix : ∀ c ∈ suffix.head?, c = ',') :
    readBusPort (Text.decimal port.toNat ++ suffix) = port := by
  have hcomma : ∀ c ∈ Text.decimal port.toNat, decide (c ≠ ',') = true := by
    intro c hc
    refine decide_eq_true fun heq => ?_
    exact Text.not_mem_decimal (c := ',') (by decide) port.toNat (heq ▸ hc)
  have hstop : suffix.takeWhile (· ≠ ',') = [] := by
    cases suffix with
    | nil => rfl
    | cons c rest =>
        obtain rfl : c = ',' := hsuffix c (by simp)
        simp
  rw [readBusPort, List.takeWhile_append_of_pos hcomma, hstop, List.append_nil,
    (Text.isWord_decimal _).solid.trim_eq, Text.readUInt16_decimal]
  rfl

/-- The bus port is read up to the comma before its suffix. -/
theorem readBusPort_busField (line : NodeLine) : readBusPort line.busField = line.busPort :=
  readBusPort_append line.busPort (by cases line.suffix <;> simp)

/-- The bus port and its suffix hold no space. -/
theorem space_not_mem_busField (h : line.WellFormed) : ' ' ∉ line.busField := by
  have hport := Text.not_mem_decimal (c := ' ') (by decide) line.busPort.toNat
  cases hsuffix : line.suffix with
  | none => simpa [NodeLine.busField, hsuffix] using hport
  | some suffix =>
      simpa [NodeLine.busField, hsuffix] using ⟨hport, h.suffix_unspaced suffix hsuffix⟩

/-- Reading the bus port goes on to the flags. -/
theorem readBus_line (h : line.WellFormed) (node : Node) (rest : List Char) :
    readBus node (line.busField ++ ' ' :: rest) =
      readFlags { node with busPort := line.busPort } rest := by
  rw [readBus, Text.cut_append _ (space_not_mem_busField h)]
  show readFlags { node with busPort := readBusPort line.busField } rest = _
  rw [readBusPort_busField]

/-- A text keeps its brackets, of one kind, when it has none of them in front. -/
theorem dropWhile_bracket {bracket : Char} {text : List Char} (h : ∀ c ∈ text, c ≠ bracket) :
    text.dropWhile (· = bracket) = text := by
  cases text with
  | nil => rfl
  | cons c rest =>
      have hc : c ≠ bracket := h c List.mem_cons_self
      simp [hc]

/-- A host without brackets is told apart from the port behind it, unless it ends in a colon. -/
theorem splitAddress_bare {host : List Char} (hplain : ∀ c ∈ host, c ≠ '[' ∧ c ≠ ']')
    (port : UInt16) :
    splitAddress (host ++ ':' :: Text.decimal port.toNat) =
      if host.getLast? = some ':' then (host ++ ':' :: Text.decimal port.toNat, 0)
      else (host, port) := by
  have hopen : host.dropWhile (· = '[') = host := dropWhile_bracket fun c hc => (hplain c hc).1
  have hclose : host.reverse.dropWhile (· = ']') = host.reverse :=
    dropWhile_bracket fun c hc => (hplain c (List.mem_reverse.1 hc)).2
  have hhead : (host ++ ':' :: Text.decimal port.toNat).head? ≠ some '[' := by
    cases host with
    | nil => simp
    | cons c rest => simpa using (hplain c List.mem_cons_self).1
  have hcut := Text.cutLast_append host
    (Text.not_mem_decimal (c := ':') (by decide) port.toNat)
  rw [splitAddress, if_neg (fun hbrackets => hhead hbrackets.1), hcut]
  simp only [Text.readUInt16_decimal, hopen, hclose, List.reverse_reverse]

/-- Reading the id and what stands before the bus port goes on to the bus port. -/
theorem readId_append {id place : List Char} (hid : ' ' ∉ id) (hplace : '@' ∉ place)
    (rest : List Char) :
    readId (id ++ ' ' :: (place ++ '@' :: rest)) =
      readBus { id := String.ofList id, host := String.ofList (splitAddress place).1
                port := (splitAddress place).2 } rest := by
  simp only [readId, Text.cut_append _ hid, readAddress, Text.cut_append _ hplace]

/-- The host and the client port of a line are read as such. -/
theorem splitAddress_line (h : line.WellFormed) :
    splitAddress (line.host ++ ':' :: Text.decimal line.port.toNat) = (line.host, line.port) := by
  rw [splitAddress_bare (fun c hc => (h.host_plain c hc).2.2), if_neg h.host_closed]

/-- Reading the id and the address goes on to the bus port. -/
theorem readId_line (h : line.WellFormed) (rest : List Char) :
    readId (line.id ++ ' ' :: (line.host ++ ':' :: Text.decimal line.port.toNat ++ '@' :: rest)) =
      readBus { id := String.ofList line.id, host := String.ofList line.host, port := line.port }
        rest := by
  have hat : '@' ∉ line.host ++ ':' :: Text.decimal line.port.toNat := by
    simp only [List.mem_append, List.mem_cons, not_or]
    exact ⟨fun hmem => (h.host_plain '@' hmem).2.1 rfl, by decide,
      Text.not_mem_decimal (by decide) line.port.toNat⟩
  rw [readId_append h.id_word.solid.space_not_mem hat, splitAddress_line h]

/-- Reading from the bus port on sets all fields behind the address. -/
theorem readBus_fields (h : line.WellFormed) {node : Node} (hnone : node.masterId = none) :
    readBus node (line.busField ++ ' ' :: ([','].intercalate line.flags ++
        ' ' :: (line.master ++ ' ' :: line.counterField))) =
      { line.node with id := node.id, host := node.host, port := node.port } := by
  have hcounters : ∀ c ∈ [' '].intercalate line.counters ++ [' '], c.isAlpha = false :=
    List.forall_mem_append.2 ⟨Text.forall_mem_intercalate (List.forall_mem_singleton.2 rfl)
      fun counter hmem c hc => Text.isAlpha_of_isDigit (h.isDigit_of_mem_counters counter hmem c hc),
      List.forall_mem_singleton.2 rfl⟩
  rw [readBus_line h, readFlags_line h, readMaster_line h rfl (by exact hnone),
    NodeLine.counterField_eq, readLink_append _ hcounters, readLink_linkField h]
  rfl

/-- Reading a line that is well formed gives the node that its parts describe. -/
theorem readId_chars (h : line.WellFormed) : readId line.chars = line.node := by
  rw [NodeLine.chars_eq, readId_line h, readBus_fields h rfl]
  rfl

/-! ## The whole line -/

/-- A line starts with its id and ends with its link state or its last item, so that there is
nothing to trim. -/
theorem trim_chars (h : line.WellFormed) : Text.trim line.chars = line.chars := by
  rw [NodeLine.chars_eq, h.id_word.trim_append, h.trimEnd_fields]

/-- The mark of a reply holds no space, so that only the first field is asked for it. -/
theorem dropMark_append {id tail : List Char} (htail : ∀ c ∈ tail.head?, c = ' ') :
    Text.dropOpening replyMark (id ++ tail) = Text.dropOpening replyMark id ++ tail := by
  by_cases hmark : replyMark <+: id
  · obtain ⟨rest, rfl⟩ := hmark
    rw [List.append_assoc, Text.dropOpening_append, Text.dropOpening_append]
  · have hjoined : ¬ replyMark <+: id ++ tail := by
      intro hjoined
      rcases List.prefix_or_prefix_of_prefix hjoined (List.prefix_append id tail) with
        hid | ⟨rest, hid⟩
      · exact hmark hid
      · rw [← hid, List.prefix_append_right_inj] at hjoined
        cases rest with
        | nil => exact hmark (by simp [← hid])
        | cons c rest =>
            obtain ⟨others, rfl⟩ := hjoined
            obtain rfl : c = ' ' := htail c (by simp)
            have hspace : ' ' ∈ replyMark := hid ▸ by simp
            exact absurd hspace (by decide)
    rw [Text.dropOpening_eq_self hjoined, Text.dropOpening_eq_self hmark]

/-- The mark of a reply does not stand at the start of a line. -/
theorem stripLine_chars (h : line.WellFormed) : stripLine line.chars = line.chars := by
  rw [stripLine, trim_chars h, NodeLine.chars_eq, dropMark_append (by simp),
    Text.dropOpening_eq_self h.id_unmarked]

/-- A line that is well formed is read as the node that its parts describe. -/
theorem ofChars_chars (h : line.WellFormed) : ofChars line.chars = line.node := by
  rw [ofChars, stripLine_chars h, readId_chars h]

/-- A line whose bus port has no suffix is written in one line. -/
theorem newline_not_mem_line (h : line.WellFormed) (hsuffix : line.suffix = none) :
    '\n' ∉ line.chars := by
  have haddress : Text.Solid line.address := by
    have hhost : Text.Solid line.host := fun c hc => (h.host_plain c hc).1
    have hport := (Text.isWord_decimal line.port.toNat).solid
    have hbus := (Text.isWord_decimal line.busPort.toNat).solid
    have heq : line.address = line.host ++ ':' :: Text.decimal line.port.toNat ++
        '@' :: Text.decimal line.busPort.toNat := by
      simp [NodeLine.address, hsuffix]
    exact heq ▸ .append (.append hhost (.cons (by decide) hport)) (.cons (by decide) hbus)
  have hfields : ∀ field ∈ line.fields, Text.Solid field := by
    intro field hfield
    simp only [NodeLine.fields, List.mem_append, List.mem_cons, List.not_mem_nil, or_false] at hfield
    rcases hfield with (rfl | rfl | rfl | rfl | rfl | rfl | rfl | rfl) | hitem
    · exact h.id_word.solid
    · exact haddress
    · exact (isWord_flags h).solid
    · exact h.master_word.solid
    · exact fun c hc => Text.isBlank_of_isDigit (h.ping_digits c hc)
    · exact fun c hc => Text.isBlank_of_isDigit (h.pong_digits c hc)
    · exact fun c hc => Text.isBlank_of_isDigit (h.epoch_digits c hc)
    · exact h.link_solid
    · obtain ⟨item, hmem, rfl⟩ := List.mem_map.1 hitem
      exact (SlotItem.isWord_chars (h.items_wellFormed item hmem)).solid
  have hall : ∀ c ∈ line.chars, c ≠ '\n' :=
    Text.forall_mem_intercalate (List.forall_mem_singleton.2 (by decide))
      fun field hfield c hc heq => (hfields field hfield).newline_not_mem (heq ▸ hc)
  exact fun hmem => hall _ hmem rfl

end Node

/-! ## Lines in a reply -/

/-- What a reply may put around a line: blanks at its ends, and the mark of the reply in front. -/
structure Frame where
  before : List Char
  marked : Bool
  after : List Char
  before_blank : Text.allBlank before = true := by decide
  after_blank : Text.allBlank after = true := by decide

namespace Frame

/-- The mark of the frame, if it has one. -/
def mark (frame : Frame) : List Char :=
  if frame.marked then Node.replyMark else []

/-- The line as the reply holds it. -/
def text (frame : Frame) (line : NodeLine) : String :=
  String.ofList (frame.before ++ (frame.mark ++ line.chars) ++ frame.after)

/-- Any text as the reply holds it. -/
def around (frame : Frame) (text : List Char) : String :=
  String.ofList (frame.before ++ (frame.mark ++ text) ++ frame.after)

/-- The frame is stripped off a text that starts with a word and goes on behind a space, if at all.
A mark on the word itself goes with it when the frame has none. -/
theorem stripLine_around (frame : Frame) {id tail : List Char} (hid : Text.IsWord id)
    (htail : ∀ c ∈ tail.head?, c = ' ') :
    Node.stripLine (frame.around (id ++ tail)).toList =
      (if frame.marked then id else Text.dropOpening Node.replyMark id) ++ Text.trimEnd tail := by
  rw [Node.stripLine, around, String.toList_ofList,
    Text.trim_append frame.before_blank frame.after_blank, mark]
  split
  next =>
    have hword : Text.IsWord (Node.replyMark ++ id) :=
      ⟨by simp [Node.replyMark], .append (by decide) hid.solid⟩
    rw [← List.append_assoc, hword.trim_append, List.append_assoc, Text.dropOpening_append]
  next =>
    have hend : ∀ c ∈ (Text.trimEnd tail).head?, c = ' ' := fun c hc =>
      htail c (Text.mem_head?_of_trimEnd hc)
    rw [List.nil_append, hid.trim_append, Node.dropMark_append hend]

/-- Of a text that starts with the id of a line, the frame is stripped off. -/
theorem stripLine_around_line (frame : Frame) {line : NodeLine} (h : line.WellFormed)
    {tail : List Char} (htail : ∀ c ∈ tail.head?, c = ' ') :
    Node.stripLine (frame.around (line.id ++ tail)).toList = line.id ++ Text.trimEnd tail := by
  rw [frame.stripLine_around h.id_word htail, Text.dropOpening_eq_self h.id_unmarked, ite_self]

/-- The frame of a line is stripped off. -/
theorem stripLine_text (frame : Frame) {line : NodeLine} (h : line.WellFormed) :
    Node.stripLine (frame.text line).toList = line.chars := by
  show Node.stripLine (frame.around line.chars).toList = line.chars
  have htrim := Node.trim_chars h
  rw [NodeLine.chars_eq, h.id_word.trim_append] at htrim
  rw [NodeLine.chars_eq, frame.stripLine_around_line h (by simp), htrim]

/-- A well-formed line is read as the node that its parts describe, whatever frame it stands in. -/
theorem parse_text (frame : Frame) {line : NodeLine} (h : line.WellFormed) :
    Node.parse (frame.text line) = line.node := by
  rw [Node.parse, Node.ofChars, frame.stripLine_text h, Node.readId_chars h]

end Frame

/-- The range that an item assigns, by its lowest and its highest slot. -/
def SlotItem.assigned? : SlotItem → Option SlotRange
  | .slot number => some ⟨number, number⟩
  | .span left right => some ⟨min left right, max left right⟩
  | .mark _ => none

/-- Bounds are sorted, whichever comes first. -/
theorem SlotRange.between_eq (left right : Slot) :
    SlotRange.between left right = ⟨min left right, max left right⟩ := by
  show (if left ≤ right then SlotRange.mk left right else ⟨right, left⟩) =
    ⟨if left ≤ right then left else right, if left ≤ right then right else left⟩
  split <;> rfl

/-- An item assigns the slots between its bounds. -/
theorem SlotItem.range?_eq_assigned? (item : SlotItem) : item.range? = item.assigned? := by
  cases item with
  | slot number => rfl
  | span left right => exact congrArg some (SlotRange.between_eq left right)
  | mark text => rfl

/-- A well-formed line is read as the node that its parts describe, whatever frame it stands in. The
node has a master exactly when the line is that of a replica and names one, and its slots are those
that the items assign, in their order and with sorted bounds. -/
theorem Node.parse_framed (frame : Frame) {line : NodeLine} (h : line.WellFormed) :
    Node.parse (frame.text line) = line.node ∧
      (∀ master, (Node.parse (frame.text line)).masterId = some master ↔
        "slave".toList ∈ line.flags ∧ line.master ≠ ['-'] ∧
          master = String.ofList line.master) ∧
      (Node.parse (frame.text line)).slots = line.items.filterMap SlotItem.assigned? := by
  rw [frame.parse_text h]
  refine ⟨rfl, fun master => ?_, ?_⟩
  · have hmaster : line.master ≠ ['-'] → "slave".toList ∈ line.flags := fun hne => by
      by_contra hflag
      exact hne (h.master_absent hflag)
    by_cases hdash : line.master = ['-']
    · simp [NodeLine.node, hdash]
    · simp only [NodeLine.node, if_neg hdash, Option.some.injEq]
      exact ⟨fun heq => ⟨hmaster hdash, hdash, heq.symm⟩, fun hall => hall.2.2.symm⟩
  · exact List.filterMap_congr fun item _ => item.range?_eq_assigned?

/-- The line of a replica with every optional part, which names its master and lists slots in any
order and in a mark, is read behind a mark and between blanks. -/
theorem Node.parse_framed_replica :
    let line : NodeLine :=
      { id := ['a', 'ñ'], host := [':', ':', '1'], port := 6379, busPort := 16379
        suffix := some ['ö'], flags := [['ü', '?'], "slave".toList], master := ['日', '本']
        pingSent := ['0'], pongReceived := [], epoch := ['1', '2'], linkState := ['u', 'p']
        items := [.span 9 4, .mark ['7', '>'], .slot 5] }
    let frame : Frame := { before := [' ', '\t'], marked := true, after := ['\u3000', '\r'] }
    line.WellFormed ∧
      frame.text line = " \ttxt:añ ::1:6379@16379,ö ü?,slave 日本 0  12 up 9-4 [7>] 5\u3000\r" ∧
      (Node.parse (frame.text line)).masterId = some "日本" ∧
      (Node.parse (frame.text line)).slots = [⟨4, 9⟩, ⟨5, 5⟩] := by
  intro line frame
  have hline : line.WellFormed :=
    { id_word := by decide
      id_unmarked := by decide
      host_plain := by simp [line]; decide
      host_closed := by decide
      suffix_unspaced := by decide
      flags_ne_nil := by decide
      flags_word := by decide
      master_word := by decide
      master_absent := by decide
      ping_digits := by simp [line]
      pong_digits := by simp [line]
      epoch_digits := by simp [line]
      link_solid := by decide
      link_letter := ⟨'u', rfl, rfl⟩
      items_wellFormed := by decide }
  obtain ⟨-, hmaster, hslots⟩ := Node.parse_framed frame hline
  exact ⟨hline, by decide +kernel, (hmaster "日本").2 (by decide), hslots⟩

end ClusterSteward
