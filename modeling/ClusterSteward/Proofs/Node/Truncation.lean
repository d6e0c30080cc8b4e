import ClusterSteward.Proofs.Node.RoundTrip

/-!
# Node lines that end early

A line may end behind any of its fields. The fields that it still has are read as in the whole line
and the others have their defaults, with two exceptions: the bus port and the master of a replica are
read only when a space ends their field, so that a line that ends in one of them loses it. There is a
lemma for each field that a line can end in. The host and the client port may be written in any way,
in brackets or without a port: `place` is their text. Main statement: `Node.parse_firstFields`.
-/

namespace ClusterSteward

/-! ## The first fields of a line -/

namespace NodeLine

/-- The text of the first `count` fields of the line. -/
def firstFields (line : NodeLine) (place : List Char) (count : Nat) : List Char :=
  [' '].intercalate ((line.fieldsAt place).take count)

/-- The node that the line describes, with the host and the client port that are read from their
place. -/
def nodeAt (line : NodeLine) (place : List Char) : Node :=
  { line.node with
    host := String.ofList (Node.splitAddress place).1, port := (Node.splitAddress place).2 }

/-- The part of that node which the first `count` fields of the line describe. What the other fields
describe has its default. -/
def nodeOfFirst (line : NodeLine) (place : List Char) (count : Nat) : Node where
  id := if 1 ≤ count then (line.nodeAt place).id else ""
  host := if 2 ≤ count then (line.nodeAt place).host else ""
  port := if 2 ≤ count then (line.nodeAt place).port else 0
  busPort := if 2 ≤ count then (line.nodeAt place).busPort else 0
  flags := if 3 ≤ count then (line.nodeAt place).flags else .none
  masterId := if 4 ≤ count then (line.nodeAt place).masterId else none
  linkState := if 8 ≤ count then (line.nodeAt place).linkState else ""
  slots := (line.items.take (count - 8)).filterMap SlotItem.range?

/-- Nothing but spaces stands behind the master in the first `count` fields: they end before the
link state, and the counters among them are empty. -/
def EndsInMaster (line : NodeLine) (count : Nat) : Prop :=
  count < 8 ∧ ∀ counter ∈ line.counters.take (count - 4), counter = []

instance (line : NodeLine) (count : Nat) : Decidable (line.EndsInMaster count) :=
  inferInstanceAs (Decidable (_ ∧ _))

/-- The text behind the master when the line ends after `count` counters. -/
def behindMaster (line : NodeLine) (count : Nat) : List Char :=
  (line.counters.take count).flatMap (' ' :: ·)

variable {line : NodeLine}

/-- A line that ends in its address. -/
theorem firstFields_address (line : NodeLine) (place : List Char) :
    line.firstFields place 2 = line.id ++ ' ' :: (place ++ '@' :: line.busField) := by
  simp [firstFields, fieldsAt, List.intercalate_cons_cons]

/-- A line that ends in its flags. -/
theorem firstFields_flags (line : NodeLine) (place : List Char) :
    line.firstFields place 3 = line.id ++ ' ' :: (place ++ '@' :: (line.busField ++
      ' ' :: [','].intercalate line.flags)) := by
  simp [firstFields, fieldsAt, List.intercalate_cons_cons]

/-- A line that ends in its master or its counters. -/
theorem firstFields_master (line : NodeLine) (place : List Char) {count : Nat} (h : count ≤ 3) :
    line.firstFields place (4 + count) = line.id ++ ' ' :: (place ++ '@' :: (line.busField ++
      ' ' :: ([','].intercalate line.flags ++ ' ' :: (line.master ++ line.behindMaster count)))) := by
  interval_cases count <;> simp [firstFields, fieldsAt, behindMaster, counters]

/-- A line that ends in its link state or its items is the whole line with fewer items. -/
theorem firstFields_link (line : NodeLine) (place : List Char) (count : Nat) :
    line.firstFields place (8 + count) =
      [' '].intercalate ({ line with items := line.items.take count }.fieldsAt place) := by
  have hfields : line.fieldsAt place =
      { line with items := [] }.fieldsAt place ++ line.items.map SlotItem.chars := rfl
  have hlength : (({ line with items := [] } : NodeLine).fieldsAt place).length = 8 := rfl
  rw [firstFields, hfields, ← hlength, List.take_length_add_append, ← List.map_take]
  rfl

/-- The node of a line up to its master or its counters. -/
theorem nodeOfFirst_master (line : NodeLine) (place : List Char) {count : Nat} (h : count ≤ 3) :
    line.nodeOfFirst place (4 + count) = { line.nodeAt place with linkState := "", slots := [] } := by
  have hitems : 4 + count - 8 = 0 := by omega
  simp (disch := omega) only [nodeOfFirst, hitems, if_pos, if_neg, List.take_zero,
    List.filterMap_nil]

/-- The node of a line up to its link state or its items. -/
theorem nodeOfFirst_link (line : NodeLine) (place : List Char) (count : Nat) :
    line.nodeOfFirst place (8 + count) =
      { line with items := line.items.take count }.nodeAt place := by
  simp (disch := omega) only [nodeOfFirst, nodeAt, node, Nat.add_sub_cancel_left, if_pos]

/-- Only blanks stand behind the master exactly when the counters of the line are empty. -/
theorem WellFormed.allBlank_behindMaster (h : line.WellFormed) (count : Nat) :
    Text.allBlank (line.behindMaster count) = true ↔
      ∀ counter ∈ line.counters.take count, counter = [] := by
  rw [Text.allBlank, List.all_eq_true]
  constructor
  · intro hblank counter hcounter
    refine List.eq_nil_iff_forall_not_mem.2 fun c hc => ?_
    have hdigit := h.isDigit_of_mem_counters counter (List.mem_of_mem_take hcounter) c hc
    have hc : Text.isBlank c = true :=
      hblank c (List.mem_flatMap.2 ⟨counter, hcounter, List.mem_cons_of_mem _ hc⟩)
    rw [Text.isBlank_of_isDigit hdigit] at hc
    contradiction
  · intro hempty c hc
    obtain ⟨counter, hcounter, hmem⟩ := List.mem_flatMap.1 hc
    rw [hempty counter hcounter, List.mem_singleton] at hmem
    rw [hmem]
    rfl

/-- No letter stands behind the master before the link state. -/
theorem WellFormed.isAlpha_of_mem_behindMaster (h : line.WellFormed) (count : Nat) :
    ∀ c ∈ line.behindMaster count, c.isAlpha = false := by
  intro c hc
  obtain ⟨counter, hcounter, hmem⟩ := List.mem_flatMap.1 hc
  rcases List.mem_cons.1 hmem with rfl | hmem
  · rfl
  · have hcounters := h.isDigit_of_mem_counters counter (List.mem_of_mem_take hcounter)
    exact Text.isAlpha_of_isDigit (hcounters c hmem)

/-- What stands behind the master, if it is not empty, starts with a space. -/
theorem head?_behindMaster (line : NodeLine) (count : Nat) :
    ∀ c ∈ (line.behindMaster count).head?, c = ' ' := by
  rw [behindMaster]
  cases line.counters.take count with
  | nil => simp
  | cons counter counters => simp

end NodeLine

/-! ## Reading up to the last field -/

namespace Node

variable {line : NodeLine}

/-- Of the first fields of a line, only the end is trimmed before they are read. -/
theorem parse_around (frame : Frame) (h : line.WellFormed) {tail : List Char}
    (htail : ∀ c ∈ tail.head?, c = ' ') :
    parse (frame.around (line.id ++ tail)) = readId (line.id ++ Text.trimEnd tail) := by
  rw [parse, ofChars, frame.stripLine_around_line h htail]

/-- A line that ends in its id has that id. -/
theorem parse_id (frame : Frame) (h : line.WellFormed) :
    parse (frame.around line.id) = { id := String.ofList line.id } := by
  have hround : parse (frame.around (line.id ++ [])) = readId (line.id ++ Text.trimEnd []) :=
    parse_around frame h (by simp)
  rw [Text.trimEnd_nil, List.append_nil] at hround
  rw [hround, readId, Text.cut_eq_none h.id_word.solid.space_not_mem]

/-- A line that ends in its address has the host and the client port, and no bus port. -/
theorem parse_address (frame : Frame) (h : line.WellFormed) {place : List Char}
    (hplace : '@' ∉ place) :
    parse (frame.around (line.id ++ ' ' :: (place ++ '@' :: line.busField))) =
      { id := String.ofList line.id, host := (line.nodeAt place).host
        port := (line.nodeAt place).port } := by
  have htrim : Text.trimEnd (' ' :: (place ++ '@' :: line.busField)) =
      ' ' :: (place ++ '@' :: Text.trimEnd line.busField) := by
    have hbus := Text.isWord_decimal line.busPort.toNat
    have haddress := hbus.trimEnd_append (' ' :: (place ++ ['@']))
    have hfield := hbus.trimEnd_append []
    rw [NodeLine.busField]
    simp only [List.nil_append] at hfield
    simpa [hfield] using haddress _
  -- no space ends the bus port, whatever was trimmed from its suffix
  have hspace : ' ' ∉ Text.trimEnd line.busField := fun hmem =>
    space_not_mem_busField h ((Text.trimEnd_prefix _).subset hmem)
  rw [parse_around frame h (by simp), htrim, readId_append h.id_word.solid.space_not_mem hplace,
    readBus, Text.cut_eq_none hspace]
  rfl

/-- Flags at the end of a line are read. -/
theorem readFlags_last (h : line.WellFormed) (node : Node) :
    readFlags node ([','].intercalate line.flags) =
      { node with flags := ⟨line.flags.map String.ofList⟩ } := by
  rw [readFlags, Text.cut_eq_none (isWord_flags h).solid.space_not_mem]
  show { node with flags := Flags.ofChars ([','].intercalate line.flags) } = _
  rw [flags_intercalate h]

/-- A line that ends in its flags has all fields up to them. -/
theorem parse_flags (frame : Frame) (h : line.WellFormed) {place : List Char}
    (hplace : '@' ∉ place) :
    parse (frame.around (line.id ++ ' ' :: (place ++ '@' :: (line.busField ++
        ' ' :: [','].intercalate line.flags)))) =
      { line.nodeAt place with masterId := none, linkState := "", slots := [] } := by
  have htrim : Text.trimEnd (' ' :: (place ++ '@' :: (line.busField ++
      ' ' :: [','].intercalate line.flags))) =
      ' ' :: (place ++ '@' :: (line.busField ++ ' ' :: [','].intercalate line.flags)) := by
    have hflags := (isWord_flags h).trimEnd_append
      (' ' :: (place ++ '@' :: (line.busField ++ [' ']))) []
    simpa using hflags
  rw [parse_around frame h (by simp), htrim, readId_append h.id_word.solid.space_not_mem hplace,
    readBus_line h, readFlags_last h]
  rfl

/-- The master of a replica is not read at the end of a line, where no space ends its field. Behind
it, counters hold no link state. -/
theorem readMaster_last (h : line.WellFormed) {node : Node}
    (hflags : node.flags = ⟨line.flags.map String.ofList⟩) (hnone : node.masterId = none)
    (count : Nat) :
    readMaster node (line.master ++ Text.trimEnd (line.behindMaster count)) =
      { node with
        masterId :=
          if ∀ counter ∈ line.counters.take count, counter = [] then none
          else if line.master = ['-'] then none
          else some (String.ofList line.master) } := by
  by_cases hempty : ∀ counter ∈ line.counters.take count, counter = []
  · have hblank := (h.allBlank_behindMaster count).2 hempty
    rw [Text.trimEnd_eq_nil_iff.2 hblank, List.append_nil, if_pos hempty, ← hnone]
    by_cases hreplica : node.isReplica = true
    · rw [readMaster, if_pos hreplica, Text.cut_eq_none h.master_word.solid.space_not_mem]
    · have hdash : line.master = ['-'] :=
        h.master_absent fun hflag => hreplica ((isReplica_iff hflags).2 hflag)
      rw [readMaster, if_neg hreplica, hdash]
      exact readLink_of_unlettered node (List.forall_mem_singleton.2 rfl)
  · -- a counter is left, and before it the space that ends the master
    obtain ⟨rest, hrest⟩ : ∃ rest, Text.trimEnd (line.behindMaster count) = ' ' :: rest := by
      obtain ⟨c, rest, hrest⟩ := List.exists_cons_of_ne_nil fun hnil =>
        hempty ((h.allBlank_behindMaster count).1 (Text.trimEnd_eq_nil_iff.1 hnil))
      obtain rfl : c = ' ' := line.head?_behindMaster count c <|
        Text.mem_head?_of_trimEnd (by rw [hrest]; rfl)
      exact ⟨rest, hrest⟩
    have hletter : ∀ c ∈ rest, c.isAlpha = false := fun c hc =>
      h.isAlpha_of_mem_behindMaster count c ((Text.trimEnd_prefix _).subset
        (hrest ▸ List.mem_cons_of_mem _ hc))
    rw [hrest, readMaster_line h hflags hnone, readLink_of_unlettered _ hletter, if_neg hempty]

/-- A line that ends in its master or its counters has all fields up to them, but no master when
only spaces stand behind it. -/
theorem parse_master (frame : Frame) (h : line.WellFormed) {place : List Char}
    (hplace : '@' ∉ place) (count : Nat) :
    parse (frame.around (line.id ++ ' ' :: (place ++ '@' :: (line.busField ++
        ' ' :: ([','].intercalate line.flags ++ ' ' :: (line.master ++ line.behindMaster count)))))) =
      { line.nodeAt place with
        masterId := if ∀ counter ∈ line.counters.take count, counter = [] then none
          else (line.nodeAt place).masterId
        linkState := "", slots := [] } := by
  have htrim : Text.trimEnd (' ' :: (place ++ '@' :: (line.busField ++
      ' ' :: ([','].intercalate line.flags ++ ' ' :: (line.master ++ line.behindMaster count))))) =
      ' ' :: (place ++ '@' :: (line.busField ++ ' ' :: ([','].intercalate line.flags ++
        ' ' :: (line.master ++ Text.trimEnd (line.behindMaster count))))) := by
    have hmaster := h.master_word.trimEnd_append (' ' :: (place ++ '@' :: (line.busField ++
      ' ' :: ([','].intercalate line.flags ++ [' '])))) (line.behindMaster count)
    simpa using hmaster
  rw [parse_around frame h (by simp), htrim, readId_append h.id_word.solid.space_not_mem hplace,
    readBus_line h, readFlags_line h, readMaster_last h rfl rfl]
  rfl

/-- A line that ends in its link state or its items has all fields, and the items up to there. -/
theorem parse_link (frame : Frame) (h : line.WellFormed) {place : List Char}
    (hplace : '@' ∉ place) (count : Nat) :
    parse (frame.around (line.firstFields place (8 + count))) =
      { line with items := line.items.take count }.nodeAt place := by
  have hitems : ({ line with items := line.items.take count } : NodeLine).WellFormed :=
    { h with items_wellFormed := fun item hitem =>
        h.items_wellFormed item (List.mem_of_mem_take hitem) }
  rw [line.firstFields_link, NodeLine.intercalate_fieldsAt, parse_around frame hitems (by simp),
    hitems.trimEnd_fields, readId_append h.id_word.solid.space_not_mem hplace,
    readBus_fields hitems rfl]
  rfl

/-! ## All cuts -/

/-- A line is read as the node that it describes. When it ends behind one of its fields, it is read
as the part of that node which the fields up to there describe, except that the bus port is lost
when it comes last, and the master when only spaces stand behind it. -/
theorem parse_firstFields (frame : Frame) (h : line.WellFormed) {place : List Char}
    (hplace : '@' ∉ place) :
    parse (frame.around ([' '].intercalate (line.fieldsAt place))) = line.nodeAt place ∧
    ∀ count, 0 < count →
      parse (frame.around (line.firstFields place count)) =
        { line.nodeOfFirst place count with
          busPort := if count = 2 then 0 else (line.nodeOfFirst place count).busPort
          masterId := if line.EndsInMaster count then none
            else (line.nodeOfFirst place count).masterId } := by
  refine ⟨?_, fun count hcount => ?_⟩
  · have hall := parse_link frame h hplace line.items.length
    rwa [line.firstFields_link, List.take_length] at hall
  obtain rfl | rfl | rfl | ⟨hmaster, hlink⟩ | hlink :
      count = 1 ∨ count = 2 ∨ count = 3 ∨ (4 ≤ count ∧ count < 8) ∨ 8 ≤ count := by omega
  · have hid : line.firstFields place 1 = line.id := by
      simp [NodeLine.firstFields, NodeLine.fieldsAt]
    rw [hid, parse_id frame h]
    simp [NodeLine.nodeOfFirst, NodeLine.nodeAt, NodeLine.node]
  · rw [line.firstFields_address, parse_address frame h hplace]
    simp [NodeLine.nodeOfFirst, NodeLine.nodeAt, NodeLine.node]
  · rw [line.firstFields_flags, parse_flags frame h hplace]
    simp [NodeLine.nodeOfFirst]
  · obtain ⟨kept, rfl⟩ := Nat.exists_eq_add_of_le hmaster
    have hends : line.EndsInMaster (4 + kept) ↔
        ∀ counter ∈ line.counters.take kept, counter = [] := by
      rw [NodeLine.EndsInMaster, Nat.add_sub_cancel_left]
      exact and_iff_right hlink
    rw [line.firstFields_master place (by omega), parse_master frame h hplace,
      line.nodeOfFirst_master place (by omega), if_neg (by omega : ¬ 4 + kept = 2)]
    simp only [hends]
  · obtain ⟨kept, rfl⟩ := Nat.exists_eq_add_of_le hlink
    have hends : ¬ line.EndsInMaster (8 + kept) := fun hends => by
      have hlt := hends.1
      omega
    rw [parse_link frame h hplace, line.nodeOfFirst_link, if_neg hends,
      if_neg (by omega : ¬ 8 + kept = 2)]

/-- A line that ends behind a counter and one that ends behind an item. The host is in brackets and
the counter before the first one is empty. -/
theorem parse_firstFields_replica :
    let line : NodeLine :=
      { id := ['n', '1'], host := ['h'], port := 0, busPort := 17000
        suffix := some ['h', '\t'], flags := ["fail?".toList, "slave".toList], master := ['m', '1']
        pingSent := [], pongReceived := ['0'], epoch := ['1'], linkState := ['u', 'p']
        items := [.span 9 4, .mark ['7', '>'], .slot 5] }
    let place := "[fe80::]:7000".toList
    let frame : Frame := { before := ['\t'], marked := true, after := ['\r'] }
    line.WellFormed ∧ '@' ∉ place ∧
      frame.around (line.firstFields place 6) =
        "\ttxt:n1 [fe80::]:7000@17000,h\t fail?,slave m1  0\r" ∧
      parse (frame.around (line.firstFields place 6)) =
        { id := "n1", host := "fe80::", port := 7000, busPort := 17000
          flags := ⟨["fail?", "slave"]⟩, masterId := some "m1" } ∧
      parse (frame.around (line.firstFields place 5)) =
        { id := "n1", host := "fe80::", port := 7000, busPort := 17000
          flags := ⟨["fail?", "slave"]⟩ } ∧
      (parse (frame.around (line.firstFields place 10))).slots = [⟨4, 9⟩] := by
  intro line place frame
  have hline : line.WellFormed := by decide +kernel
  have hplace : '@' ∉ place := by decide +kernel
  obtain ⟨-, hcuts⟩ := parse_firstFields frame hline hplace
  refine ⟨hline, hplace, by decide +kernel, ?_, ?_, ?_⟩
  · rw [hcuts 6 (by decide)]
    decide +kernel
  · rw [hcuts 5 (by decide)]
    decide +kernel
  · rw [hcuts 10 (by decide)]
    decide +kernel

/-- A line that ends in its address has lost the bus port, and one that ends in the master of a
replica has lost the master. -/
theorem parse_ne_nodeOfFirst :
    let line : NodeLine :=
      { id := ['n', '1'], host := "127.0.0.1".toList, port := 7000, busPort := 17000
        flags := ["slave".toList], master := ['m', '1'], pingSent := ['0'], pongReceived := ['0']
        epoch := ['1'], linkState := "connected".toList, items := [] }
    let place := "127.0.0.1:7000".toList
    line.WellFormed ∧ line.fields = line.fieldsAt place ∧
      (String.ofList (line.firstFields place 2) = "n1 127.0.0.1:7000@17000" ∧
        (parse "n1 127.0.0.1:7000@17000").busPort = 0 ∧
        (line.nodeOfFirst place 2).busPort = 17000) ∧
      String.ofList (line.firstFields place 4) = "n1 127.0.0.1:7000@17000 slave m1" ∧
        (parse "n1 127.0.0.1:7000@17000 slave m1").masterId = none ∧
        (line.nodeOfFirst place 4).masterId = some "m1" := by
  decide +kernel

end Node

end ClusterSteward
