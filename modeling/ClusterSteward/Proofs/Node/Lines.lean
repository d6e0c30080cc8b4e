import ClusterSteward.Proofs.Node.Reading
import ClusterSteward.Proofs.Node.RoundTrip

/-!
# The lines of a listing

A listing is read line by line, so that joining texts joins their nodes and no line has a say in how
another is read. The reader of listings strips a line before it hands it to the reader of lines, which
strips it once more: the two agree on a line unless something that is stripped stands right behind
the mark of a reply. Main statements: `Listing.newline_not_mem_id`, `Listing.parse_joined` and
`Listing.parse_filledLines`.
-/

namespace ClusterSteward

namespace Text

/-- The pieces between two stops hold no stop. -/
theorem not_mem_of_mem_splitOn {stop : Char} {text piece : List Char}
    (h : piece ∈ text.splitOn stop) : stop ∉ piece := by
  induction text generalizing piece with
  | nil => simp_all
  | cons c rest ih =>
      rw [List.splitOn_cons_eq_if_modifyHead] at h
      split at h
      next =>
        rcases List.mem_cons.1 h with rfl | hrest
        · exact List.not_mem_nil
        · exact ih hrest
      next hc =>
        cases hsplit : rest.splitOn stop with
        | nil => exact absurd hsplit (List.splitOn_ne_nil stop rest)
        | cons first others =>
            rw [hsplit] at h ih
            rcases List.mem_cons.1 h with rfl | hother
            · have hfirst := ih List.mem_cons_self
              rw [List.mem_cons, not_or]
              exact ⟨fun heq => hc (beq_iff_eq.2 heq.symm), hfirst⟩
            · exact ih (List.mem_cons_of_mem _ hother)

end Text

namespace Node

/-! ## Stripping twice -/

/-- Nothing that is stripped stands right behind the mark of a reply in front of the line, neither a
blank nor a second mark. -/
def MarkedOnce (line : List Char) : Prop :=
  replyMark <+: Text.trim line →
    Text.trimStart (stripLine line) = stripLine line ∧ ¬ replyMark <+: stripLine line

instance : DecidablePred MarkedOnce := fun line ↦
  inferInstanceAs (Decidable (replyMark <+: Text.trim line → _ ∧ _))

/-- The blanks around a line are stripped first. -/
theorem stripLine_trim (line : List Char) : stripLine (Text.trim line) = stripLine line := by
  rw [stripLine, Text.trim_trim, stripLine]

/-- A line that is marked once has nothing more to strip when it was stripped. -/
theorem stripLine_stripLine {line : List Char} (h : MarkedOnce line) :
    stripLine (stripLine line) = stripLine line := by
  by_cases hmark : replyMark <+: Text.trim line
  · obtain ⟨hstart, hunmarked⟩ := h hmark
    obtain ⟨rest, hrest⟩ := hmark
    have hstrip : stripLine line = rest := by rw [stripLine, ← hrest, Text.dropOpening_append]
    -- the line ends as it did before the mark was dropped
    have hlast : ∀ c ∈ rest.getLast?, Text.isBlank c = false := by
      intro c hc
      refine Text.isBlank_getLast?_trim line c ?_
      rw [← hrest, List.getLast?_append, Option.mem_def.1 hc]
      rfl
    rw [hstrip] at hstart hunmarked ⊢
    rw [stripLine, Text.trim, hstart, Text.trimEnd_eq_self hlast,
      Text.dropOpening_eq_self hunmarked]
  · have hstrip : stripLine line = Text.trim line := Text.dropOpening_eq_self hmark
    rw [hstrip, stripLine_trim, hstrip]

/-- A line that is marked once describes the same node when it was stripped before. -/
theorem ofChars_stripLine {line : List Char} (h : MarkedOnce line) :
    ofChars (stripLine line) = ofChars line := by
  rw [ofChars, stripLine_stripLine h, ofChars]

end Node

namespace Listing

/-! ## Reading line by line -/

/-- The lines of a text, between its newlines. -/
def lines (text : String) : List (List Char) :=
  text.toList.splitOn '\n'

/-- The lines that are not blank, without the blanks at their ends. -/
def rows (text : String) : List (List Char) :=
  ((lines text).map Text.trim).filter fun row ↦ !row.isEmpty

/-- The lines that hold more than blanks behind the mark of a reply. -/
def filledLines (text : String) : List (List Char) :=
  (lines text).filter fun line ↦ !Text.allBlank (Node.stripLine line)

/-- The node that a listing has for a line, if it has one. -/
def nodeOfLine? (line : List Char) : Option Node :=
  if Text.allBlank (Node.stripLine line) then none else some (Node.ofChars (Node.stripLine line))

/-- The nodes of a listing are those of its lines. -/
theorem nodes_ofChars (text : List Char) :
    (ofChars text).nodes = (text.splitOn '\n').filterMap nodeOfLine? := by
  rw [ofChars]
  induction text.splitOn '\n' with
  | nil => rfl
  | cons line rest ih =>
      rw [List.map_cons, List.filter_cons, List.filterMap_cons, nodeOfLine?]
      cases Text.allBlank (Node.stripLine line) with
      | true => simpa using ih
      | false => simpa using ih

/-- No id in a listing spans lines, whatever its text is. -/
theorem newline_not_mem_id {text : String} {node : Node} (h : node ∈ (parse text).nodes) :
    '\n' ∉ node.id.toList := by
  rw [parse, nodes_ofChars] at h
  obtain ⟨line, hline, hnode⟩ := List.mem_filterMap.1 h
  rw [nodeOfLine?] at hnode
  split at hnode
  next => cases hnode
  next =>
    obtain rfl := Option.some.inj hnode
    have hpiece : (Node.ofChars (Node.stripLine line)).id.toList <:+: line :=
      (Node.id_ofChars_infix _).trans (Node.stripLine_infix line)
    exact fun hmem => Text.not_mem_of_mem_splitOn hline (hpiece.subset hmem)

/-- A text without a newline is one line. -/
theorem nodes_ofChars_line {line : List Char} (h : '\n' ∉ line) :
    (ofChars line).nodes = (nodeOfLine? line).toList := by
  have hsplit : line.splitOn '\n' = [line] :=
    List.splitOnP_eq_singleton fun c hc => beq_eq_false_iff_ne.2 fun heq => h (heq ▸ hc)
  rw [nodes_ofChars, hsplit, List.filterMap_cons, List.filterMap_nil]
  cases nodeOfLine? line <;> rfl

/-- The nodes of a listing are those of its rows. -/
theorem nodes_parse_rows (text : String) :
    (parse text).nodes = (rows text).filterMap nodeOfLine? := by
  have htrim : nodeOfLine? ∘ Text.trim = nodeOfLine? := by
    funext line
    rw [Function.comp_apply, nodeOfLine?, Node.stripLine_trim, nodeOfLine?]
  -- an empty row has no node, so that leaving it out leaves no node out
  have hskip : (fun row ↦ (Option.guard (fun row : List Char ↦ !row.isEmpty) row).bind
      nodeOfLine?) = nodeOfLine? := by
    funext row
    cases row <;> rfl
  rw [rows, ← List.filterMap_eq_filter, List.filterMap_filterMap, hskip, List.filterMap_map, htrim]
  exact nodes_ofChars text.toList

/-- The nodes of two texts on lines of their own are those of the first and then those of the
second. The nodes of a text are those that its lines have alone, line after line, and texts with the
same rows in another order have the same nodes in the corresponding order. -/
theorem parse_joined :
    (∀ left right : String,
      (parse (left ++ "\n" ++ right)).nodes = (parse left).nodes ++ (parse right).nodes) ∧
    (∀ text : String, (parse text).nodes = (lines text).flatMap fun line ↦ (ofChars line).nodes) ∧
    ∀ text reordered : String, (rows reordered).Perm (rows text) →
      (parse reordered).nodes.Perm (parse text).nodes := by
  refine ⟨fun left right => ?_, fun text => ?_, fun text reordered hperm => ?_⟩
  · have hsplit : (left ++ "\n" ++ right).toList.splitOn '\n' =
        left.toList.splitOn '\n' ++ right.toList.splitOn '\n' := by
      rw [String.toList_append, String.toList_append, List.append_assoc]
      exact List.splitOnP_append_cons left.toList right.toList (by decide)
    rw [parse, parse, parse, nodes_ofChars, nodes_ofChars, nodes_ofChars, hsplit,
      List.filterMap_append]
  · rw [parse, nodes_ofChars, List.filterMap_eq_flatMap_toList]
    exact List.flatMap_congr fun line hline =>
      (nodes_ofChars_line (Text.not_mem_of_mem_splitOn hline)).symm
  · rw [nodes_parse_rows, nodes_parse_rows]
    exact hperm.filterMap nodeOfLine?

/-- A listing with other line ends and blank lines, the other way round. -/
theorem parse_joined_reversed :
    let text := "r1 h:1@2 slave m1 0 0 1 up\r\ntxt:\r\n\ttxt:m1 h:3@4 master - 0 0 1 up 7\r\n"
    let reordered := "txt:m1 h:3@4 master - 0 0 1 up 7\n\ntxt:\nr1 h:1@2 slave m1 0 0 1 up"
    (rows reordered).Perm (rows text) ∧ (parse reordered).nodes.Perm (parse text).nodes ∧
      (parse text).nodes.map Node.id = ["r1", "m1"] := by
  intro text reordered
  have hperm : (rows reordered).Perm (rows text) := by decide +kernel
  exact ⟨hperm, parse_joined.2.2 text reordered hperm, by decide +kernel⟩

/-! ## Lines alone and in a listing -/

/-- A listing has one node for each filled line, in the order of the lines: the node that the line
describes alone if it is marked once, and the one that the stripped line describes otherwise. -/
theorem parse_filledLines (text : String) :
    (parse text).nodes = (filledLines text).map fun line ↦
      if Node.MarkedOnce line then Node.ofChars line else Node.ofChars (Node.stripLine line) := by
  have hnodes : (parse text).nodes =
      (filledLines text).map fun line ↦ Node.ofChars (Node.stripLine line) := by
    rw [parse, ofChars, filledLines, lines, List.filter_map, List.map_map]
    rfl
  rw [hnodes]
  refine List.map_congr_left fun line _ => ?_
  split
  next honce => exact Node.ofChars_stripLine honce
  next => rfl

/-- Behind a second mark and behind a blank after the mark, a line does not describe the same node
alone: the mark stays on the id, or the blank ends an empty id. -/
theorem parse_ne_map_ofChars :
    let twice := "txt:txt:n1 127.0.0.1:7000@17000 master - 0 0 1 connected 0-5"
    let spaced := "txt: n1 127.0.0.1:7000@17000 master - 0 0 1 connected 0-5"
    ((parse twice).nodes ≠ (filledLines twice).map Node.ofChars ∧
      (parse twice).nodes.map Node.id = ["n1"] ∧ (Node.parse twice).id = "txt:n1") ∧
    (parse spaced).nodes ≠ (filledLines spaced).map Node.ofChars ∧
      (parse spaced).nodes.map Node.id = ["n1"] ∧
      (Node.parse spaced).id = "" ∧ (Node.parse spaced).host = "n1 127.0.0.1" := by
  decide +kernel

end Listing

end ClusterSteward
