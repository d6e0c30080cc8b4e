import ClusterSteward.Cluster.Moving
import ClusterSteward.Proofs.Node.RoundTrip
import ClusterSteward.Proofs.Sequencing
import ClusterSteward.Proofs.Slot.Counting

/-!
# The listing of a cluster

The text of a cluster describes its members line by line, and reading it gives a node for each
member, in order, with the member's id, role and slots. Main statements: `text_eq_ok_iff`, which
says when a cluster has a text, `parse_text`, which says what is read from it, and `listing_eq`,
which says so of the listing.
-/

namespace ClusterSteward

/-- A name of a node: a word that does not start with the mark of a reply. -/
structure IsName (name : String) : Prop where
  word : Text.IsWord name.toList
  unmarked : ¬ Node.replyMark <+: name.toList

instance (name : String) : Decidable (IsName name) :=
  decidable_of_iff (Text.IsWord name.toList ∧ ¬ Node.replyMark <+: name.toList)
    ⟨fun h => ⟨h.1, h.2⟩, fun h => ⟨h.1, h.2⟩⟩

namespace Member

/-- A member that the listing can describe: its bus port is a port number. -/
def Listable (member : Member) : Prop :=
  member.port.toNat + busOffset < UInt16.size

/-- A member whose own name and whose master's name, if it replicates one, are names. -/
structure Named (member : Member) : Prop where
  id_name : IsName member.id
  master_name : ∀ master ∈ member.replicaOf, IsName master

/-- Whether a member is named is decided name by name. -/
instance (member : Member) : Decidable member.Named :=
  decidable_of_iff (IsName member.id ∧ ∀ master ∈ member.replicaOf, IsName master)
    ⟨fun h => ⟨h.1, h.2⟩, fun h => ⟨h.1, h.2⟩⟩

/-- The line of a listable member. -/
def written (member : Member) : NodeLine where
  id := member.id.toList
  host := "127.0.0.1".toList
  port := member.port
  busPort := UInt16.ofNat (member.port.toNat + busOffset)
  flags := [(if member.replicaOf.isSome then "slave" else "master").toList]
  master := (member.replicaOf.getD "-").toList
  pingSent := ['0']
  pongReceived := ['0']
  epoch := ['1']
  linkState := "connected".toList
  items := member.slots.runs.map SlotItem.ofRange

/-- The node that describes a member. A master called `-` is not told from none. -/
def node (member : Member) : Node where
  id := member.id
  host := "127.0.0.1"
  port := member.port
  busPort := UInt16.ofNat (member.port.toNat + busOffset)
  flags := ⟨[if member.replicaOf.isSome then "slave" else "master"]⟩
  masterId := member.replicaOf.filter (· ≠ "-")
  linkState := "connected"
  slots := member.slots.runs

/-- A member has a line exactly when it is listable. -/
theorem line_eq_ok_iff {member : Member} {line : NodeLine} :
    member.line = .ok line ↔ member.Listable ∧ line = member.written := by
  unfold Member.line Member.busPort
  by_cases hport : member.port.toNat + busOffset < UInt16.size
  · simp only [Listable, hport, true_and]
    exact ⟨fun h => (Except.ok.inj h).symm, fun h => congrArg Except.ok h.symm⟩
  · simp only [Listable, hport, false_and, iff_false]
    rintro ⟨⟩

/-- The item of a run assigns the run again. -/
theorem range?_ofRange {range : SlotRange} (hle : range.first.toNat ≤ range.last.toNat) :
    (SlotItem.ofRange range).range? = some range := by
  obtain ⟨first, last⟩ := range
  unfold SlotItem.ofRange
  by_cases hsingle : first = last
  · subst hsingle
    simp [SlotRange.isSingle, SlotItem.range?, SlotRange.single]
  · have hbetween : SlotRange.between first last = ⟨first, last⟩ := by
      rw [SlotRange.between, if_pos (UInt16.le_iff_toNat_le.2 hle)]
    simp [SlotRange.isSingle, hsingle, SlotItem.range?, hbetween]

/-- The line of a member describes its node. -/
theorem node_written (member : Member) : member.written.node = member.node := by
  have hslots : (member.slots.runs.map SlotItem.ofRange).filterMap SlotItem.range? =
      member.slots.runs := by
    rw [List.filterMap_map]
    refine (List.filterMap_congr fun run hrun => ?_).trans List.filterMap_some
    exact range?_ofRange (SlotSet.le_of_mem_runsOf hrun)
  have hmaster : (if (member.replicaOf.getD "-").toList = ['-'] then none
      else some (member.replicaOf.getD "-")) = member.replicaOf.filter (· ≠ "-") := by
    cases member.replicaOf with
    | none => rfl
    | some master =>
        have hdash : master.toList = ['-'] ↔ master = "-" :=
          (String.toList_inj : master.toList = "-".toList ↔ master = "-")
        by_cases heq : master = "-"
        · simp [heq, Option.filter]
        · simp [hdash, heq, Option.filter]
  simp only [NodeLine.node, written, node, hslots, String.ofList_toList, List.map_cons,
    List.map_nil, hmaster]

/-- The line of a member with proper names is well formed. -/
theorem wellFormed_written {member : Member} (h : member.Named) : member.written.WellFormed where
  id_word := h.id_name.word
  id_unmarked := h.id_name.unmarked
  host_plain := by
    show ∀ c ∈ "127.0.0.1".toList, Text.isBlank c = false ∧ c ≠ '@' ∧ c ≠ '[' ∧ c ≠ ']'
    simp [Text.isBlank]
  host_closed := by
    show "127.0.0.1".toList.getLast? ≠ some ':'
    decide
  suffix_unspaced _ hsuffix := nomatch hsuffix
  flags_ne_nil := List.cons_ne_nil _ _
  flags_word := by
    intro flag hflag
    obtain rfl : flag = _ := List.mem_singleton.1 hflag
    cases member.replicaOf.isSome <;> decide
  master_word := by
    cases hmaster : member.replicaOf with
    | none => simpa [written, hmaster] using (by decide : Text.IsWord ['-'])
    | some master => simpa [written, hmaster] using (h.master_name master hmaster).word
  master_absent := by
    cases hmaster : member.replicaOf with
    | none => simp [written, hmaster]
    | some master => simp [written, hmaster]
  ping_digits c hc := by
    obtain rfl : c = '0' := List.mem_singleton.1 hc
    rfl
  pong_digits c hc := by
    obtain rfl : c = '0' := List.mem_singleton.1 hc
    rfl
  epoch_digits c hc := by
    obtain rfl : c = '1' := List.mem_singleton.1 hc
    rfl
  link_solid := by
    show Text.Solid "connected".toList
    decide
  link_letter := ⟨'c', rfl, rfl⟩
  items_wellFormed := by
    intro item hitem
    obtain ⟨run, -, rfl⟩ := List.mem_map.1 hitem
    unfold SlotItem.ofRange
    split <;> trivial

/-- The line of a member with proper names is one line. -/
theorem newline_not_mem_written {member : Member} (h : member.Named) :
    '\n' ∉ member.written.chars :=
  Node.newline_not_mem_line (wellFormed_written h) rfl

/-- The node of a member is a master exactly when the member replicates no other one. -/
theorem isMaster_node (member : Member) : member.node.isMaster = member.replicaOf.isNone := by
  cases hmaster : member.replicaOf <;> simp [node, Node.isMaster, Flags.isMaster,
    Flags.isReplica, Flags.contains, hmaster]

/-- The slot count of a member's node is the number of the member's slots. -/
theorem slotCount_node (member : Member) : member.node.slotCount = .ok member.slots.size :=
  SlotSet.totalWidth_runs member.slots

/-- The node of a member is a slotless master exactly when the member is a master without slots. -/
theorem isSlotlessMaster_node (member : Member) :
    member.node.isSlotlessMaster = true ↔ member.replicaOf = none ∧ member.slots = .empty := by
  rw [Node.isSlotlessMaster, isMaster_node, Bool.and_eq_true, Option.isNone_iff_eq_none,
    List.isEmpty_iff]
  exact and_congr_right fun _ => SlotSet.runs_eq_nil_iff

end Member

/-! ## The whole listing -/

/-- The nodes of the lines of a text, when the lines are well formed. -/
theorem Listing.ofChars_lines {lines : List NodeLine} (h : ∀ line ∈ lines, line.WellFormed)
    (hline : ∀ line ∈ lines, '\n' ∉ line.chars) :
    Listing.ofChars (['\n'].intercalate (lines.map NodeLine.chars)) =
      ⟨lines.map NodeLine.node⟩ := by
  by_cases hnil : lines = []
  · subst hnil
    decide
  have hsplit : (['\n'].intercalate (lines.map NodeLine.chars)).splitOn '\n' =
      lines.map NodeLine.chars := by
    refine List.splitOn_intercalate '\n' (fun chars hchars => ?_) (by simpa using hnil)
    obtain ⟨line, hmem, rfl⟩ := List.mem_map.1 hchars
    exact hline line hmem
  have hstrip : (lines.map NodeLine.chars).map Node.stripLine = lines.map NodeLine.chars := by
    rw [List.map_map]
    exact List.map_congr_left fun line hmem => Node.stripLine_chars (h line hmem)
  have hkeep : (lines.map NodeLine.chars).filter (fun line ↦ !Text.allBlank line) =
      lines.map NodeLine.chars := by
    refine List.filter_eq_self.2 fun chars hchars => ?_
    obtain ⟨line, hmem, rfl⟩ := List.mem_map.1 hchars
    obtain ⟨c, rest, hid⟩ := List.exists_cons_of_ne_nil (h line hmem).id_word.ne_nil
    have hc : Text.isBlank c = false := (h line hmem).id_word.solid c (hid ▸ List.mem_cons_self)
    simp [NodeLine.chars_eq, hid, Text.allBlank, hc]
  rw [Listing.ofChars, hsplit, hstrip, hkeep, List.map_map]
  exact congrArg Listing.mk (List.map_congr_left fun line hmem => Node.ofChars_chars (h line hmem))

namespace Cluster

variable {cluster : Cluster}

/-- The members have lines exactly when all of them are listable. -/
theorem lines_eq_ok_iff {members : List Member} {lines : List NodeLine} :
    members.mapM Member.line = .ok lines ↔
      (∀ member ∈ members, member.Listable) ∧ lines = members.map Member.written := by
  induction members generalizing lines with
  | nil =>
      rw [List.mapM_nil, pure_eq_ok_iff]
      simp [eq_comm]
  | cons member members ih =>
      rw [List.mapM_cons, bind_eq_ok_iff]
      simp only [bind_eq_ok_iff, Member.line_eq_ok_iff, ih, pure_eq_ok_iff, List.forall_mem_cons,
        List.map_cons]
      constructor
      · rintro ⟨line, ⟨hmember, rfl⟩, others, ⟨hmembers, rfl⟩, rfl⟩
        exact ⟨⟨hmember, hmembers⟩, rfl⟩
      · rintro ⟨⟨hmember, hmembers⟩, rfl⟩
        exact ⟨_, ⟨hmember, rfl⟩, _, ⟨hmembers, rfl⟩, rfl⟩

/-- A cluster has a text exactly when all its members are listable; it is made of their lines. -/
theorem text_eq_ok_iff {text : String} :
    cluster.text = .ok text ↔ (∀ member ∈ cluster.members, member.Listable) ∧
      text = String.ofList (['\n'].intercalate
        ((cluster.members.map Member.written).map NodeLine.chars)) := by
  rw [Cluster.text, bind_eq_ok_iff]
  simp only [lines_eq_ok_iff, pure_eq_ok_iff]
  constructor
  · rintro ⟨lines, ⟨hmembers, rfl⟩, rfl⟩
    exact ⟨hmembers, rfl⟩
  · rintro ⟨hmembers, rfl⟩
    exact ⟨_, ⟨hmembers, rfl⟩, rfl⟩

/-- The ports of the members count up with their places, as they do when members are added. -/
def Numbered (cluster : Cluster) : Prop :=
  ∀ (place : Nat) (member : Member), cluster.members[place]? = some member →
    portOf place = .ok member.port

/-- A cluster without members is numbered. -/
theorem numbered_nil (h : cluster.members = []) : cluster.Numbered := by
  intro place member hmember
  rw [h] at hmember
  cases hmember

/-- A cluster is numbered when its ports are those of its places. -/
theorem numbered_of_map_eq (h : cluster.members.map (fun member : Member ↦ .ok member.port) =
    (List.range cluster.members.length).map portOf) : cluster.Numbered := by
  intro place member hmember
  obtain ⟨hlt, rfl⟩ := List.getElem?_eq_some_iff.1 hmember
  have hport := congrArg (·[place]?) h
  simpa [hlt] using hport.symm

/-- Adding a member keeps a cluster numbered. -/
theorem Numbered.add (h : cluster.Numbered) {id : String} {replicaOf : Option String}
    {slots : SlotSet} {after : Cluster} (hadd : cluster.add id replicaOf slots = .ok after) :
    after.Numbered := by
  obtain ⟨port, hport, heq⟩ := bind_eq_ok_iff.1 hadd
  obtain rfl := pure_eq_ok_iff.1 heq
  intro place member hmember
  have hplace : (cluster.members ++ [⟨id, port, replicaOf, slots⟩])[place]? = some member := hmember
  rw [List.getElem?_append] at hplace
  split at hplace
  next hlt => exact h place member hplace
  next hge =>
    obtain ⟨hlt, rfl⟩ := List.getElem?_eq_some_iff.1 hplace
    have heq : place = cluster.members.length := by
      rw [List.length_singleton] at hlt
      omega
    simpa [heq] using hport

/-- A numbered cluster has a text while the bus ports of all members are port numbers. -/
theorem Numbered.exists_text (h : cluster.Numbered) (hsize : cluster.members.length ≤ 48536) :
    ∃ text, cluster.text = .ok text := by
  refine ⟨_, text_eq_ok_iff.2 ⟨fun member hmember => ?_, rfl⟩⟩
  obtain ⟨place, hplace⟩ := List.mem_iff_getElem?.1 hmember
  obtain ⟨hlt, -⟩ := List.getElem?_eq_some_iff.1 hplace
  have hmod : place % UInt16.size = place := Nat.mod_eq_of_lt (by unfold UInt16.size; omega)
  have hport : basePort + place < UInt16.size := by
    unfold basePort UInt16.size
    omega
  have hnumber := h place member hplace
  rw [portOf, hmod, if_pos hport, Except.ok.injEq] at hnumber
  rw [Member.Listable, ← hnumber, UInt16.toNat_ofNat_of_lt' hport]
  unfold basePort Member.busOffset UInt16.size
  omega

section

variable {β : Type} (endpoint : Endpoint)
  {next : Except ToolError Listing × Cluster → Counted β}

/-- What starts with the listing of a cluster in memory succeeds when the cluster has a text and
what follows succeeds on the reading of the text. That the listing was asked for is counted. -/
theorem listing_bind_eq_ok_iff {result : β} :
    (topology.listing endpoint cluster >>= next) = .ok result ↔
      ∃ text, cluster.text = .ok text ∧
        next (.ok (.parse text), { cluster with listings := cluster.listings + 1 }) =
          .ok result := by
  show ((cluster.text >>= fun text ↦ _) >>= next) = _ ↔ _
  simp only [bind_eq_ok_iff, bind_assoc, pure_bind]

/-- What starts with the listing of a cluster in memory faults when the cluster has no text or what
follows faults on the reading of the text. -/
theorem listing_bind_eq_error_iff {fault : Fault} :
    (topology.listing endpoint cluster >>= next) = .error fault ↔
      cluster.text = .error fault ∨ ∃ text, cluster.text = .ok text ∧
        next (.ok (.parse text), { cluster with listings := cluster.listings + 1 }) =
          .error fault := by
  show ((cluster.text >>= fun text ↦ _) >>= next) = _ ↔ _
  simp only [bind_eq_error_iff, bind_assoc, pure_bind]

end

/-- The text of a cluster whose members have proper names is read as a node for each member. -/
theorem parse_text {text : String} (hnamed : ∀ member ∈ cluster.members, member.Named)
    (htext : cluster.text = .ok text) :
    Listing.parse text = ⟨cluster.members.map Member.node⟩ := by
  obtain ⟨-, rfl⟩ := text_eq_ok_iff.1 htext
  have hwell : ∀ line ∈ cluster.members.map Member.written, line.WellFormed := by
    intro line hline
    obtain ⟨member, hmember, rfl⟩ := List.mem_map.1 hline
    exact Member.wellFormed_written (hnamed member hmember)
  have hnewline : ∀ line ∈ cluster.members.map Member.written, '\n' ∉ line.chars := by
    intro line hline
    obtain ⟨member, hmember, rfl⟩ := List.mem_map.1 hline
    exact Member.newline_not_mem_written (hnamed member hmember)
  rw [Listing.parse, String.toList_ofList, Listing.ofChars_lines hwell hnewline, List.map_map]
  exact congrArg Listing.mk (List.map_congr_left fun member _ => member.node_written)

/-- The listing of a cluster whose members have proper names is a node for each member. -/
theorem listing_eq (hnamed : ∀ member ∈ cluster.members, member.Named)
    (hnumbered : cluster.Numbered) (hsize : cluster.members.length ≤ 48536) (endpoint : Endpoint) :
    topology.listing endpoint cluster =
      .ok (.ok ⟨cluster.members.map Member.node⟩,
        { cluster with listings := cluster.listings + 1 }) := by
  obtain ⟨text, htext⟩ := hnumbered.exists_text hsize
  rw [← parse_text hnamed htext]
  show (cluster.text >>= fun text ↦ _) = _
  rw [htext]
  rfl

end Cluster

end ClusterSteward
