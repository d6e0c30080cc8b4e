import ClusterSteward.Proofs.Node.Reading
import ClusterSteward.Proofs.Node.RoundTrip

/-!
# Addresses in node lines

A line gives the address of its node as host, client port and bus port, and the host may be an IPv6
address, which is written with colons itself. In brackets every such address is told apart from the
client port. Without them the port is taken for a part of the host when the address ends in its
double colon. Main statement: `Node.parse_ipv6`.
-/

namespace ClusterSteward

/-! ## IPv6 addresses -/

namespace Ipv6

/-- A hexadecimal digit, in upper or lower case. -/
def isHexDigit (c : Char) : Bool :=
  c.isDigit || ('a' ≤ c && c ≤ 'f') || ('A' ≤ c && c ≤ 'F')

/-- A group of 16 bits: one to four hexadecimal digits. -/
structure IsGroup (group : List Char) : Prop where
  ne_nil : group ≠ []
  length_le : group.length ≤ 4
  hexadecimal : group.all isHexDigit = true

instance : DecidablePred IsGroup := fun group ↦
  decidable_of_iff (group ≠ [] ∧ group.length ≤ 4 ∧ group.all isHexDigit = true)
    ⟨fun h => ⟨h.1, h.2.1, h.2.2⟩, fun h => ⟨h.1, h.2, h.3⟩⟩

/-- Four bytes in decimal, which stand for the last two groups. -/
def IsQuad (quad : List Char) : Prop :=
  ∃ first second third fourth : UInt8, quad = ['.'].intercalate
    [Text.decimal first.toNat, Text.decimal second.toNat, Text.decimal third.toNat,
      Text.decimal fourth.toNat]

/-- The parts between the colons that make up the given number of groups. -/
inductive AreParts : Nat → List (List Char) → Prop where
  | nil : AreParts 0 []
  | quad {quad : List Char} : IsQuad quad → AreParts 2 [quad]
  | group {count : Nat} {group : List Char} {parts : List (List Char)} :
      IsGroup group → AreParts count parts → AreParts (count + 1) (group :: parts)

/-- The texts of an address: all eight groups, or the groups on both sides of a double colon, which
stands for one or more groups of zeros. -/
inductive IsAddress : List Char → Prop where
  | full {parts : List (List Char)} : AreParts 8 parts → IsAddress ([':'].intercalate parts)
  | compressed {upper lower : List (List Char)} {count : Nat} :
      (∀ group ∈ upper, IsGroup group) → AreParts count lower → upper.length + count ≤ 7 →
      IsAddress ([':'].intercalate upper ++ ':' :: ':' :: [':'].intercalate lower)

/-- A character that may stand in the name of a zone. -/
def isZoneChar (c : Char) : Bool :=
  c.isAlphanum || ['-', '.', '_', '~'].contains c

/-- The texts of an address with or without the zone in which it is meant. -/
inductive IsText : List Char → Prop where
  | global {address : List Char} : IsAddress address → IsText address
  | zoned {address zone : List Char} : IsAddress address → zone ≠ [] →
      zone.all isZoneChar = true → IsText (address ++ '%' :: zone)

/-- Whether a character tells the parts of an address field apart. -/
def isSeparator (c : Char) : Bool :=
  [':', '@', '[', ']'].contains c

/-- A class of characters without the four separators holds no separator. -/
theorem isSeparator_eq_false {p : Char → Bool} (h : [':', '@', '[', ']'].all (!p ·) = true)
    {c : Char} (hc : p c = true) : isSeparator c = false := by
  rw [Bool.eq_false_iff]
  intro hseparator
  have hnot := List.all_eq_true.1 h c (List.contains_iff_mem.1 hseparator)
  simp [hc] at hnot

/-- A quad holds no separator. -/
theorem IsQuad.isSeparator_eq_false {quad : List Char} (h : IsQuad quad) :
    ∀ c ∈ quad, isSeparator c = false := by
  obtain ⟨first, second, third, fourth, rfl⟩ := h
  have hbyte (byte : UInt8) : ∀ c ∈ Text.decimal byte.toNat, isSeparator c = false := fun _ hc =>
    Ipv6.isSeparator_eq_false (by decide) (Text.isDigit_of_mem_decimal hc)
  refine Text.forall_mem_intercalate (List.forall_mem_singleton.2 rfl) ?_
  simp only [List.forall_mem_cons]
  exact ⟨hbyte first, hbyte second, hbyte third, hbyte fourth, fun _ hpart => nomatch hpart⟩

/-- A quad is not empty. -/
theorem IsQuad.ne_nil {quad : List Char} (h : IsQuad quad) : quad ≠ [] := by
  obtain ⟨first, second, third, fourth, rfl⟩ := h
  simp [List.intercalate_cons_cons]

/-- A group holds no separator. -/
theorem IsGroup.isSeparator_eq_false {group : List Char} (h : IsGroup group) :
    ∀ c ∈ group, isSeparator c = false := fun c hc =>
  Ipv6.isSeparator_eq_false (by decide) (List.all_eq_true.1 h.hexadecimal c hc)

/-- The parts between the colons are not empty and hold no separator themselves. -/
theorem AreParts.forall_mem {count : Nat} {parts : List (List Char)} (h : AreParts count parts) :
    ∀ part ∈ parts, part ≠ [] ∧ ∀ c ∈ part, isSeparator c = false := by
  induction h with
  | nil => exact fun part hpart => nomatch hpart
  | quad hquad => exact List.forall_mem_singleton.2 ⟨hquad.ne_nil, hquad.isSeparator_eq_false⟩
  | group hgroup _ ih =>
      exact List.forall_mem_cons.2 ⟨⟨hgroup.ne_nil, hgroup.isSeparator_eq_false⟩, ih⟩

/-- Parts that are joined by colons do not end in a colon. -/
theorem AreParts.getLast?_ne_colon {count : Nat} {parts : List (List Char)}
    (h : AreParts count parts) : ([':'].intercalate parts).getLast? ≠ some ':' := by
  intro hcolon
  refine Text.forall_mem_getLast?_intercalate (p := (· ≠ ':')) (fun part hpart =>
    (h.forall_mem part hpart).1) (fun part hpart c hc heq => ?_) ':' hcolon rfl
  have hpart := (h.forall_mem part hpart).2 c (List.mem_of_mem_getLast? hc)
  exact absurd (heq ▸ hpart) (by decide)

/-- The only separators in an address are colons. -/
theorem IsAddress.forall_mem {text : List Char} (h : IsAddress text) :
    ∀ c ∈ text, c = ':' ∨ isSeparator c = false := by
  have hjoin (parts : List (List Char)) (hparts : ∀ part ∈ parts, ∀ c ∈ part,
      isSeparator c = false) : ∀ c ∈ [':'].intercalate parts, c = ':' ∨ isSeparator c = false :=
    Text.forall_mem_intercalate (List.forall_mem_singleton.2 (.inl rfl))
      fun part hpart c hc => .inr (hparts part hpart c hc)
  cases h with
  | full hparts => exact hjoin _ fun part hpart => (hparts.forall_mem part hpart).2
  | compressed hupper hlower _ =>
      refine List.forall_mem_append.2 ⟨hjoin _ fun group hgroup =>
        (hupper group hgroup).isSeparator_eq_false, ?_⟩
      exact List.forall_mem_cons.2 ⟨.inl rfl, List.forall_mem_cons.2 ⟨.inl rfl,
        hjoin _ fun part hpart => (hlower.forall_mem part hpart).2⟩⟩

/-- The only separators in an address are colons, also with a zone behind it. -/
theorem IsText.forall_mem {text : List Char} (h : IsText text) :
    ∀ c ∈ text, c = ':' ∨ isSeparator c = false := by
  cases h with
  | global haddress => exact haddress.forall_mem
  | zoned haddress _ hzone =>
      exact List.forall_mem_append.2 ⟨haddress.forall_mem, List.forall_mem_cons.2 ⟨.inr rfl,
        fun c hc => .inr (isSeparator_eq_false (by decide) (List.all_eq_true.1 hzone c hc))⟩⟩

/-- A separator other than the colon does not stand in an address. -/
theorem IsText.ne_of_mem {text : List Char} (h : IsText text) {c : Char} (hc : c ∈ text)
    {stop : Char} (hstop : isSeparator stop = true) (hcolon : stop ≠ ':') : c ≠ stop := by
  rintro rfl
  obtain heq | hfalse := h.forall_mem c hc
  · exact hcolon heq
  · exact Bool.false_ne_true (hfalse.symm.trans hstop)

/-- An address, with or without a zone, ends in a colon only when it ends in its double colon. -/
theorem IsText.getLast?_eq_colon_iff {text : List Char} (h : IsText text) :
    text.getLast? = some ':' ↔ [':', ':'] <:+ text := by
  constructor
  · intro hcolon
    cases h with
    | global haddress =>
        cases haddress with
        | full hparts => exact absurd hcolon hparts.getLast?_ne_colon
        | @compressed upper lower _ hupper hlower hcount =>
            by_cases hend : [':'].intercalate lower = []
            · exact ⟨[':'].intercalate upper, by rw [hend]⟩
            · have hlast : (':' :: ':' :: [':'].intercalate lower).getLast? =
                  ([':'].intercalate lower).getLast? :=
                List.getLast?_append_of_ne_nil [':', ':'] hend
              rw [List.getLast?_append_of_ne_nil _ (by simp), hlast] at hcolon
              exact absurd hcolon hlower.getLast?_ne_colon
    | @zoned address zone _ hne hzone =>
        have hlast : ('%' :: zone).getLast? = zone.getLast? :=
          List.getLast?_append_of_ne_nil ['%'] hne
        rw [List.getLast?_append_of_ne_nil _ (by simp), hlast] at hcolon
        have hcolon := List.all_eq_true.1 hzone ':' (List.mem_of_mem_getLast? hcolon)
        exact absurd hcolon (by decide)
  · rintro ⟨before, rfl⟩
    simp

/-- An address and a client port, with brackets around the address or without them. -/
def withPort (address : List Char) (port : UInt16) (bracketed : Bool) : List Char :=
  (if bracketed then '[' :: address ++ [']'] else address) ++ ':' :: Text.decimal port.toNat

end Ipv6

/-! ## Reading addresses -/

namespace Node

/-- An address in brackets is told apart from the port behind it. -/
theorem splitAddress_bracketed {address : List Char} (hplain : ∀ c ∈ address, c ≠ '[' ∧ c ≠ ']')
    (port : UInt16) :
    splitAddress ('[' :: address ++ [']'] ++ ':' :: Text.decimal port.toNat) = (address, port) := by
  have hlast : ('[' :: address ++ [']'] ++ ':' :: Text.decimal port.toNat).getLast? ≠ some ']' := by
    intro hclose
    have hmem : ']' ∈ (':' :: Text.decimal port.toNat) := List.mem_of_mem_getLast? <| by
      rwa [List.getLast?_append_of_ne_nil _ (by simp)] at hclose
    rcases List.mem_cons.1 hmem with hcolon | hdigit
    · exact absurd hcolon (by decide)
    · exact Text.not_mem_decimal (by decide) port.toNat hdigit
  have hcut := Text.cutLast_append ('[' :: address ++ [']'])
    (Text.not_mem_decimal (c := ':') (by decide) port.toNat)
  have hopen : ('[' :: address ++ [']']).dropWhile (· = '[') = address ++ [']'] := by
    refine dropWhile_bracket (List.forall_mem_append.2 ⟨fun c hc => (hplain c hc).1, ?_⟩)
    exact List.forall_mem_singleton.2 (by decide)
  have hclose : (address ++ [']']).reverse.dropWhile (· = ']') = address.reverse := by
    rw [List.reverse_append]
    exact dropWhile_bracket fun c hc => (hplain c (List.mem_reverse.1 hc)).2
  rw [splitAddress, if_neg (fun hbrackets => hlast hbrackets.2), hcut]
  have hend : ('[' :: address ++ [']']).getLast? ≠ some ':' := by
    rw [List.getLast?_append_of_ne_nil _ (by simp)]
    decide
  simp only [if_neg hend, Text.readUInt16_decimal, hopen, hclose, List.reverse_reverse]

/-- The host, the client port and the bus port. -/
def netAddress (node : Node) : String × UInt16 × UInt16 :=
  (node.host, node.port, node.busPort)

/-- Reading the link state and the slots keeps the host and the ports. -/
theorem netAddress_readLink (node : Node) (text : List Char) :
    (readLink node text).netAddress = node.netAddress := by
  rw [readLink]
  split <;> rfl

/-- Reading from the flags on keeps the host and the ports. -/
theorem netAddress_readFlags (node : Node) (text : List Char) :
    (readFlags node text).netAddress = node.netAddress := by
  obtain ⟨flags, masterId, rest, heq⟩ := exists_readFlags node text
  rw [heq, netAddress_readLink, netAddress, netAddress]

/-- A line from its id, its address field and the text behind that. -/
def lineAt (id address : List Char) (busPort : UInt16) (tail : List Char) : List Char :=
  id ++ ' ' :: (address ++ '@' :: (Text.decimal busPort.toNat ++ tail))

/-- Reading the bus port keeps the host and the client port, and gives the bus port unless the text
ends in it. -/
theorem netAddress_readBus (node : Node) (busPort : UInt16) {tail : List Char}
    (htail : ∀ c ∈ tail.head?, c = ' ') :
    (readBus node (Text.decimal busPort.toNat ++ tail)).netAddress =
      (node.host, node.port, if tail = [] then node.busPort else busPort) := by
  have hspace := Text.not_mem_decimal (c := ' ') (by decide) busPort.toNat
  cases tail with
  | nil => rw [List.append_nil, readBus, Text.cut_eq_none hspace, if_pos rfl, netAddress]
  | cons c rest =>
      obtain rfl : c = ' ' := htail c (by simp)
      have hbus : readBusPort (Text.decimal busPort.toNat ++ []) = busPort :=
        readBusPort_append busPort (by simp)
      rw [List.append_nil] at hbus
      rw [readBus, Text.cut_append _ hspace, if_neg (List.cons_ne_nil _ _)]
      show (readFlags { node with
        busPort := readBusPort (Text.decimal busPort.toNat) } rest).netAddress = _
      rw [netAddress_readFlags, netAddress, hbus]

/-- The host and the ports of a line are those of its address field, whatever the other fields are.
The bus port is lost when only blanks stand behind it. -/
theorem netAddress_parse (frame : Frame) {id address : List Char} (hid : Text.IsWord id)
    (hat : '@' ∉ address) (busPort : UInt16) {tail : List Char}
    (htail : ∀ c ∈ tail.head?, c = ' ') :
    (parse (frame.around (lineAt id address busPort tail))).netAddress =
      (String.ofList (splitAddress address).1, (splitAddress address).2,
        if Text.allBlank tail then 0 else busPort) := by
  have htrim : Text.trimEnd (' ' :: (address ++ '@' :: (Text.decimal busPort.toNat ++ tail))) =
      ' ' :: (address ++ '@' :: (Text.decimal busPort.toNat ++ Text.trimEnd tail)) := by
    have hport := (Text.isWord_decimal busPort.toNat).trimEnd_append (' ' :: (address ++ ['@'])) tail
    simpa using hport
  -- the id goes without a mark that it starts with
  obtain ⟨kept, hkept, hspace⟩ : ∃ kept,
      stripLine (frame.around (lineAt id address busPort tail)).toList = kept ++
        ' ' :: (address ++ '@' :: (Text.decimal busPort.toNat ++ Text.trimEnd tail)) ∧
      ' ' ∉ kept := by
    refine ⟨_, (frame.stripLine_around hid (by simp)).trans (by rw [htrim]), ?_⟩
    split
    next => exact hid.solid.space_not_mem
    next => exact fun hmem => hid.solid.space_not_mem ((Text.dropOpening_suffix _ _).subset hmem)
  rw [parse, ofChars, hkept, readId_append hspace hat,
    netAddress_readBus _ busPort fun c hc => htail c (Text.mem_head?_of_trimEnd hc)]
  simp only [Text.trimEnd_eq_nil_iff]

/-- An IPv6 address and a client port are read from the address field of a line: in brackets always,
and without them unless the address ends in its double colon. Then the client port is taken for a
part of the host. The bus port is read unless the line ends in it. -/
theorem parse_ipv6 (frame : Frame) {id : List Char} (hid : Text.IsWord id) {host : List Char}
    (hhost : Ipv6.IsText host) (port busPort : UInt16) (bracketed : Bool) {tail : List Char}
    (htail : ∀ c ∈ tail.head?, c = ' ') :
    let node := parse (frame.around (lineAt id (Ipv6.withPort host port bracketed) busPort tail))
    (node.host, node.port) =
        (if bracketed = false ∧ [':', ':'] <:+ host then
          (String.ofList (host ++ ':' :: Text.decimal port.toNat), 0)
        else (String.ofList host, port)) ∧
      node.busPort = if Text.allBlank tail then 0 else busPort := by
  intro node
  have hplain : ∀ c ∈ host, c ≠ '[' ∧ c ≠ ']' := fun c hc =>
    ⟨hhost.ne_of_mem hc rfl (by decide), hhost.ne_of_mem hc rfl (by decide)⟩
  have hat : '@' ∉ Ipv6.withPort host port bracketed := by
    have hhost : '@' ∉ host := fun hmem =>
      absurd rfl (hhost.ne_of_mem hmem (rfl : Ipv6.isSeparator '@' = true) (by decide))
    have hport := Text.not_mem_decimal (c := '@') (by decide) port.toNat
    cases bracketed <;> simp [Ipv6.withPort, hhost, hport]
  have hsplit : splitAddress (Ipv6.withPort host port bracketed) =
      if bracketed = false ∧ [':', ':'] <:+ host then (host ++ ':' :: Text.decimal port.toNat, 0)
      else (host, port) := by
    rw [Ipv6.withPort]
    cases bracketed with
    | true => simpa using splitAddress_bracketed hplain port
    | false =>
        rw [if_neg Bool.false_ne_true, splitAddress_bare hplain]
        simp only [hhost.getLast?_eq_colon_iff, true_and]
  have hread := netAddress_parse frame hid hat busPort htail
  simp only [netAddress, hsplit, Prod.mk.injEq] at hread
  obtain ⟨hhost, hport, hbus⟩ := hread
  refine ⟨?_, hbus⟩
  rw [hhost, hport]
  split <;> rfl

/-- An address that ends in the quad of its last groups, with a zone, is read in both notations, and
one that ends in its double colon in brackets. -/
theorem parse_ipv6_zoned :
    let zoned := "2001:db8::FFFF:192.0.2.1%eth0".toList
    let frame : Frame := { before := ['\t'], marked := true, after := ['\r'] }
    let tail := " master - 0 0 1 connected".toList
    let bare := frame.around (lineAt ['n', '1'] (Ipv6.withPort zoned 6379 false) 16379 tail)
    let bracketed :=
      frame.around (lineAt ['n', '1'] (Ipv6.withPort "fe80::".toList 6379 true) 16379 tail)
    (bare = "\ttxt:n1 2001:db8::FFFF:192.0.2.1%eth0:6379@16379 master - 0 0 1 connected\r" ∧
      ((parse bare).host, (parse bare).port) = ("2001:db8::FFFF:192.0.2.1%eth0", 6379) ∧
      (parse bare).busPort = 16379) ∧
    bracketed = "\ttxt:n1 [fe80::]:6379@16379 master - 0 0 1 connected\r" ∧
      ((parse bracketed).host, (parse bracketed).port) = ("fe80::", 6379) ∧
      (parse bracketed).busPort = 16379 := by
  intro zoned frame tail bare bracketed
  have hquad : Ipv6.IsQuad "192.0.2.1".toList := ⟨192, 0, 2, 1, by decide +kernel⟩
  have hlower : Ipv6.AreParts 3 ["FFFF".toList, "192.0.2.1".toList] :=
    .group (by decide) (.quad hquad)
  have hupper : ∀ group ∈ ["2001".toList, "db8".toList], Ipv6.IsGroup group := by decide
  have hzoned : Ipv6.IsText zoned :=
    .zoned (.compressed hupper hlower (by decide)) (by decide : "eth0".toList ≠ []) (by decide)
  have hsingle : ∀ group ∈ ["fe80".toList], Ipv6.IsGroup group := by decide
  have hended : Ipv6.IsText "fe80::".toList := .global (.compressed hsingle .nil (by decide))
  have hid : Text.IsWord ['n', '1'] := by decide
  have htail : ∀ c ∈ tail.head?, c = ' ' := by simp [tail]
  obtain ⟨hbare, hbareBus⟩ := parse_ipv6 frame hid hzoned 6379 16379 false htail
  obtain ⟨hbracketed, hbracketedBus⟩ := parse_ipv6 frame hid hended 6379 16379 true htail
  refine ⟨⟨by decide +kernel, hbare.trans ?_, hbareBus.trans ?_⟩, by decide +kernel,
    hbracketed.trans ?_, hbracketedBus.trans ?_⟩
  all_goals decide +kernel

/-- Without brackets, the client port is lost behind an address that ends in its double colon. -/
theorem parse_ne_ipv6 :
    let node := parse "n1 fe80:::6379@16379 master - 0 0 1 connected"
    Ipv6.IsText "fe80::".toList ∧
      String.ofList (lineAt ['n', '1'] (Ipv6.withPort "fe80::".toList 6379 false) 16379
        " master - 0 0 1 connected".toList) = "n1 fe80:::6379@16379 master - 0 0 1 connected" ∧
      node.host = "fe80:::6379" ∧ node.host ≠ "fe80::" ∧ node.port = 0 ∧ node.port ≠ 6379 := by
  intro node
  have hupper : ∀ group ∈ ["fe80".toList], Ipv6.IsGroup group := by decide
  refine ⟨.global (.compressed hupper .nil (by decide)), ?_⟩
  decide +kernel

end Node

end ClusterSteward
