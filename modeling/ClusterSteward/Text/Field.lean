/-!
# Cutting text at a character

A field of a line ends at a fixed character. `cut` splits at the first occurrence and `cutLast` at
the last one; both drop the character itself, and `cutLastPart` drops a longer part. Main
statements: `cut_append` and `eq_of_cut`, which say that cutting undoes joining and loses nothing.
-/

namespace ClusterSteward.Text

/-- The parts of the text before and after the first `stop`, if it occurs. -/
def cut (stop : Char) : List Char → Option (List Char × List Char)
  | [] => none
  | c :: rest =>
      if c = stop then some ([], rest)
      else (cut stop rest).map fun (before, after) ↦ (c :: before, after)

/-- The parts of the text before and after the last `stop`, if it occurs. -/
def cutLast (stop : Char) : List Char → Option (List Char × List Char)
  | [] => none
  | c :: rest =>
      match cutLast stop rest with
      | some (before, after) => some (c :: before, after)
      | none => if c = stop then some ([], rest) else none

/-- The parts of the text before and after the last occurrence of `part`, if there is one. Occurrences may
overlap. -/
def cutLastPart (part : List Char) : List Char → Option (List Char × List Char)
  | [] => none
  | c :: rest =>
      match cutLastPart part rest with
      | some (before, after) => some (c :: before, after)
      | none =>
          if part.isPrefixOf (c :: rest) then some ([], (c :: rest).drop part.length) else none

/-- The text without the given opening, or the text itself when it does not start so. -/
def dropOpening (opening text : List Char) : List Char :=
  if opening.isPrefixOf text then text.drop opening.length else text

/-- Whether `part` occurs in the text as a consecutive piece. -/
def occursIn (part : List Char) : List Char → Bool
  | [] => part.isEmpty
  | c :: rest => part.isPrefixOf (c :: rest) || occursIn part rest

/-- Joining a part without `stop` to any rest and cutting gives both back. -/
theorem cut_append {stop : Char} {before : List Char} (after : List Char)
    (h : stop ∉ before) : cut stop (before ++ stop :: after) = some (before, after) := by
  induction before with
  | nil => simp [cut]
  | cons c before ih =>
      simp only [List.mem_cons, not_or] at h
      simp [cut, Ne.symm h.1, ih h.2]

/-- A cut loses nothing but the character at which it cuts, and cuts at its first occurrence. -/
theorem eq_of_cut {stop : Char} {text before after : List Char}
    (h : cut stop text = some (before, after)) :
    text = before ++ stop :: after ∧ stop ∉ before := by
  induction text generalizing before with
  | nil => simp [cut] at h
  | cons c rest ih =>
      simp only [cut] at h
      split at h
      next hc => simp at h; obtain ⟨rfl, rfl⟩ := h; simp [hc]
      next hc =>
        simp only [Option.map_eq_some_iff, Prod.mk.injEq] at h
        obtain ⟨⟨head, tail⟩, hcut, rfl, rfl⟩ := h
        obtain ⟨rfl, hmem⟩ := ih hcut
        exact ⟨rfl, by simp [Ne.symm hc, hmem]⟩

end ClusterSteward.Text
