import Mathlib
import ClusterSteward.Prompt.Reaction
import ClusterSteward.Proofs.Text.Utf8
import ClusterSteward.Proofs.Text.Words

/-!
# Which tokens are answered

A token is answered when a trigger of the table occurs in its text. Main statements:
`respond_of_silent`, by which nothing is answered in a text without triggers, and `respond_congr`, by
which two tokens in which the same triggers occur get the same answer.
-/

namespace ClusterSteward

/-- A part occurs in a text when it is a consecutive piece of it. -/
theorem Text.occursIn_iff {part text : List Char} :
    Text.occursIn part text = true ↔ part <:+: text := by
  induction text with
  | nil => rw [Text.occursIn, List.isEmpty_iff, List.infix_nil]
  | cons c text ih =>
      rw [Text.occursIn, Bool.or_eq_true, ih, List.infix_cons_iff, List.isPrefixOf_iff_prefix]

/-- A part without blanks at its ends occurs in a text exactly when it occurs in what trimming leaves
of it. -/
theorem Text.infix_trim_iff {part text : List Char} (hhead : ∀ c ∈ part.head?, isBlank c = false)
    (hlast : ∀ c ∈ part.getLast?, isBlank c = false) : part <:+: trim text ↔ part <:+: text := by
  refine ⟨fun h => h.trans <| trim_infix text, ?_⟩
  rintro ⟨before, after, rfl⟩
  by_cases hne : part = []
  · subst hne
    exact List.nil_infix
  -- whatever is trimmed of what stands around the part, the part stays
  have hstart : ∃ kept, trimStart (before ++ part ++ after) = kept ++ part ++ after := by
    have hpart : trimStart (part ++ after) = part ++ after := by
      refine trimStart_eq_self fun c hc => ?_
      rw [List.head?_append_of_ne_nil _ hne] at hc
      exact hhead c hc
    rw [List.append_assoc, trimStart, List.dropWhile_append]
    split
    next => exact ⟨[], hpart⟩
    next => exact ⟨_, (List.append_assoc ..).symm⟩
  obtain ⟨kept, hkept⟩ := hstart
  rw [trim, hkept, trimEnd_append]
  split
  next =>
    have hend : trimEnd (kept ++ part) = kept ++ part := by
      refine trimEnd_eq_self fun c hc => ?_
      rw [List.getLast?_append_of_ne_nil _ hne] at hc
      exact hlast c hc
    rw [hend]
    exact (List.suffix_append kept part).isInfix
  next => exact List.infix_append kept part _

/-- A part that neither begins within the opening of a text nor occurs in it is in the text behind the
opening if it is in the text. -/
theorem Text.infix_of_apart {opening part text : List Char}
    (h : ∀ tail ∈ opening.tails, tail ≠ [] → ¬ tail <+: part ∧ ¬ part <+: tail)
    (hpart : part <:+: opening ++ text) : part <:+: text := by
  induction opening with
  | nil => exact hpart
  | cons c opening ih =>
      obtain ⟨hbegins, hoccurs⟩ := h (c :: opening) (by simp) (List.cons_ne_nil _ _)
      have hrest : ∀ tail ∈ opening.tails, tail ≠ [] → ¬ tail <+: part ∧ ¬ part <+: tail :=
        fun tail htail => h tail (by simp [htail])
      rcases List.infix_cons_iff.1 hpart with hstart | hlater
      · rcases List.prefix_or_prefix_of_prefix hstart (List.prefix_append (c :: opening) text) with
          hpart | hopening
        · exact absurd hpart hoccurs
        · exact absurd hopening hbegins
      · exact ih hrest hlater

namespace Prompt

/-- No trigger of the table occurs in the text. -/
def Silent (reactions : List Reaction) (text : List Char) : Prop :=
  ∀ reaction ∈ reactions, ¬ reaction.trigger.toList <:+: text

/-- Whether a text has triggers is decided entry by entry. -/
instance (reactions : List Reaction) (text : List Char) : Decidable (Silent reactions text) :=
  List.decidableBAll (fun reaction : Reaction ↦ ¬ reaction.trigger.toList <:+: text) reactions

variable {reactions : List Reaction} {text part : List Char}

/-- A piece of a text without triggers has no triggers. -/
theorem Silent.of_infix (h : Silent reactions text) (hpart : part <:+: text) :
    Silent reactions part :=
  fun reaction hreaction htrigger => h reaction hreaction (htrigger.trans hpart)

/-- A text without triggers may be cut before and after an ASCII byte. -/
theorem Silent.of_ascii {left right : List UInt8} {byte : UInt8} (hascii : byte.toNat < 0x80)
    (h : Silent reactions (Text.Utf8.decode (left ++ byte :: right))) :
    Silent reactions (Text.Utf8.decode left) ∧
      Silent reactions (Text.Utf8.decode (left ++ [byte])) ∧
      Silent reactions (Text.Utf8.decode right) := by
  rw [List.append_cons, Text.Utf8.decode_append_of_ascii _ hascii] at h
  have hbefore : Silent reactions (Text.Utf8.decode (left ++ [byte])) :=
    h.of_infix (List.infix_append' [] _ _)
  refine ⟨?_, hbefore, h.of_infix (List.suffix_append _ _).isInfix⟩
  rw [Text.Utf8.decode_append_cons left [] hascii] at hbefore
  exact hbefore.of_infix (List.infix_append' [] _ _)

/-- The triggers of the table are not empty and have no blanks at their ends. -/
def Trimmed (reactions : List Reaction) : Prop :=
  ∀ reaction ∈ reactions, reaction.trigger.toList ≠ [] ∧
    (∀ c ∈ reaction.trigger.toList.head?, Text.isBlank c = false) ∧
    ∀ c ∈ reaction.trigger.toList.getLast?, Text.isBlank c = false

/-- Tokens in which the same triggers occur get the same answer. -/
theorem Reaction.respond_congr {left right : Token} (htrimmed : Trimmed reactions)
    (h : ∀ reaction ∈ reactions,
      reaction.trigger.toList <:+: left.text ↔ reaction.trigger.toList <:+: right.text) :
    Reaction.respond reactions left = Reaction.respond reactions right := by
  rw [Reaction.respond, Reaction.respond, List.find?_congr]
  intro reaction hreaction
  obtain ⟨-, hhead, hlast⟩ := htrimmed reaction hreaction
  rw [Bool.eq_iff_iff, recognises, recognises, Text.occursIn_iff, Text.occursIn_iff,
    Text.infix_trim_iff hhead hlast, Text.infix_trim_iff hhead hlast]
  exact h reaction hreaction

/-- A token without triggers is not answered. -/
theorem Reaction.respond_of_silent {token : Token} (h : Silent reactions token.text) :
    Reaction.respond reactions token = none := by
  have hnone : reactions.find? (·.recognises (Text.trim token.text)) = none := by
    refine List.find?_eq_none.2 fun reaction hreaction hfound => ?_
    exact h reaction hreaction ((Text.occursIn_iff.1 hfound).trans (Text.trim_infix _))
  rw [Reaction.respond, hnone]
  rfl

end Prompt

end ClusterSteward
