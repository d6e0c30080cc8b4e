import Mathlib
import ClusterSteward.Text.Utf8

/-!
# ASCII bytes in UTF-8

An ASCII byte stands for one character wherever it occurs. Bytes may therefore be decoded apart at
such a byte, and it is among the bytes of a text exactly when its character is in the text. Main
statements: `decode_append_of_ascii` and `decode_append_cons`, which decode bytes apart,
`map_toNat_encode`, by which a text of ASCII bytes is read off them, and
`exists_byte_of_mem_decode`, by which decoding makes up no ASCII character.
-/

namespace ClusterSteward.Text.Utf8

variable {left right : List UInt8} {byte : UInt8} {text : List Char}

/-- Bytes may be decoded apart behind an ASCII byte. -/
theorem decode_append_of_ascii (right : List UInt8) (hascii : byte.toNat < 0x80) :
    decode (left ++ [byte] ++ right) = decode (left ++ [byte]) ++ decode right := by
  have hafter := after_append_ascii none left hascii
  have hleft : decode (left ++ [byte]) = (run none (left ++ [byte])).1 := by
    rw [decode, decodeFrom, hafter, finish, List.append_nil]
  rw [hleft, decode, decodeFrom_append, hafter]
  rfl

/-- Bytes that end in an ASCII byte are decoded apart from those behind them. -/
theorem decode_append_of_getLast? (right : List UInt8) (hlast : left.getLast? = some byte)
    (hascii : byte.toNat < 0x80) : decode (left ++ right) = decode left ++ decode right := by
  obtain ⟨before, rfl⟩ := List.getLast?_eq_some_iff.1 hlast
  exact decode_append_of_ascii right hascii

/-- Bytes may be decoded apart before an ASCII byte. -/
theorem decode_append_cons (left right : List UInt8) (hascii : byte.toNat < 0x80) :
    decode (left ++ byte :: right) = decode left ++ decode (byte :: right) := by
  have hstart : ∀ state, decodeFrom state (byte :: right) =
      finish state ++ decodeFrom none (byte :: right) := by
    intro state
    cases state with
    | none => rfl
    | some unfinished =>
        simp [decodeFrom, run, step, finish, Continuation.not_admits_ascii _ hascii]
  rw [decode, decodeFrom_append, hstart, ← List.append_assoc]
  rfl

/-- A character with an ASCII byte among its bytes is the character of that byte. -/
theorem eq_of_mem_utf8EncodeChar {c : Char} (hmem : byte ∈ String.utf8EncodeChar c)
    (hascii : byte.toNat < 0x80) : String.utf8EncodeChar c = [byte] ∧ byte.toNat = c.toNat := by
  have hhigh : ∀ number : Nat, 0x80 ≤ number → number < 0x100 → byte ≠ UInt8.ofNat number := by
    rintro number hle hlt rfl
    rw [UInt8.toNat_ofNat_of_lt' hlt] at hascii
    omega
  by_cases hsmall : c.val.toNat ≤ 0x7F
  · have hbytes : String.utf8EncodeChar c = [UInt8.ofNat c.val.toNat] := if_pos hsmall
    rw [hbytes, List.mem_singleton] at hmem
    refine ⟨by rw [hbytes, hmem], ?_⟩
    rw [hmem, UInt8.toNat_ofNat_of_lt' (Nat.lt_of_le_of_lt hsmall (by decide))]
    rfl
  · -- every byte of a longer form is a leading or a continuation byte
    exfalso
    unfold String.utf8EncodeChar at hmem
    simp only [hsmall, if_false] at hmem
    split at hmem
    next =>
      simp only [List.mem_cons, List.not_mem_nil, or_false] at hmem
      grind
    next =>
      split at hmem <;> simp only [List.mem_cons, List.not_mem_nil, or_false] at hmem <;> grind

/-- A character that is not in a text brings no byte of its own into it. -/
theorem not_mem_encode (hascii : byte.toNat < 0x80) (h : ∀ c ∈ text, c.toNat ≠ byte.toNat) :
    byte ∉ encode text := by
  intro hmem
  obtain ⟨c, hc, hbyte⟩ := List.mem_flatMap.1 hmem
  exact h c hc (eq_of_mem_utf8EncodeChar hbyte hascii).2.symm

/-- A text without newlines has none in its bytes. -/
theorem newline_not_mem_encode (h : '\n' ∉ text) : 0x0A ∉ encode text := by
  refine not_mem_encode (by decide) fun c hc heq => h ?_
  have hnewline : c = '\n' := Char.ext (UInt32.toNat_inj.1 heq)
  exact hnewline ▸ hc

/-- Bytes of ASCII characters only. -/
def Ascii (bytes : List UInt8) : Prop :=
  ∀ byte ∈ bytes, byte.toNat < 0x80

/-- Whether bytes are ASCII is decided byte by byte. -/
instance (bytes : List UInt8) : Decidable (Ascii bytes) :=
  List.decidableBAll (fun byte : UInt8 ↦ byte.toNat < 0x80) bytes

/-- A text whose bytes are ASCII is read off them. -/
theorem map_toNat_encode (hascii : Ascii (encode text)) :
    (encode text).map UInt8.toNat = text.map Char.toNat := by
  induction text with
  | nil => rfl
  | cons c text ih =>
      have hencode : encode (c :: text) = String.utf8EncodeChar c ++ encode text := rfl
      rw [hencode] at hascii ⊢
      obtain ⟨byte, bytes, hbytes⟩ :=
        List.exists_cons_of_ne_nil (String.utf8EncodeChar_ne_nil (c := c))
      have hmem : byte ∈ String.utf8EncodeChar c := hbytes ▸ List.mem_cons_self
      obtain ⟨hsingle, hcode⟩ := eq_of_mem_utf8EncodeChar hmem
        (hascii byte (List.mem_append_left _ hmem))
      rw [hsingle, List.map_append, List.map_cons, List.map_cons, hcode,
        ih fun byte hbyte => hascii byte (List.mem_append_right _ hbyte)]
      rfl

/-! ## ASCII characters in decoded text -/

variable {state : State} {bytes : List UInt8} {c : Char}

/-- The least offset that the next byte of an unfinished character may have. -/
def Continuation.leastOffset : Continuation → Nat
  | any => 0
  | fromA0 => 0x20
  | upTo9F => 0
  | from90 => 0x10
  | upTo8F => 0

/-- A byte that may come next is offset by no less than the least offset. -/
theorem Continuation.leastOffset_le {continuation : Continuation}
    (h : continuation.admits byte = true) : continuation.leastOffset ≤ byte.toNat - 0x80 := by
  cases continuation <;> simp only [admits, Bool.and_eq_true, decide_eq_true_eq] at h <;>
    simp only [leastOffset] <;> omega

/-- The least code that an unfinished character may come to. -/
def Partial.leastCode (unfinished : Partial) : Nat :=
  (unfinished.bits * 64 + unfinished.next.leastOffset) * 64 ^ (unfinished.missing - 1)

/-- A byte in the middle of a character does not lower its least code. -/
theorem Partial.leastCode_le {unfinished : Partial} {offset : Nat}
    (hmissing : ¬ unfinished.missing ≤ 1) (hoffset : unfinished.next.leastOffset ≤ offset) :
    unfinished.leastCode ≤
      leastCode ⟨unfinished.missing - 1, .any, unfinished.bits * 64 + offset⟩ := by
  obtain ⟨missing, hsucc⟩ : ∃ missing, unfinished.missing = missing + 2 :=
    ⟨unfinished.missing - 2, by omega⟩
  have hpower : 64 ^ (unfinished.missing - 1) = 64 * 64 ^ (unfinished.missing - 1 - 1) := by
    simp only [hsucc, Nat.add_sub_cancel, Nat.reduceSubDiff, Nat.pow_succ']
  have hany : Continuation.any.leastOffset = 0 := rfl
  simp only [leastCode, hpower, hany, Nat.add_zero, ← Nat.mul_assoc]
  exact Nat.mul_le_mul_right _ (Nat.mul_le_mul_right _ (Nat.add_le_add_left hoffset _))

/-- The machine is between characters, or inside one that comes to no ASCII code. -/
def BeyondAscii (state : State) : Prop :=
  ∀ unfinished ∈ state, 0x80 ≤ unfinished.leastCode

/-- A byte that starts a character is ASCII and is that character, or undecodable, or the start of a
character beyond ASCII. -/
theorem start_cases (byte : UInt8) :
    (byte.toNat < 0x80 ∧ start byte = ([Char.ofNat byte.toNat], none)) ∨
      start byte = ([replacement], none) ∨
      ∃ unfinished, start byte = ([], some unfinished) ∧ 0x80 ≤ unfinished.leastCode := by
  simp only [start]
  repeat' split
  next hascii => exact .inl ⟨hascii, rfl⟩
  next => exact .inr (.inl rfl)
  all_goals first
    | exact .inr (.inl rfl)
    | refine .inr (.inr ⟨_, rfl, ?_⟩)
      simp only [Partial.leastCode, Continuation.leastOffset]
      omega

/-- The character of a number has that code, unless no character has it. -/
theorem toNat_ofNat (code : Nat) :
    (Char.ofNat code).toNat = code ∨ (Char.ofNat code).toNat = 0 := by
  rw [Char.ofNat]
  split
  next => exact .inl rfl
  next => exact .inr rfl

/-- Between characters there is nothing that could come to an ASCII code. -/
theorem beyondAscii_none : BeyondAscii none :=
  nofun

/-- A byte that starts a character starts one beyond ASCII, if it does not complete it. -/
theorem beyondAscii_start (byte : UInt8) : BeyondAscii (start byte).2 := by
  rcases start_cases byte with ⟨-, h⟩ | h | ⟨unfinished, h, hleast⟩ <;> rw [h]
  · exact beyondAscii_none
  · exact beyondAscii_none
  · rintro _ ⟨⟩
    exact hleast

/-- An ASCII character that a byte completes by itself is that byte. -/
theorem toNat_of_mem_start (hc : c ∈ (start byte).1) (hascii : c.toNat < 0x80)
    (hnul : c.toNat ≠ 0) : byte.toNat = c.toNat := by
  rcases start_cases byte with ⟨-, h⟩ | h | ⟨unfinished, h, -⟩ <;> rw [h] at hc
  · obtain rfl := List.mem_singleton.1 hc
    exact ((toNat_ofNat byte.toNat).resolve_right hnul).symm
  · obtain rfl := List.mem_singleton.1 hc
    exact absurd hascii (by decide)
  · cases hc

/-- What a byte leaves unfinished is beyond ASCII. -/
theorem BeyondAscii.step (h : BeyondAscii state) (byte : UInt8) :
    BeyondAscii (step state byte).2 := by
  cases state with
  | none => exact beyondAscii_start byte
  | some unfinished =>
      have hleast := h unfinished rfl
      rw [Utf8.step]
      split
      next hadmits =>
        have hoffset := Continuation.leastOffset_le hadmits
        split
        next => exact beyondAscii_none
        next hmissing =>
          rintro _ ⟨⟩
          exact Nat.le_trans hleast (Partial.leastCode_le hmissing hoffset)
      next => exact beyondAscii_start byte

/-- An ASCII character that a byte completes is that byte. -/
theorem BeyondAscii.toNat_of_mem_step (h : BeyondAscii state) (hc : c ∈ (Utf8.step state byte).1)
    (hascii : c.toNat < 0x80) (hnul : c.toNat ≠ 0) : byte.toNat = c.toNat := by
  cases state with
  | none => exact toNat_of_mem_start hc hascii hnul
  | some unfinished =>
      have hleast := h unfinished rfl
      rw [Utf8.step] at hc
      split at hc
      next hadmits =>
        have hoffset := Continuation.leastOffset_le hadmits
        split at hc
        next hmissing =>
          -- the last byte of a longer form completes a code of more than seven bits
          have hlast : unfinished.missing - 1 = 0 := by omega
          rw [Partial.leastCode, hlast, Nat.pow_zero, Nat.mul_one] at hleast
          have hcode : 0x80 ≤ unfinished.bits * 64 + (byte.toNat - 0x80) :=
            Nat.le_trans hleast (Nat.add_le_add_left hoffset _)
          rw [List.mem_singleton.1 hc, (toNat_ofNat _).resolve_right] at hascii
          · exact absurd hascii (Nat.not_lt.2 hcode)
          · rwa [List.mem_singleton.1 hc] at hnul
        next => cases hc
      next =>
        rcases List.mem_cons.1 hc with rfl | hc
        · exact absurd hascii (by decide)
        · exact toNat_of_mem_start hc hascii hnul

/-- An ASCII character of decoded bytes other than NUL is one of the bytes. -/
theorem exists_byte_of_mem_decode (hc : c ∈ decode bytes) (hascii : c.toNat < 0x80)
    (hnul : c.toNat ≠ 0) : ∃ byte ∈ bytes, byte.toNat = c.toNat := by
  have hstart := beyondAscii_none
  rw [decode] at hc
  generalize none = state at hc hstart
  induction bytes generalizing state with
  | nil =>
      cases state with
      | none => cases hc
      | some unfinished =>
          obtain rfl := List.mem_singleton.1 hc
          exact absurd hascii (by decide)
  | cons byte bytes ih =>
      have hsplit : decodeFrom state (byte :: bytes) =
          (Utf8.step state byte).1 ++ decodeFrom (Utf8.step state byte).2 bytes := by
        simp [decodeFrom, run]
      rw [hsplit] at hc
      rcases List.mem_append.1 hc with hfirst | hlater
      · exact ⟨byte, List.mem_cons_self, hstart.toNat_of_mem_step hfirst hascii hnul⟩
      · obtain ⟨other, hmem, hother⟩ := ih _ hlater (hstart.step byte)
        exact ⟨other, List.mem_cons_of_mem _ hmem, hother⟩

end ClusterSteward.Text.Utf8
