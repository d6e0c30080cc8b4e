/-!
# UTF-8

Encoding text as bytes, and decoding bytes that need not be well formed. Decoding is one pass of a
machine over the bytes: between characters it is idle, inside one it knows which bytes may come
next. Each longest beginning of a character that cannot be completed becomes one U+FFFD. Main
statements: `decodeFrom_append`, which says that a text may be decoded piece by piece if the
machine's state is kept, and `after_append_ascii`, which says that an ASCII byte leaves it idle.
-/

namespace ClusterSteward.Text.Utf8

/-- The character that stands for undecodable bytes. -/
def replacement : Char := '\uFFFD'

/-- Which bytes may continue an unfinished character: any continuation byte, or only those that
keep the character out of a shorter form, out of the surrogates, or below the last code. -/
inductive Continuation where
  | any
  | fromA0
  | upTo9F
  | from90
  | upTo8F
  deriving DecidableEq, Repr

/-- Whether the byte may come next. -/
def Continuation.admits (continuation : Continuation) (byte : UInt8) : Bool :=
  let code := byte.toNat
  match continuation with
  | .any => 0x80 ≤ code && code ≤ 0xBF
  | .fromA0 => 0xA0 ≤ code && code ≤ 0xBF
  | .upTo9F => 0x80 ≤ code && code ≤ 0x9F
  | .from90 => 0x90 ≤ code && code ≤ 0xBF
  | .upTo8F => 0x80 ≤ code && code ≤ 0x8F

/-- An unfinished character: how many bytes it still needs, which of them may come next, and the
bits read so far. -/
structure Partial where
  missing : Nat
  next : Continuation
  bits : Nat
  deriving DecidableEq, Repr

/-- The state between characters is `none`; inside one it is what the character still needs. -/
abbrev State := Option Partial

/-- The characters completed by a byte that starts a character, and the state after it. -/
def start (byte : UInt8) : List Char × State :=
  let code := byte.toNat
  if code < 0x80 then ([Char.ofNat code], none)
  -- these are continuation bytes, and two bytes that only start forms longer than needed
  else if code < 0xC2 then ([replacement], none)
  else if code < 0xE0 then ([], some ⟨1, .any, code - 0xC0⟩)
  else if code = 0xE0 then ([], some ⟨2, .fromA0, 0⟩)
  else if code = 0xED then ([], some ⟨2, .upTo9F, 0xD⟩)
  else if code < 0xF0 then ([], some ⟨2, .any, code - 0xE0⟩)
  else if code = 0xF0 then ([], some ⟨3, .from90, 0⟩)
  else if code < 0xF4 then ([], some ⟨3, .any, code - 0xF0⟩)
  else if code = 0xF4 then ([], some ⟨3, .upTo8F, 4⟩)
  else ([replacement], none)

/-- The characters completed by one byte, and the state after it. A byte that cannot continue an
unfinished character ends it as undecodable and starts afresh. -/
def step (state : State) (byte : UInt8) : List Char × State :=
  match state with
  | none => start byte
  | some unfinished =>
      if unfinished.next.admits byte then
        let bits := unfinished.bits * 64 + (byte.toNat - 0x80)
        if unfinished.missing ≤ 1 then ([Char.ofNat bits], none)
        else ([], some ⟨unfinished.missing - 1, .any, bits⟩)
      else (replacement :: (start byte).1, (start byte).2)

/-- What the end of the bytes adds: an unfinished character is undecodable. -/
def finish : State → List Char
  | none => []
  | some _ => [replacement]

/-- The characters completed by the bytes, and the state after them. -/
def run (state : State) : List UInt8 → List Char × State
  | [] => ([], state)
  | byte :: rest =>
      let (first, next) := step state byte
      let (more, last) := run next rest
      (first ++ more, last)

/-- The text of the bytes read from the given state up to their end. -/
def decodeFrom (state : State) (bytes : List UInt8) : List Char :=
  (run state bytes).1 ++ finish (run state bytes).2

/-- The text of the bytes. -/
def decode (bytes : List UInt8) : List Char :=
  decodeFrom none bytes

/-- The bytes of the text. -/
def encode (text : List Char) : List UInt8 :=
  text.flatMap String.utf8EncodeChar

/-- A run over joined bytes is a run over the first part and then over the second. -/
theorem run_append (state : State) (left right : List UInt8) :
    run state (left ++ right) =
      ((run state left).1 ++ (run (run state left).2 right).1, (run (run state left).2 right).2) := by
  induction left generalizing state with
  | nil => simp [run]
  | cons byte rest ih => simp [run, ih]

/-- Joined bytes may be decoded piece by piece if the state is kept. -/
theorem decodeFrom_append (state : State) (left right : List UInt8) :
    decodeFrom state (left ++ right) =
      (run state left).1 ++ decodeFrom (run state left).2 right := by
  simp [decodeFrom, run_append]

/-- An ASCII byte continues no character. -/
theorem Continuation.not_admits_ascii (continuation : Continuation) {byte : UInt8}
    (hascii : byte.toNat < 0x80) : continuation.admits byte = false := by
  cases continuation <;> simp [admits] <;> omega

/-- An ASCII byte leaves the machine between characters. -/
theorem after_append_ascii (state : State) (bytes : List UInt8) {byte : UInt8}
    (hascii : byte.toNat < 0x80) : (run state (bytes ++ [byte])).2 = none := by
  rw [run_append]
  cases (run state bytes).2 <;>
    simp [run, step, start, hascii, Continuation.not_admits_ascii]

end ClusterSteward.Text.Utf8
