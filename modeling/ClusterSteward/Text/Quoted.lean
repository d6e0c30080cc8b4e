import ClusterSteward.Text.Invisible

/-!
# Quoted text

Texts as they are shown inside messages: between double quotes, with the characters that a reader
could not see or would take for the closing quote written by an escape.
-/

namespace ClusterSteward.Text

/-- The lower-case hexadecimal digits of a number. -/
def hexadecimal (value : Nat) : List Char :=
  Nat.toDigits 16 value

/-- A character as it stands inside quotes. -/
def escapeChar (c : Char) : List Char :=
  match c with
  | '\x00' => ['\\', '0']
  | '\t' => ['\\', 't']
  | '\n' => ['\\', 'n']
  | '\r' => ['\\', 'r']
  | '"' => ['\\', '"']
  | '\\' => ['\\', '\\']
  | c => if isInvisible c then "\\u\x7b".toList ++ hexadecimal c.toNat ++ ['\x7d'] else [c]

/-- The text between double quotes. -/
def quoted (text : String) : String :=
  "\"" ++ String.ofList (text.toList.flatMap escapeChar) ++ "\""

/-- The texts between double quotes, in brackets and separated by commas. -/
def quotedList (texts : List String) : String :=
  "[" ++ ", ".intercalate (texts.map quoted) ++ "]"

end ClusterSteward.Text
