/-
This file writes texts in quotation marks, as messages show them.
-/

import ContactRules.Text.Hidden

namespace ContactRules.Text

/-- This is a code point in hexadecimal digits without leading zeros. -/
def hexadecimal (code : Nat) : String :=
  String.ofList (Nat.toDigits 16 code)

/-- A character that cannot be shown as it stands is written by an escape. -/
def quotedCharacter (character : Char) : List Char :=
  match character with
  | '\x00' => ['\\', '0']
  | '\t' => ['\\', 't']
  | '\n' => ['\\', 'n']
  | '\r' => ['\\', 'r']
  | '\\' => ['\\', '\\']
  | '"' => ['\\', '"']
  | other =>
      if isHidden other then
        ("\\u\x7b" ++ hexadecimal other.toNat ++ "\x7d").toList
      else [other]

/-- This is a text between quotation marks. -/
def quoted (text : String) : String :=
  String.ofList ('"' :: text.toList.flatMap quotedCharacter ++ ['"'])

end ContactRules.Text
