/-
This file writes values as the text of a document.
-/

import ContactRules.Json.Value
import ContactRules.Text.Quoted

namespace ContactRules.Json

/-- This is the escape of a code point in four hexadecimal digits. -/
def unicodeEscape (code : Nat) : String :=
  let digits := Text.hexadecimal code
  "\\u" ++ String.ofList (List.replicate (4 - digits.length) '0') ++ digits

/-- Marks and controls are escaped; other characters stand as they are. -/
def escapedCharacter (character : Char) : String :=
  match character with
  | '"' => "\\\""
  | '\\' => "\\\\"
  | '\x08' => "\\b"
  | '\x0c' => "\\f"
  | '\n' => "\\n"
  | '\r' => "\\r"
  | '\t' => "\\t"
  | other =>
      if other.toNat < 0x20 then unicodeEscape other.toNat else String.singleton other

/-- These characters end a line although they are no controls of ASCII. -/
def endsLine (character : Char) : Bool :=
  character.toNat == 0x85 || character.toNat == 0x2028 || character.toNat == 0x2029

/-- A text in one line has no character that ends a line. -/
def escapedInLine (character : Char) : String :=
  if endsLine character then unicodeEscape character.toNat else escapedCharacter character

/-- This is a text between its marks. -/
def writeText (escape : Char → String) (content : String) : String :=
  content.foldl (fun written character => written ++ escape character) "\"" ++ "\""

namespace Value

mutual

/-- This appends a value to what has been written, all in one line. -/
def writeLine (written : String) : Value → String
  | .null => written ++ "null"
  | .bool truth => written ++ (if truth then "true" else "false")
  | .number content => written ++ content.text
  | .text content => written ++ writeText escapedInLine content
  | .list items => writeItems (written ++ "[") "" items ++ "]"
  | .object fields => writeFields (written ++ "\x7b") "" fields ++ "\x7d"

def writeItems (written separator : String) : List Value → String
  | [] => written
  | item :: rest => writeItems (writeLine (written ++ separator) item) "," rest

def writeFields (written separator : String) : List (String × Value) → String
  | [] => written
  | field :: rest =>
      writeFields
        (writeLine (written ++ separator ++ writeText escapedInLine field.1 ++ ":") field.2) "," rest

end

/-- This is a value in one line. -/
def line (value : Value) : String := writeLine "" value

/-- Each level is indented by two spaces. -/
def lineBreak (level : Nat) : String :=
  "\n" ++ String.ofList (List.replicate (2 * level) ' ')

mutual

/-- This appends a value, one item or field in a line. An empty list or object stays in its line. -/
def writePage (level : Nat) (written : String) : Value → String
  | .null => written ++ "null"
  | .bool truth => written ++ (if truth then "true" else "false")
  | .number content => written ++ content.text
  | .text content => written ++ writeText escapedCharacter content
  | .list [] => written ++ "[]"
  | .list (item :: rest) =>
      writePageItems (level + 1) (writePage (level + 1) (written ++ "[" ++ lineBreak (level + 1)) item) rest ++
        lineBreak level ++ "]"
  | .object [] => written ++ "\x7b\x7d"
  | .object (field :: rest) =>
      writePageFields (level + 1)
        (writePage (level + 1)
          (written ++ "\x7b" ++ lineBreak (level + 1) ++ writeText escapedCharacter field.1 ++ ": ")
          field.2) rest ++
        lineBreak level ++ "\x7d"

/-- These items follow another one. -/
def writePageItems (level : Nat) (written : String) : List Value → String
  | [] => written
  | item :: rest =>
      writePageItems level (writePage level (written ++ "," ++ lineBreak level) item) rest

/-- These fields follow another one. -/
def writePageFields (level : Nat) (written : String) : List (String × Value) → String
  | [] => written
  | field :: rest =>
      writePageFields level
        (writePage level
          (written ++ "," ++ lineBreak level ++ writeText escapedCharacter field.1 ++ ": ") field.2) rest

end

/-- This is a value over several lines. -/
def page (value : Value) : String := writePage 0 "" value

end Value

end ContactRules.Json
