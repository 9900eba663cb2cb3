/-
This file defines places in the text of a markup document.
-/

namespace ContactRules.Yaml

/-- These characters end a line. -/
def isBreak (character : Char) : Bool :=
  character = '\n' || character = '\r' || character.toNat = 0x85 || character.toNat = 0x2028 ||
    character.toNat = 0x2029

/-- Spaces and tabs separate words. -/
def isSpace (character : Char) : Bool :=
  character = ' ' || character = '\t'

def isSpaceOrBreak (character : Char) : Bool :=
  isSpace character || isBreak character

/-- A control character other than a tab or the end of a line may not stand in a document. -/
def isAllowed (character : Char) : Bool :=
  let code := character.toNat
  code = 0x09 || code = 0x0A || code = 0x0D || code = 0x85 ||
    0x20 ≤ code && code ≤ 0x7E || 0xA0 ≤ code && code ≤ 0xFFFD || 0x10000 ≤ code

/-- A cursor knows the text that follows it and where it stands. The index counts bytes, and the column
counts characters. -/
structure Cursor where
  rest : List Char
  index : Nat
  line : Nat
  column : Nat

namespace Cursor

def start (characters : List Char) : Cursor := ⟨characters, 0, 0, 0⟩

/-- This moves past one character, or past the end of a line. -/
def next (cursor : Cursor) : Cursor :=
  match cursor.rest with
  | [] => cursor
  | '\r' :: '\n' :: rest => ⟨rest, cursor.index + 2, cursor.line + 1, 0⟩
  | character :: rest =>
      if isBreak character then ⟨rest, cursor.index + character.utf8Size, cursor.line + 1, 0⟩
      else ⟨rest, cursor.index + character.utf8Size, cursor.line, cursor.column + 1⟩

/-- This moves past some characters of one line. -/
def skip (cursor : Cursor) (count : Nat) : Cursor :=
  let passed := (cursor.rest.take count).foldr (fun character size => character.utf8Size + size) 0
  ⟨cursor.rest.drop count, cursor.index + passed, cursor.line, cursor.column + count⟩

/-- The text ends here, or a space or the end of a line follows. -/
def endsWord : List Char → Bool
  | [] => true
  | character :: _ => isSpaceOrBreak character

/-- Three marks at the start of a line belong to no scalar. -/
def atDocumentMark (cursor : Cursor) : Bool :=
  cursor.column = 0 && (cursor.rest.take 3 = ['-', '-', '-'] || cursor.rest.take 3 = ['.', '.', '.']) &&
    endsWord (cursor.rest.drop 3)

end Cursor

end ContactRules.Yaml
