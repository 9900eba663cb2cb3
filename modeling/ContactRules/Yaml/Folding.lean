/-
This file reads scalars, whose lines are folded into one.
-/

import ContactRules.Yaml.Cursor
import ContactRules.Yaml.Scalar

namespace ContactRules.Yaml

/-- A gap between words holds spaces, or the ends of lines. Spaces beside the end of a line are dropped. -/
structure Gap where
  spaces : List Char
  firstBreak : Option Char
  otherBreaks : List Char

namespace Gap

def empty : Gap := ⟨[], none, []⟩

def hasBreak (gap : Gap) : Bool := gap.firstBreak.isSome

/-- Most ends of lines are written alike. -/
def written (character : Char) : Char :=
  if character.toNat = 0x2028 ∨ character.toNat = 0x2029 then character else '\n'

def addBreak (gap : Gap) (character : Char) : Gap :=
  match gap.firstBreak with
  | none => ⟨[], some (written character), gap.otherBreaks⟩
  | some _ => { gap with otherBreaks := gap.otherBreaks ++ [written character] }

/-- One end of a line stands for a space, and of several the first is dropped. -/
def text (gap : Gap) : List Char :=
  match gap.firstBreak with
  | none => gap.spaces
  | some '\n' => if gap.otherBreaks.isEmpty then [' '] else gap.otherBreaks
  | some character => character :: gap.otherBreaks

end Gap

/-- This reads a gap. Where a scalar has to be indented, no tab may stand in place of its indentation. -/
def readGap (indent : Option Nat) : Nat → Gap → Cursor → Option (Gap × Cursor)
  | 0, gap, cursor => some (gap, cursor)
  | bound + 1, gap, cursor =>
      match cursor.rest with
      | [] => some (gap, cursor)
      | character :: _ =>
          if isSpace character then
            if gap.hasBreak then
              if character = '\t' ∧ indent.any (cursor.column < ·) then none
              else readGap indent bound gap cursor.next
            else readGap indent bound { gap with spaces := gap.spaces ++ [character] } cursor.next
          else if isBreak character then readGap indent bound (gap.addBreak character) cursor.next
          else some (gap, cursor)

/-- These characters have a meaning inside brackets. -/
def isFlowMark (character : Char) : Bool :=
  [',', '[', ']', '\x7b', '\x7d'].contains character

/-- A word of a plain scalar ends before a colon that ends a word, and inside brackets before a mark. A
colon directly before a mark is refused there. -/
def plainWord (inBrackets : Bool) : List Char → Option (List Char)
  | [] => some []
  | character :: rest =>
      if isSpaceOrBreak character then some []
      else if inBrackets && character = ':' &&
          rest.head?.any (fun following => isFlowMark following || following = '?') then none
      else if character = ':' && Cursor.endsWord rest then some []
      else if inBrackets && isFlowMark character then some []
      else (plainWord inBrackets rest).map (character :: ·)

/-- A scalar that has been read, and whether the reader has passed to another line after it. -/
structure Folded where
  content : List Char
  cursor : Cursor
  passedBreak : Bool

/-- A plain scalar goes on over further lines as long as they are indented. Inside brackets they need not
be. -/
def readPlain (inBrackets : Bool) (indent : Nat) : Nat → List Char → Gap → Cursor → Option Folded
  | 0, _, _, _ => none
  | bound + 1, content, gap, cursor =>
      if cursor.atDocumentMark || cursor.rest.head? = some '#' then
        some ⟨content, cursor, gap.hasBreak⟩
      else do
        let word ← plainWord inBrackets cursor.rest
        let finished := if word.isEmpty then content else content ++ gap.text ++ word
        let passedBreak := word.isEmpty && gap.hasBreak
        let after := cursor.skip word.length
        if after.rest.head?.any isSpaceOrBreak then
          let (gap, beyond) ← readGap (some indent) after.rest.length Gap.empty after
          if !inBrackets && beyond.column < indent then some ⟨finished, beyond, gap.hasBreak⟩
          else readPlain inBrackets indent bound finished gap beyond
        else some ⟨finished, after, passedBreak⟩

/-- These characters stand for others after a backslash. -/
def escapes : List (Char × Nat) :=
  [('0', 0x00), ('a', 0x07), ('b', 0x08), ('t', 0x09), ('\t', 0x09), ('n', 0x0A), ('v', 0x0B),
    ('f', 0x0C), ('r', 0x0D), ('e', 0x1B), (' ', 0x20), ('"', 0x22), ('/', 0x2F), ('\\', 0x5C),
    ('N', 0x85), ('_', 0xA0), ('L', 0x2028), ('P', 0x2029)]

/-- This is the number of hexadecimal digits that follow a letter after a backslash. -/
def codeLength? : Char → Option Nat
  | 'x' => some 2
  | 'u' => some 4
  | 'U' => some 8
  | _ => none

/-- This is the character that is written after a backslash, and the number of characters it takes. -/
def escaped? : List Char → Option (Char × Nat)
  | [] => none
  | letter :: rest =>
      match codeLength? letter with
      | some length => do
          let digits := rest.take length
          let code ← if digits.length = length then Scalar.natural? 16 digits else none
          if code.isValidChar then some (Char.ofNat code, length + 1) else none
      | none => (escapes.lookup letter).map fun code => (Char.ofNat code, 1)

/-- This reads a word between single quotation marks. A mark inside is written twice. -/
def singleWord : Nat → List Char → Cursor → List Char × Cursor
  | 0, content, cursor => (content, cursor)
  | bound + 1, content, cursor =>
      match cursor.rest with
      | '\'' :: '\'' :: _ => singleWord bound (content ++ ['\'']) (cursor.skip 2)
      | '\'' :: _ => (content, cursor)
      | character :: _ =>
          if isSpaceOrBreak character then (content, cursor)
          else singleWord bound (content ++ [character]) cursor.next
      | [] => (content, cursor)

/-- This reads a word between double quotation marks, and says whether it ends with an escaped end of a
line. -/
def doubleWord : Nat → List Char → Cursor → Option (List Char × Bool × Cursor)
  | 0, content, cursor => some (content, false, cursor)
  | bound + 1, content, cursor =>
      match cursor.rest with
      | '"' :: _ => some (content, false, cursor)
      | '\\' :: following :: rest =>
          if isBreak following then some (content, true, (cursor.skip 1).next)
          else do
            let (character, length) ← escaped? (following :: rest)
            doubleWord bound (content ++ [character]) (cursor.skip (length + 1))
      | ['\\'] => none
      | character :: _ =>
          if isSpaceOrBreak character then some (content, false, cursor)
          else doubleWord bound (content ++ [character]) cursor.next
      | [] => some (content, false, cursor)

/-- After an escaped end of a line the gap stands for no space. -/
def joinedGap (escapedBreak : Bool) : Nat → Gap → Cursor → List Char × Cursor
  | bound, gap, cursor =>
      match readGap none bound gap cursor with
      | some (gap, beyond) => (if escapedBreak then gap.otherBreaks else gap.text, beyond)
      | none => ([], cursor)

/-- This reads a quoted scalar up to its closing mark. -/
def readQuoted (double : Bool) : Nat → List Char → Cursor → Option Folded
  | 0, _, _ => none
  | bound + 1, content, cursor =>
      if cursor.atDocumentMark || cursor.rest.isEmpty then none
      else do
        let (word, escapedBreak, after) ←
          if double then doubleWord cursor.rest.length [] cursor
          else
            let (word, after) := singleWord cursor.rest.length [] cursor
            some (word, false, after)
        let content := content ++ word
        if !escapedBreak && after.rest.head? = some (if double then '"' else '\'') then
          some ⟨content, after.next, false⟩
        else
          let gap : Gap := if escapedBreak then ⟨[], some '\n', []⟩ else Gap.empty
          let (between, beyond) := joinedGap escapedBreak after.rest.length gap after
          readQuoted double bound (content ++ between) beyond

end ContactRules.Yaml
