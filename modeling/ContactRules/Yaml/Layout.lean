/-
This file splits the text of a markup document into tokens. Where a block begins and ends is told by the
indentation of its lines.
-/

import ContactRules.Wire.Node
import ContactRules.Yaml.Folding

namespace ContactRules.Yaml

open ContactRules.Wire

inductive Token where
  | documentStart
  | documentEnd
  | openBlockList
  | openBlockMap
  | closeBlock
  | openList
  | closeList
  | openMap
  | closeMap
  | entry
  | comma
  | key
  | value
  | scalar (node : Node)

/-- What starts here may turn out to be a key when a colon follows in the same line. The tokens of the key
then come before the tokens that have been read since. In a block without brackets there must be a key. -/
structure PendingKey where
  tokens : Nat
  required : Bool
  index : Nat
  line : Nat
  column : Nat

/-- The layout of the text so far: the tokens, the last one first; the columns of the open blocks, the
innermost first; and for each pair of brackets what may turn out to be a key. -/
structure Layout where
  cursor : Cursor
  tokens : List Token
  columns : List Nat
  keyAllowed : Bool
  pending : Option PendingKey
  brackets : List (Option PendingKey)

namespace Layout

def start (characters : List Char) : Layout :=
  ⟨Cursor.start characters, [], [], true, none, []⟩

def inBrackets (layout : Layout) : Bool := !layout.brackets.isEmpty

def emit (layout : Layout) (token : Token) : Layout :=
  { layout with tokens := token :: layout.tokens }

/-- The text of a scalar in the current block is indented at least so far. -/
def indent (layout : Layout) : Nat :=
  match layout.columns with
  | [] => 0
  | column :: _ => column + 1

/-- This closes the blocks that are indented further than a column. -/
def closeBlocks (layout : Layout) (column : Option Nat) : Layout :=
  if layout.inBrackets then layout
  else
    let ends (open_ : Nat) : Bool := column.all fun column => column < open_
    let closed := layout.columns.takeWhile ends
    { layout with
      columns := layout.columns.dropWhile ends
      tokens := closed.map (fun _ => Token.closeBlock) ++ layout.tokens }

/-- This puts tokens behind the first so many ones. -/
def insertAfter (layout : Layout) (count : Nat) (inserted : List Token) : Layout :=
  let since := layout.tokens.length - count
  { layout with
    tokens := layout.tokens.take since ++ inserted.reverse ++ layout.tokens.drop since }

/-- A block that is indented further than the one around it is opened here. -/
def opensBlock (layout : Layout) (column : Nat) : Bool :=
  !layout.inBrackets && layout.columns.head?.all (· < column)

def openBlock (layout : Layout) (token : Token) : Layout :=
  let column := layout.cursor.column
  if layout.opensBlock column then
    { layout.emit token with columns := column :: layout.columns }
  else layout

/-- This gives up a pending key, unless there must be one. -/
def dropPending (layout : Layout) : Option Layout :=
  if layout.pending.any PendingKey.required then none else some { layout with pending := none }

/-- This notes that a key may start here. -/
def notePending (layout : Layout) : Option Layout :=
  if layout.keyAllowed then do
    let dropped ← layout.dropPending
    let cursor := layout.cursor
    let required := !layout.inBrackets && layout.columns.head? = some cursor.column
    let pending : PendingKey :=
      ⟨layout.tokens.length, required, cursor.index, cursor.line, cursor.column⟩
    some { dropped with pending := some pending }
  else some layout

/-- A key stands in one line and takes at most so many bytes. -/
def longestKey : Nat := 1024

/-- This is the pending key if it may still be one. A key that must be there may not be given up. -/
def currentKey (layout : Layout) : Option (Option PendingKey) :=
  match layout.pending with
  | none => some none
  | some pending =>
      if pending.line < layout.cursor.line ∨ pending.index + longestKey < layout.cursor.index then
        if pending.required then none else some none
      else some (some pending)

def pass (layout : Layout) (count : Nat) : Layout :=
  { layout with cursor := layout.cursor.skip count }

def allowKey (layout : Layout) (allowed : Bool) : Layout :=
  { layout with keyAllowed := allowed }

/-- These marks start a document or end it. -/
def documentMark (layout : Layout) (token : Token) : Option Layout := do
  let dropped ← (layout.closeBlocks none).dropPending
  some ((dropped.allowKey false).pass 3 |>.emit token)

def openBracket (layout : Layout) (token : Token) : Option Layout := do
  let noted ← layout.notePending
  let opened := { noted with brackets := noted.pending :: noted.brackets, pending := none }
  some ((opened.allowKey true).pass 1 |>.emit token)

def closeBracket (layout : Layout) (token : Token) : Option Layout := do
  let dropped ← layout.dropPending
  let closed :=
    match dropped.brackets with
    | [] => dropped
    | pending :: outer => { dropped with pending := pending, brackets := outer }
  some ((closed.allowKey false).pass 1 |>.emit token)

def comma (layout : Layout) : Option Layout := do
  let dropped ← layout.dropPending
  some ((dropped.allowKey true).pass 1 |>.emit .comma)

/-- A hyphen starts an entry of a block. -/
def entry (layout : Layout) : Option Layout :=
  if !layout.inBrackets && !layout.keyAllowed then none
  else do
    let dropped ← (layout.openBlock .openBlockList).dropPending
    some ((dropped.allowKey true).pass 1 |>.emit .entry)

/-- A question mark starts a key. -/
def explicitKey (layout : Layout) : Option Layout :=
  if !layout.inBrackets && !layout.keyAllowed then none
  else do
    let dropped ← (layout.openBlock .openBlockMap).dropPending
    some ((dropped.allowKey (!layout.inBrackets)).pass 1 |>.emit .key)

/-- A colon starts a value. What is pending before it is the key. -/
def value (layout : Layout) : Option Layout := do
  match ← layout.currentKey with
  | some pending =>
      let opens := layout.opensBlock pending.column
      let inserted := layout.insertAfter pending.tokens
        (if opens then [.openBlockMap, .key] else [.key])
      let opened :=
        { inserted with
          columns := if opens then pending.column :: layout.columns else layout.columns
          pending := none }
      some ((opened.allowKey false).pass 1 |>.emit .value)
  | none =>
      if !layout.inBrackets && !layout.keyAllowed then none
      else
        let opened := { layout.openBlock .openBlockMap with pending := none }
        some ((opened.allowKey (!layout.inBrackets)).pass 1 |>.emit .value)

def quotedScalar (layout : Layout) (double : Bool) : Option Layout := do
  let noted ← layout.notePending
  let start := layout.cursor.next
  let folded ← readQuoted double (start.rest.length + 1) [] start
  some ({ noted.allowKey false with cursor := folded.cursor }.emit
    (.scalar (.text (String.ofList folded.content))))

def plainScalar (layout : Layout) : Option Layout := do
  let noted ← layout.notePending
  let cursor := layout.cursor
  let folded ← readPlain layout.inBrackets layout.indent (cursor.rest.length + 1) [] Gap.empty cursor
  some ({ noted.allowKey folded.passedBreak with cursor := folded.cursor }.emit
    (.scalar (.plain (String.ofList folded.content))))

/-- This passes over spaces, comments, the ends of lines, and a byte order mark that starts a line. A line
break in a block allows a key. -/
def skipBlank : Nat → Layout → Layout
  | 0, layout => layout
  | bound + 1, layout =>
      match layout.cursor.rest with
      | [] => layout
      | character :: _ =>
          let next : Layout := { layout with cursor := layout.cursor.next }
          if character = ' ' then skipBlank bound next
          else if character = '\t' && (layout.inBrackets || !layout.keyAllowed) then
            skipBlank bound next
          else if character.toNat = 0xFEFF ∧ layout.cursor.column = 0 then skipBlank bound next
          else if character = '#' then
            let comment := layout.cursor.rest.takeWhile fun character => !isBreak character
            skipBlank bound (layout.pass comment.length)
          else if isBreak character then
            skipBlank bound (if layout.inBrackets then next else next.allowKey true)
          else layout

/-- These characters start no plain scalar. -/
def isIndicator (character : Char) : Bool :=
  "-?:,[]\x7b\x7d#&*!|>'\"%@`".toList.contains character

/-- A plain scalar may start with a mark that does not stand alone. -/
def startsPlain (layout : Layout) (character : Char) (rest : List Char) : Bool :=
  if isSpaceOrBreak character then false
  else if !isIndicator character then true
  else if character = '-' then !rest.head?.any isSpace
  else !layout.inBrackets && (character = '?' || character = ':') && !Cursor.endsWord rest

/-- This reads the tokens that start with a character. -/
def advance (layout : Layout) (character : Char) (rest : List Char) : Option Layout :=
  if layout.cursor.column = 0 ∧ character = '%' then none
  else if layout.cursor.atDocumentMark then
    layout.documentMark (if character = '-' then .documentStart else .documentEnd)
  else
    let endsMark := Cursor.endsWord rest
    match character with
    | '[' => layout.openBracket .openList
    | '\x7b' => layout.openBracket .openMap
    | ']' => layout.closeBracket .closeList
    | '\x7d' => layout.closeBracket .closeMap
    | ',' => layout.comma
    | '\'' => layout.quotedScalar false
    | '"' => layout.quotedScalar true
    | _ =>
        if character = '-' && endsMark then layout.entry
        else if character = '?' && (layout.inBrackets || endsMark) then layout.explicitKey
        else if character = ':' && (layout.inBrackets || endsMark) then layout.value
        else if layout.startsPlain character rest then layout.plainScalar
        else none

/-- This is the layout of the text up to its end. Each step passes at least one character. -/
def readAll : Nat → Layout → Option Layout
  | 0, _ => none
  | bound + 1, layout =>
      let skipped := skipBlank layout.cursor.rest.length layout
      let layout := skipped.closeBlocks (some skipped.cursor.column)
      match layout.cursor.rest with
      | [] => (layout.closeBlocks none).dropPending
      | character :: rest => do readAll bound (← layout.advance character rest)

end Layout

/-- These are the tokens of a text, if it is well formed. -/
def Token.ofText? (text : String) : Option (List Token) := do
  let characters := text.toList
  if characters.all isAllowed then
    let layout ← Layout.readAll (characters.length + 1) (Layout.start characters)
    some layout.tokens.reverse
  else none

end ContactRules.Yaml
