/-
This file puts the tokens of a markup document together.
-/

import ContactRules.Wire.Record
import ContactRules.Yaml.Layout

namespace ContactRules.Yaml

open ContactRules.Wire

namespace Document

/-- Where nothing stands, a plain scalar without text does. -/
def nothing : Node := .plain ""

/-- Lists and maps may be nested to this depth. -/
def depthLimit : Nat := 128

/-- A list or a map that is nested too deep cannot be read. -/
def nested (depth : Nat) (node : Node) : Node :=
  if depth < depthLimit then node else .refused .malformed node

/-- Only a scalar is the name of a field. -/
def nameOf? : Node → Option String
  | .text content => some content
  | .plain content => some content
  | _ => none

/-- A map with a key that is no name can only be skipped. -/
def mapOf (entries : List (Node × Node)) : Node :=
  match entries.mapM fun entry => (nameOf? entry.1).map fun name => (name, entry.2) with
  | some fields => .object fields .closed
  | none => .refused .malformed (.object [] .closed)

/-- A list without brackets may stand in a map at the same column. -/
inductive Position where
  | inBlock (besideKey : Bool)
  | inBrackets
deriving DecidableEq

/-- A value is missing when one of these tokens follows. -/
def missesEntry : List Token → Bool
  | .entry :: _ => true
  | .closeBlock :: _ => true
  | _ => false

def missesBeside : List Token → Bool
  | .entry :: _ => true
  | .key :: _ => true
  | .value :: _ => true
  | .closeBlock :: _ => true
  | _ => false

def missesInMap : List Token → Bool
  | .key :: _ => true
  | .value :: _ => true
  | .closeBlock :: _ => true
  | _ => false

def missesInBrackets : List Token → Bool
  | .comma :: _ => true
  | .closeList :: _ => true
  | _ => false

def missesInBraces : List Token → Bool
  | .comma :: _ => true
  | .closeMap :: _ => true
  | _ => false

mutual

/-- This reads a node that stands inside so many lists and maps. -/
def node (depth : Nat) : Nat → Position → List Token → Option (Node × List Token)
  | 0, _, _ => none
  | bound + 1, position, tokens =>
      match position, tokens with
      | _, .scalar content :: rest => some (content, rest)
      | .inBlock true, .entry :: _ => do
          let (items, rest) ← entriesBeside (depth + 1) bound tokens
          some (nested depth (.list items .closed), rest)
      | _, .openList :: rest => do
          let (items, rest) ← listItems (depth + 1) bound true rest
          some (nested depth (.list items .closed), rest)
      | _, .openMap :: rest => do
          let (entries, rest) ← mapEntries (depth + 1) bound true rest
          some (nested depth (mapOf entries), rest)
      | .inBlock _, .openBlockList :: rest => do
          let (items, rest) ← blockItems (depth + 1) bound rest
          some (nested depth (.list items .closed), rest)
      | .inBlock _, .openBlockMap :: rest => do
          let (entries, rest) ← blockEntries (depth + 1) bound rest
          some (nested depth (mapOf entries), rest)
      | _, _ => none

/-- This reads a node unless it is missing. -/
def nodeUnless (missing : List Token → Bool) (depth : Nat) :
    Nat → Position → List Token → Option (Node × List Token)
  | 0, _, _ => none
  | bound + 1, position, tokens =>
      if missing tokens then some (nothing, tokens) else node depth bound position tokens

/-- These items of a block are indented further than what is around it. -/
def blockItems (depth : Nat) : Nat → List Token → Option (List Node × List Token)
  | 0, _ => none
  | bound + 1, tokens =>
      match tokens with
      | .closeBlock :: rest => some ([], rest)
      | .entry :: rest => do
          let (item, rest) ← nodeUnless missesEntry depth bound (.inBlock false) rest
          let (items, rest) ← blockItems depth bound rest
          some (item :: items, rest)
      | _ => none

/-- These items stand at the column of the key to which they belong. -/
def entriesBeside (depth : Nat) : Nat → List Token → Option (List Node × List Token)
  | 0, _ => none
  | bound + 1, tokens =>
      match tokens with
      | .entry :: rest => do
          let (item, rest) ← nodeUnless missesBeside depth bound (.inBlock false) rest
          let (items, rest) ← entriesBeside depth bound rest
          some (item :: items, rest)
      | rest => some ([], rest)

/-- These are the entries of a map without braces. -/
def blockEntries (depth : Nat) : Nat → List Token → Option (List (Node × Node) × List Token)
  | 0, _ => none
  | bound + 1, tokens =>
      match tokens with
      | .closeBlock :: rest => some ([], rest)
      | .key :: rest => do
          let (key, rest) ← nodeUnless missesInMap depth bound (.inBlock true) rest
          let (value, rest) ← blockValue depth bound rest
          let (entries, rest) ← blockEntries depth bound rest
          some ((key, value) :: entries, rest)
      | _ => none

/-- This is the value after a key, if there is one. -/
def blockValue (depth : Nat) : Nat → List Token → Option (Node × List Token)
  | 0, _ => none
  | bound + 1, tokens =>
      match tokens with
      | .value :: rest => nodeUnless missesInMap depth bound (.inBlock true) rest
      | rest => some (nothing, rest)

/-- These items stand between brackets. A comma separates two of them, and may follow the last one. -/
def listItems (depth : Nat) : Nat → Bool → List Token → Option (List Node × List Token)
  | 0, _, _ => none
  | bound + 1, first, tokens =>
      match first, tokens with
      | _, .closeList :: rest => some ([], rest)
      | false, .comma :: .closeList :: rest => some ([], rest)
      | false, .comma :: rest => listItem depth bound rest
      | false, _ => none
      | true, rest => listItem depth bound rest

/-- An item between brackets may be a single entry of a map. -/
def listItem (depth : Nat) : Nat → List Token → Option (List Node × List Token)
  | 0, _ => none
  | bound + 1, tokens => do
      let (item, rest) ←
        match tokens with
        | .key :: rest => do
            let (key, rest) ← pairKey (depth + 1) bound rest
            let (value, rest) ← pairValue (depth + 1) bound rest
            some (nested depth (mapOf [(key, value)]), rest)
        | rest => node depth bound .inBrackets rest
      let (items, rest) ← listItems depth bound false rest
      some (item :: items, rest)

/-- Where the key of a single entry is missing, the token that follows is lost. -/
def pairKey (depth : Nat) : Nat → List Token → Option (Node × List Token)
  | 0, _ => none
  | bound + 1, tokens =>
      match tokens with
      | .value :: rest => some (nothing, rest)
      | .comma :: rest => some (nothing, rest)
      | .closeList :: rest => some (nothing, rest)
      | rest => node depth bound .inBrackets rest

def pairValue (depth : Nat) : Nat → List Token → Option (Node × List Token)
  | 0, _ => none
  | bound + 1, tokens =>
      match tokens with
      | .value :: rest => nodeUnless missesInBrackets depth bound .inBrackets rest
      | rest => some (nothing, rest)

/-- These entries stand between braces. -/
def mapEntries (depth : Nat) : Nat → Bool → List Token → Option (List (Node × Node) × List Token)
  | 0, _, _ => none
  | bound + 1, first, tokens =>
      match first, tokens with
      | _, .closeMap :: rest => some ([], rest)
      | false, .comma :: .closeMap :: rest => some ([], rest)
      | false, .comma :: rest => mapEntry depth bound rest
      | false, _ => none
      | true, rest => mapEntry depth bound rest

/-- An entry without a colon has no value. -/
def mapEntry (depth : Nat) : Nat → List Token → Option (List (Node × Node) × List Token)
  | 0, _ => none
  | bound + 1, tokens => do
      let (entry, rest) ←
        match tokens with
        | .key :: .value :: rest => do
            let (value, rest) ← nodeUnless missesInBraces depth bound .inBrackets rest
            some ((nothing, value), rest)
        | .key :: rest => do
            let (key, rest) ← nodeUnless missesInBraces depth bound .inBrackets rest
            match rest with
            | .value :: rest => do
                let (value, rest) ← nodeUnless missesInBraces depth bound .inBrackets rest
                some ((key, value), rest)
            | rest => some ((key, nothing), rest)
        | rest => do
            let (key, rest) ← node depth bound .inBrackets rest
            some ((key, nothing), rest)
      let (entries, rest) ← mapEntries depth bound false rest
      some (entry :: entries, rest)

end

/-- For each token the reader goes down by four calls at most. -/
def bound (tokens : List Token) : Nat := 4 * tokens.length + 4

/-- Without any content a document is nothing. -/
def content (tokens : List Token) : Option (Node × List Token) :=
  match tokens with
  | [] => some (nothing, [])
  | .documentStart :: _ => some (nothing, tokens)
  | .documentEnd :: _ => some (nothing, tokens)
  | _ => node 0 (bound tokens) (.inBlock false) tokens

def isDocumentEnd : Token → Bool
  | .documentEnd => true
  | _ => false

/-- A text holds one document, which may be marked at its start and at its end. -/
def ofTokens? (tokens : List Token) : Option Node := do
  let (root, rest) ←
    match tokens with
    | .documentStart :: rest => content rest
    | .documentEnd :: _ => none
    | _ => content tokens
  if rest.all isDocumentEnd then some root else none

def ofText? (text : String) : Option Node := do
  ofTokens? (← Token.ofText? text)

/-- There is one reason for which any markup document is refused. -/
def decode? {α : Type} (decoder : Decoder α) (text : String) : Option α := do
  let root ← ofText? text
  (decoder .markup root).toOption

end Document

end ContactRules.Yaml
