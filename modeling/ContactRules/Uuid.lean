/-
This file defines the identifiers of tenants' records and their text.
-/

import ContactRules.Text.Quoted

namespace ContactRules

/-- An identifier is 128 bits. -/
structure Uuid where
  bits : BitVec 128
deriving DecidableEq

/-- The reasons why a text is no identifier. -/
inductive UuidError where
  | character (found : Char) (position : Nat)
  | length (found : Nat)
  | groupCount (found : Nat)
  | groupLength (group found : Nat)
deriving DecidableEq

namespace Uuid

/-- The nil identifier stands for no identifier. -/
def nil : Uuid := ⟨0⟩

instance : Inhabited Uuid := ⟨nil⟩

def isNil (id : Uuid) : Bool := id.bits == 0

/-- These are the lengths of the groups between hyphens. -/
def groupLengths : List Nat := [8, 4, 4, 4, 12]

/-- This is the hexadecimal digit of a value below sixteen. -/
def digit (value : Nat) : Char := Nat.digitChar value

/-- These are the digits of a number, the most significant first, as many as asked for. -/
def digits (value : Nat) : Nat → List Char
  | 0 => []
  | count + 1 => digits (value / 16) count ++ [digit (value % 16)]

/-- This puts a hyphen between groups of the given lengths. -/
def hyphenate : List Nat → List Char → List Char
  | [], _ => []
  | [_], characters => characters
  | length :: rest, characters =>
      characters.take length ++ '-' :: hyphenate rest (characters.drop length)

/-- An identifier is written in five groups of lower-case digits. -/
def text (id : Uuid) : String :=
  String.ofList (hyphenate groupLengths (digits id.bits.toNat 32))

/-- This is the value of a hexadecimal digit in either case. -/
def digitValue? (character : Char) : Option Nat :=
  if '0' ≤ character ∧ character ≤ '9' then some (character.toNat - '0'.toNat)
  else if 'a' ≤ character ∧ character ≤ 'f' then some (character.toNat - 'a'.toNat + 10)
  else if 'A' ≤ character ∧ character ≤ 'F' then some (character.toNat - 'A'.toNat + 10)
  else none

/-- This is the number that hexadecimal digits stand for. -/
def valueOf? (characters : List Char) : Option Nat :=
  characters.foldlM (fun value character => (digitValue? character).map (value * 16 + ·)) 0

/-- This splits at each hyphen. -/
def groups : List Char → List (List Char)
  | [] => [[]]
  | '-' :: rest => [] :: groups rest
  | character :: rest =>
      match groups rest with
      | [] => [[character]]
      | group :: others => (character :: group) :: others

/-- This is the first character that is neither a digit nor a hyphen, with its place in bytes. -/
def strayCharacter? : List Char → Nat → Option (Char × Nat)
  | [], _ => none
  | character :: rest, position =>
      if character = '-' ∨ (digitValue? character).isSome then
        strayCharacter? rest (position + character.utf8Size)
      else some (character, position)

/-- This is the first group of the wrong length; the last one is measured from its place to the end of
the whole text. -/
def strayGroup (total : Nat) (lengths : List Nat) : UuidError :=
  match (lengths.zip groupLengths).zipIdx.find? fun entry => entry.2 < 4 && entry.1.1 != entry.1.2 with
  | some ((found, _), group) => .groupLength group found
  | none => .groupLength 4 (total - 24)

/-- This says why characters are no identifier: a stray character comes first, then the number of groups,
then their lengths. Characters that are bare of any frame need no hyphens. Places are counted from an
offset, and lengths in the bytes of the whole text. -/
def complaint (bare : Bool) (offset total : Nat) (characters : List Char) : UuidError :=
  match strayCharacter? characters offset with
  | some (character, position) => .character character position
  | none =>
      let parts := groups characters
      if parts.length = 1 ∧ bare then .length total
      else if parts.length ≠ 5 then .groupCount parts.length
      else strayGroup total (parts.map List.length)

/-- This reads digits without hyphens. -/
def ofDigits (characters : List Char) : Except UuidError Uuid :=
  match valueOf? characters with
  | some value => .ok ⟨BitVec.ofNat 128 value⟩
  | none => .error (complaint true 0 32 characters)

/-- This reads five groups of digits as one number. -/
def ofGroups (characters : List Char) : Except UuidError Uuid :=
  let parts := groups characters
  match parts.map List.length == groupLengths, valueOf? parts.flatten with
  | true, some value => .ok ⟨BitVec.ofNat 128 value⟩
  | _, _ => .error (complaint false 0 36 characters)

/-- These are the characters between braces, if there are braces. -/
def withoutBraces? (characters : List Char) : Option (List Char) :=
  if 2 ≤ characters.length ∧ characters.head? = some '\x7b' ∧ characters.getLast? = some '\x7d' then
    some (characters.drop 1).dropLast
  else none

/-- This is the scheme that may stand before an identifier, in either case. -/
def scheme : List Char := "urn:uuid:".toList

/-- These are the characters after the scheme, if they start with it. -/
def withoutScheme? (characters : List Char) : Option (List Char) :=
  if (characters.take scheme.length).map Char.toLower = scheme then
    some (characters.drop scheme.length)
  else none

/-- A text of this size in bytes is read as five groups. They may stand in braces or after their scheme. -/
def framed? (size : Nat) (characters : List Char) : Option (List Char) :=
  if size = 36 then some characters
  else if size = 38 then withoutBraces? characters
  else if size = 45 then withoutScheme? characters
  else none

/-- No identifier is written in more bytes. -/
def longestText : Nat := 45

/-- This says why a text of an unexpected size is no identifier. -/
def sizeComplaint (size : Nat) (characters : List Char) : UuidError :=
  if longestText < size then .length size
  else
    match withoutBraces? characters, withoutScheme? characters with
    | some inner, _ => complaint false 1 size inner
    | none, some inner => complaint false scheme.length size inner
    | none, none => complaint true 0 size characters

/-- The size of a text decides in which form an identifier is expected. -/
def ofText (text : String) : Except UuidError Uuid :=
  let size := text.utf8ByteSize
  let characters := text.toList
  if size = 32 then ofDigits characters
  else
    match framed? size characters with
    | some inner => ofGroups inner
    | none => .error (sizeComplaint size characters)

end Uuid

namespace UuidError

/-- These are the lengths that messages ask for. -/
def expectedLength (group : Nat) : Nat :=
  Uuid.groupLengths.getD group 0

def message : UuidError → String
  | .character found position =>
      "invalid character: found `" ++ String.singleton found ++ "` at " ++ toString position
  | .length found => "invalid length: found " ++ toString found
  | .groupCount found => "invalid group count: expected 5, found " ++ toString found
  | .groupLength group found =>
      "invalid group length in group " ++ toString group ++ ": expected " ++
        toString (expectedLength group) ++ ", found " ++ toString found

end UuidError

end ContactRules
