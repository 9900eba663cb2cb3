/-
This file reads and writes instants as text.
-/

import ContactRules.Calendar.Instant
import ContactRules.Text.Blank

namespace ContactRules.Calendar

/-- The reasons why a text is no instant. -/
inductive TimestampError where
  | premature
  | invalid
  | outOfRange
  | impossible
  | trailing
deriving DecidableEq

def TimestampError.message : TimestampError → String
  | .premature => "premature end of input"
  | .invalid => "input contains invalid characters"
  | .outOfRange => "input is out of range"
  | .impossible => "no possible date and time matching input"
  | .trailing => "trailing input"

namespace Timestamp

open ContactRules.Text

/-- A step takes some characters off the front and leaves the rest. -/
abbrev Step (α : Type) := List Char → Except TimestampError (α × List Char)

def digitValue? (character : Char) : Option Nat :=
  if '0' ≤ character ∧ character ≤ '9' then some (character.toNat - '0'.toNat) else none

/-- This takes the digits that come next, of a given number at most. -/
def takeDigits : Nat → List Char → List Nat × List Char
  | 0, characters => ([], characters)
  | _, [] => ([], [])
  | count + 1, character :: rest =>
      match digitValue? character with
      | none => ([], character :: rest)
      | some digit =>
          let more := takeDigits count rest
          (digit :: more.1, more.2)

def valueOfDigits (digits : List Nat) : Nat :=
  digits.foldl (fun value digit => value * 10 + digit) 0

/-- A number needs at least one digit. -/
def number (count : Nat) : Step Nat := fun characters =>
  match characters with
  | [] => .error .premature
  | _ =>
      match takeDigits count characters with
      | ([], _) => .error .invalid
      | (digits, rest) => .ok (valueOfDigits digits, rest)

/-- A field is a number of two digits at most, which may follow blanks, within limits. -/
def field (least most : Nat) : Step Nat := fun characters => do
  let (value, rest) ← number 2 (dropBlank characters)
  if least ≤ value ∧ value ≤ most then .ok (value, rest) else .error .outOfRange

/-- A separator may follow blanks. -/
def separator (expected : Char) : Step Unit := fun characters =>
  match dropBlank characters with
  | [] => .error .premature
  | character :: rest => if character = expected then .ok ((), rest) else .error .invalid

/-- A year has four digits, or a sign and any number of digits. -/
def year : Step Int := fun characters => do
  let bounded (value : Int) (rest : List Char) : Except TimestampError (Int × List Char) :=
    if -0x80000000 ≤ value ∧ value < 0x80000000 then .ok (value, rest) else .error .outOfRange
  match dropBlank characters with
  | '-' :: rest =>
      let (value, rest) ← number rest.length rest
      bounded (-value) rest
  | '+' :: rest =>
      let (value, rest) ← number rest.length rest
      bounded value rest
  | rest =>
      let (value, rest) ← number 4 rest
      bounded value rest

/-- After a point stand the parts of a second; digits beyond the ninth are dropped. -/
def fraction : Step Nat := fun characters =>
  match characters with
  | '.' :: rest =>
      match rest with
      | [] => .error .premature
      | _ =>
          match takeDigits 9 rest with
          | ([], _) => .error .invalid
          | (digits, rest) =>
              .ok (valueOfDigits digits * Nat.pow 10 (9 - digits.length),
                rest.dropWhile fun character => (digitValue? character).isSome)
  | _ => .ok (0, characters)

/-- This takes two digits, of which the first is bounded. -/
def twoDigits (mostTens : Nat) : Step Nat := fun characters =>
  match characters with
  | [] => .error .premature
  | [character] => if 2 ≤ character.utf8Size then .error .invalid else .error .premature
  | tens :: ones :: rest =>
      match digitValue? tens, digitValue? ones with
      | some tens, some ones =>
          if tens ≤ mostTens then .ok (tens * 10 + ones, rest) else .error .outOfRange
      | _, _ => .error .invalid

/-- An offset from universal time, in seconds: a letter, a word, or a signed number of hours and
minutes. -/
def offset : Step Int := fun characters => do
  let signed (sign : Int) (rest : List Char) : Except TimestampError (Int × List Char) := do
    let (hours, rest) ← twoDigits 9 rest
    let rest := rest.dropWhile fun character => character = ':' || isBlank character
    let (minutes, rest) ← twoDigits 5 rest
    .ok (sign * (hours * 3600 + minutes * 60 : Nat), rest)
  match characters with
  | [] => .error .premature
  | character :: rest =>
      if (characters.take 3).map Char.toUpper = ['U', 'T', 'C'] then .ok (0, characters.drop 3)
      else if character = 'Z' ∨ character = 'z' then .ok (0, rest)
      else if character = '+' then signed 1 rest
      else if character = '-' ∨ character = '−' then signed (-1) rest
      else .error .invalid

/-- A local date and time, with the parts that a text gives for it. -/
structure Reading where
  date : Date
  hour : Nat
  minute : Nat
  second : Nat
  nanosecond : Nat
  offset : Int

/-- Between the date and the time stands a letter or a space. -/
def between : Step Unit := fun characters =>
  match characters with
  | [] => .error .premature
  | character :: rest =>
      if character = 'T' ∨ character = 't' ∨ character = ' ' then .ok ((), rest) else .error .invalid

def reading : Step Reading := fun characters => do
  let (year, rest) ← year characters
  let ((), rest) ← separator '-' rest
  let (month, rest) ← field 1 12 rest
  let ((), rest) ← separator '-' rest
  let (day, rest) ← field 1 31 rest
  let ((), rest) ← between rest
  let (hour, rest) ← field 0 23 rest
  let ((), rest) ← separator ':' rest
  let (minute, rest) ← field 0 59 rest
  let ((), rest) ← separator ':' rest
  let (second, rest) ← field 0 60 rest
  let (nanosecond, rest) ← fraction rest
  let (offset, rest) ← offset (dropBlank rest)
  .ok (⟨⟨year, month, day⟩, hour, minute, second, nanosecond, offset⟩, rest)

/-- The sixtieth second is the leap second after the last one of its minute. The offset moves the time
of day, and may move the date to a neighbour. -/
def Reading.toInstant (reading : Reading) : Except TimestampError Instant :=
  match dayOfDate? reading.date with
  | none => .error .outOfRange
  | some day =>
      if reading.offset ≤ -86400 ∨ 86400 ≤ reading.offset then .error .outOfRange
      else
        let leap := if reading.second = 60 then 1000000000 else 0
        let second := if reading.second = 60 then 59 else reading.second
        let seconds : Int := (reading.hour * 3600 + reading.minute * 60 + second : Nat) - reading.offset
        let day := day + seconds / 86400
        let second := (seconds % 86400).toNat
        let nanosecond := reading.nanosecond + leap
        if range : firstDay ≤ day ∧ day ≤ lastDay then
          if secondBound : second < 86400 then
            if bound : nanosecond < 1000000000 ∨ (nanosecond < 2000000000 ∧ second % 60 = 59) then
              .ok ⟨day, second, nanosecond, range, secondBound, bound⟩
            else .error .outOfRange
          else .error .outOfRange
        else .error .impossible

end Timestamp

namespace Instant

/-- This reads an instant in any offset from universal time. -/
def ofText (text : String) : Except TimestampError Instant := do
  let (reading, rest) ← Timestamp.reading text.toList
  if rest.all Text.isBlank then reading.toInstant else .error .trailing

/-- This writes a number in at least the given count of digits. -/
def padded (count value : Nat) : String :=
  let digits := toString value
  String.ofList (List.replicate (count - digits.length) '0') ++ digits

/-- A year beyond four digits, or before zero, has a sign. -/
def yearText (year : Int) : String :=
  if 0 ≤ year ∧ year ≤ 9999 then padded 4 year.toNat
  else (if year < 0 then "-" else "+") ++ padded 4 year.natAbs

/-- The parts of a second have no digits, or three, six or nine: the fewest that are exact. -/
def fractionText (nanosecond : Nat) : String :=
  if nanosecond = 0 then ""
  else if nanosecond % 1000000 = 0 then "." ++ padded 3 (nanosecond / 1000000)
  else if nanosecond % 1000 = 0 then "." ++ padded 6 (nanosecond / 1000)
  else "." ++ padded 9 nanosecond

/-- This is the date and the time of day in universal time. A leap second is the sixtieth. -/
def localText (instant : Instant) : String :=
  let date := instant.date
  let second := instant.second % 60 + instant.nanosecond / 1000000000
  yearText date.year ++ "-" ++ padded 2 date.month ++ "-" ++ padded 2 date.day ++ "T" ++
    padded 2 instant.hour ++ ":" ++ padded 2 instant.minute ++ ":" ++ padded 2 second ++
    fractionText (instant.nanosecond % 1000000000)

/-- This is the text of an instant in a document. -/
def text (instant : Instant) : String := instant.localText ++ "Z"

/-- This is the text of an instant as a fact. -/
def offsetText (instant : Instant) : String := instant.localText ++ "+00:00"

end Instant

end ContactRules.Calendar
