/-
This file splits the text of a document into tokens.
-/

import ContactRules.Decimal.Nearest
import ContactRules.Wire.Node
import ContactRules.Yaml.Scalar

namespace ContactRules.Wire

open ContactRules.Json

/-- A scalar token carries its node, and a text token can also be the name of a field. -/
inductive Token where
  | openList
  | closeList
  | openObject
  | closeObject
  | comma
  | colon
  | scalar (node : Node)
  | text (node : Node)
  | stray

namespace Token

/-- Between the quotation marks stand characters and the code units of escapes. -/
inductive Piece where
  | character (value : Char)
  | unit (value : Nat)

def hexadecimal? (character : Char) : Option Nat := Yaml.Scalar.digit? 16 character

/-- A text ends at its closing mark, or at a fault. -/
def pieces : List Char → List Piece × Option Fault × List Char
  | [] => ([], some .truncated, [])
  | '"' :: rest => ([], none, rest)
  | ['\\'] => ([], some .truncated, [])
  | '\\' :: 'u' :: first :: second :: third :: fourth :: rest =>
      match [first, second, third, fourth].mapM hexadecimal? with
      | some digits =>
          let unit := digits.foldl (fun value digit => value * 16 + digit) 0
          let more := pieces rest
          (.unit unit :: more.1, more.2)
      | none => ([], some .malformed, rest)
  | '\\' :: 'u' :: rest =>
      let size := (rest.map Char.utf8Size).foldr (· + ·) 0
      ([], some (if 4 ≤ size then .malformed else .truncated), [])
  | '\\' :: letter :: rest =>
      match escaped? letter with
      | some character =>
          let more := pieces rest
          (.character character :: more.1, more.2)
      | none => ([], some .malformed, rest)
  | character :: rest =>
      if character.toNat < 0x20 then ([], some .malformed, rest)
      else
        let more := pieces rest
        (.character character :: more.1, more.2)
where
  /-- This is the character that a letter stands for after a backslash. -/
  escaped? : Char → Option Char
    | '"' => some '"'
    | '\\' => some '\\'
    | '/' => some '/'
    | 'b' => some '\x08'
    | 'f' => some '\x0c'
    | 'n' => some '\n'
    | 'r' => some '\r'
    | 't' => some '\t'
    | _ => none

/-- Two code units of a pair make one character. A unit of a pair that stands alone is a fault, and at
the end of the pieces it is the fault of that end. -/
def assemble (atEnd : Option Fault) : List Piece → Except Fault (List Char)
  | [] => .ok []
  | .character value :: rest => do return value :: (← assemble atEnd rest)
  | .unit high :: rest =>
      if 0xDC00 ≤ high ∧ high ≤ 0xDFFF then .error .malformed
      else if 0xD800 ≤ high ∧ high ≤ 0xDBFF then
        match rest with
        | [] => .error (atEnd.getD .malformed)
        | .unit low :: others =>
            if 0xDC00 ≤ low ∧ low ≤ 0xDFFF then do
              let code := 0x10000 + (high - 0xD800) * 0x400 + (low - 0xDC00)
              return Char.ofNat code :: (← assemble atEnd others)
            else .error .malformed
        | .character _ :: _ => .error .malformed
      else do return Char.ofNat high :: (← assemble atEnd rest)

/-- A text whose pairs are broken can be skipped although it cannot be read. Where the text is cut off in
the middle of a pair, there is one fault for both. -/
def ofText (characters : List Char) : Token × List Char :=
  let (found, fault, rest) := pieces characters
  let node : Node :=
    match assemble fault found, fault with
    | .ok content, none => .text (String.ofList content)
    | .ok _, some fault => .broken fault
    | .error fault, none => .refused fault (.text "")
    | .error fault, some other =>
        if fault = other then .broken other else .refused fault (.broken other)
  (.text node, rest)

/-- Digits are taken while the number that they stand for fits 64 bits; the rest are only counted. -/
def wholeDigits : Nat → List Nat → Nat × Nat
  | value, [] => (value, 0)
  | value, digit :: rest =>
      if value * 10 + digit < UInt64.size then wholeDigits (value * 10 + digit) rest
      else (value, rest.length + 1)

/-- Digits after the point are taken while the number fits 64 bits; the rest are dropped. -/
def fractionDigits : Nat → List Nat → Nat × Nat
  | value, [] => (value, 0)
  | value, digit :: rest =>
      if value * 10 + digit < UInt64.size then
        let more := fractionDigits (value * 10 + digit) rest
        (more.1, more.2 + 1)
      else (value, 0)

/-- These are the parts of a numeral. -/
structure Numeral where
  negative : Bool
  whole : List Nat
  fraction : Option (List Nat)
  exponent : Option Int

/-- A numeral without point and exponent is a whole number if it fits, and any other is a double. A
negative zero is a double, because no whole number has its sign. -/
def Numeral.number? (numeral : Numeral) : Option Number :=
  let (whole, dropped) := wholeDigits 0 numeral.whole
  let double : Option Number :=
    let (digits, taken) := fractionDigits whole (numeral.fraction.getD [])
    let exponent := (dropped : Int) - (taken : Int) + numeral.exponent.getD 0
    (Decimal.scaled? numeral.negative ⟨digits, exponent⟩).map .double
  if numeral.fraction.isSome || numeral.exponent.isSome || dropped != 0 then double
  else if numeral.negative then
    match Number.negated? whole with
    | some number => some number
    | none => double
  else some (.unsigned (UInt64.ofNat whole))

def digit? (character : Char) : Option Nat := Yaml.Scalar.digit? 10 character

/-- This splits off the digits that come first. -/
def digits : List Char → List Nat × List Char
  | [] => ([], [])
  | character :: rest =>
      match digit? character with
      | none => ([], character :: rest)
      | some digit =>
          let more := digits rest
          (digit :: more.1, more.2)

/-- A numeral that ends too early is ill-formed for a reader who skips it. -/
def cutNumeral (rest : List Char) : Token × List Char :=
  if rest.isEmpty then (.scalar (.refused .truncated (.broken .malformed)), rest)
  else (.scalar (.broken .malformed), rest)

/-- This reads the exponent of a numeral, if it has one. -/
def exponentOf (numeral : Numeral) (characters : List Char) : Token × List Char :=
  let finish (numeral : Numeral) (rest : List Char) : Token × List Char :=
    match numeral.number? with
    | some number => (.scalar (.number number), rest)
    | none => (.scalar (.refused .malformed .null), rest)
  let power (sign : Int) (rest : List Char) : Token × List Char :=
    match digits rest with
    | ([], rest) => cutNumeral rest
    | (found, rest) =>
        let value := found.foldl (fun (value : Nat) digit => value * 10 + digit) 0
        finish { numeral with exponent := some (sign * value) } rest
  match characters with
  | letter :: rest =>
      if letter = 'e' ∨ letter = 'E' then
        match rest with
        | '+' :: rest => power 1 rest
        | '-' :: rest => power (-1) rest
        | rest => power 1 rest
      else finish numeral characters
  | [] => finish numeral characters

/-- A numeral starts with a single zero or with another digit. -/
def ofNumeral (negative : Bool) (characters : List Char) : Token × List Char :=
  match digits characters with
  | ([], rest) => cutNumeral rest
  | (0 :: _ :: _, rest) => (.scalar (.broken .malformed), rest)
  | (whole, '.' :: rest) =>
      match digits rest with
      | ([], rest) => cutNumeral rest
      | (fraction, rest) => exponentOf ⟨negative, whole, some fraction, none⟩ rest
  | (whole, rest) => exponentOf ⟨negative, whole, none, none⟩ rest

/-- This reads the rest of a word. -/
def ofWord (node : Node) : List Char → List Char → Token × List Char
  | [], rest => (.scalar node, rest)
  | _ :: _, [] => (.scalar (.refused .truncated (.broken .truncated)), [])
  | expected :: word, character :: rest =>
      if character = expected then ofWord node word rest else (.scalar (.broken .malformed), rest)

/-- This is the token that starts with a character. -/
def ofCharacter (character : Char) (rest : List Char) : Token × List Char :=
  match character with
  | '[' => (.openList, rest)
  | ']' => (.closeList, rest)
  | '\x7b' => (.openObject, rest)
  | '\x7d' => (.closeObject, rest)
  | ',' => (.comma, rest)
  | ':' => (.colon, rest)
  | '"' => ofText rest
  | '-' => ofNumeral true rest
  | 'n' => ofWord .null "ull".toList rest
  | 't' => ofWord (.bool true) "rue".toList rest
  | 'f' => ofWord (.bool false) "alse".toList rest
  | other => if (digit? other).isSome then ofNumeral false (other :: rest) else (.stray, rest)

def isSpace (character : Char) : Bool :=
  character = ' ' || character = '\n' || character = '\t' || character = '\r'

/-- Each token takes at least one character, so the number of characters bounds the number of tokens. -/
def within : Nat → List Char → List Token
  | 0, _ => []
  | bound + 1, characters =>
      match characters.dropWhile isSpace with
      | [] => []
      | character :: rest =>
          let (token, rest) := ofCharacter character rest
          token :: within bound rest

def ofCharacters (characters : List Char) : List Token :=
  within characters.length characters

end Token

end ContactRules.Wire
