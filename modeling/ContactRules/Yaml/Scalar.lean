/-
This file says which values the plain scalars of a markup document stand for.
-/

import ContactRules.Decimal.Nearest
import ContactRules.Json.Value

namespace ContactRules.Yaml.Scalar

open ContactRules.Json

def isNullWord (text : String) : Bool :=
  ["null", "Null", "NULL", "~"].contains text

/-- Nothing at all stands for null too. -/
def isNull (text : String) : Bool :=
  text.isEmpty || isNullWord text

def bool? (text : String) : Option Bool :=
  if ["true", "True", "TRUE"].contains text then some true
  else if ["false", "False", "FALSE"].contains text then some false
  else none

/-- This is the value of a digit in a base of sixteen at most. -/
def digit? (base : Nat) (character : Char) : Option Nat :=
  let value :=
    if '0' ≤ character ∧ character ≤ '9' then character.toNat - '0'.toNat
    else if 'a' ≤ character ∧ character ≤ 'f' then character.toNat - 'a'.toNat + 10
    else if 'A' ≤ character ∧ character ≤ 'F' then character.toNat - 'A'.toNat + 10
    else 16
  if value < base then some value else none

/-- At least one digit is needed. -/
def natural? (base : Nat) (characters : List Char) : Option Nat :=
  if characters.isEmpty then none
  else characters.foldlM (fun value character => (digit? base character).map (value * base + ·)) 0

def isSign (character : Char) : Bool :=
  character == '+' || character == '-'

def startsWithSign (characters : List Char) : Bool :=
  characters.head?.any isSign

/-- Digits after a leading zero are a text and no number. -/
def zeroPadded (characters : List Char) : Bool :=
  let digits := if startsWithSign characters then characters.drop 1 else characters
  2 ≤ digits.length && digits.head? == some '0' && digits.all fun digit => (digit? 10 digit).isSome

def withoutPlus : List Char → List Char
  | '+' :: rest => rest
  | characters => characters

/-- A number without a minus sign, in base ten or in a base that its first two characters name. -/
def unsigned? (characters : List Char) : Option Nat :=
  let body := withoutPlus characters
  let based (base : Nat) : Option Nat :=
    if startsWithSign (body.drop 2) then none else natural? base (body.drop 2)
  match body with
  | '0' :: 'x' :: _ => based 16
  | '0' :: 'o' :: _ => based 8
  | '0' :: 'b' :: _ => based 2
  | _ => if startsWithSign body || zeroPadded characters then none else natural? 10 body

/-- This is the magnitude of a number with a minus sign. -/
def negative? (characters : List Char) : Option Nat :=
  match characters with
  | '-' :: '0' :: 'x' :: rest => natural? 16 rest
  | '-' :: '0' :: 'o' :: rest => natural? 8 rest
  | '-' :: '0' :: 'b' :: rest => natural? 2 rest
  | '-' :: rest => if zeroPadded characters then none else natural? 10 rest
  | _ => none

/-- This splits off the digits that come first. -/
def digitsOf (characters : List Char) : List Char × List Char :=
  characters.span fun character => (digit? 10 character).isSome

/-- An exponent is a letter and a number that may have a sign. -/
def exponent? : List Char → Option Int
  | [] => some 0
  | letter :: rest =>
      if letter = 'e' ∨ letter = 'E' then
        match rest with
        | '+' :: digits => (natural? 10 digits).map Int.ofNat
        | '-' :: digits => (natural? 10 digits).map fun value => -(value : Int)
        | digits => (natural? 10 digits).map Int.ofNat
      else none

/-- A decimal has digits before the point or after it, and may have an exponent. -/
def decimal? (characters : List Char) : Option Decimal :=
  let (whole, rest) := digitsOf characters
  let (fraction, rest) :=
    match rest with
    | '.' :: after => digitsOf after
    | _ => ([], rest)
  if whole.isEmpty && fraction.isEmpty then none
  else do
    let digits ← natural? 10 (whole ++ fraction)
    let exponent ← exponent? rest
    some ⟨digits, exponent - fraction.length⟩

/-- The infinities and the number that is none are no numbers of a document. -/
def isUnbounded (text : String) : Bool :=
  [".inf", ".Inf", ".INF", "+.inf", "+.Inf", "+.INF", "-.inf", "-.Inf", "-.INF", ".nan", ".NaN",
    ".NAN"].contains text

/-- A number that is no whole number, if it is finite. -/
def double? (characters : List Char) : Option Double :=
  if startsWithSign characters && startsWithSign (characters.drop 1) then none
  else
    let negative := characters.head? == some '-'
    let body := if startsWithSign characters then characters.drop 1 else characters
    (decimal? body).bind (Decimal.nearest? negative)

/-- A plain scalar stands for null, a truth value, a number or, failing all of them, a text. There is no
value for a whole number that fits 128 bits but not 64. -/
def resolve? (text : String) : Option Value :=
  let characters := text.toList
  if isNull text then some .null
  else
    match bool? text with
    | some value => some (.bool value)
    | none =>
        match unsigned? characters, negative? characters with
        | some value, _ =>
            if value < UInt64.size then some (.number (.unsigned (UInt64.ofNat value)))
            else if value < Nat.pow 2 128 then none
            else some (large text characters)
        | none, some magnitude =>
            if magnitude = 0 then some (.number (.unsigned 0))
            else
              match Number.negated? magnitude with
              | some number => some (.number number)
              | none =>
                  if magnitude ≤ Nat.pow 2 127 then none else some (large text characters)
        | none, none => some (large text characters)
where
  /-- This is the value of a plain scalar that is no whole number. -/
  large (text : String) (characters : List Char) : Value :=
    if isUnbounded text then .null
    else if zeroPadded characters then .text text
    else
      match double? characters with
      | some value => .number (.double value)
      | none => .text text

end ContactRules.Yaml.Scalar
