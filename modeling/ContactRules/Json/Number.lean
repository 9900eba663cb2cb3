/-
This file defines the numbers of a document, which have three kinds.
-/

import ContactRules.Decimal.Shortest

namespace ContactRules.Json

/-- A whole number is kept exactly when it fits 64 bits, and any other number is a double. -/
inductive Number where
  | unsigned (value : UInt64)
  | negative (value : Int) (belowZero : value < 0) (inRange : -0x8000000000000000 ≤ value)
  | double (value : Double)
deriving DecidableEq

namespace Number

/-- Numbers of different kinds differ, even when they have one value. -/
def same : Number → Number → Bool
  | .unsigned left, .unsigned right => left == right
  | .negative left _ _, .negative right _ _ => left == right
  | .double left, .double right => left.sameValue right
  | _, _ => false

/-- This is the double nearest to a number. -/
def toDouble : Number → Double
  | .unsigned value => Double.ofNat value.toNat
  | .negative value _ _ => Double.ofInt value
  | .double value => value

/-- A whole number that does not fit 64 bits becomes the nearest double. -/
def ofNat (value : Nat) : Number :=
  if value < UInt64.size then .unsigned (UInt64.ofNat value) else .double (Double.ofNat value)

/-- The negative of a magnitude, where it lies below zero and fits 64 bits. -/
def negated? (magnitude : Nat) : Option Number :=
  if inRange : -(magnitude : Int) < 0 ∧ -0x8000000000000000 ≤ -(magnitude : Int) then
    some (.negative (-(magnitude : Int)) inRange.1 inRange.2)
  else none

def text : Number → String
  | .unsigned value => toString value.toNat
  | .negative value _ _ => toString value
  | .double value => value.text

end Number

end ContactRules.Json
