/-
This file rounds decimals to doubles.
-/

import ContactRules.Decimal.Shortest

namespace ContactRules.Decimal

/-- This is the double nearest to a decimal under a sign. There is none beyond the greatest one. Far
out of reach of the doubles the power of ten is not computed. -/
def nearest? (negative : Bool) (decimal : Decimal) : Option Double :=
  let places := ((toString decimal.digits).length : Int) + decimal.exponent
  if decimal.digits = 0 ∨ places < -400 then some (Double.zero.withSign negative)
  else if 400 < places then none
  else if 0 ≤ decimal.exponent then
    Double.ofRatio? negative (decimal.digits * Nat.pow 10 decimal.exponent.toNat) 1
  else Double.ofRatio? negative decimal.digits (Nat.pow 10 (-decimal.exponent).toNat)

/-- The greatest power of ten that scales a double in one step. -/
def scaleLimit : Nat := 308

/-- This divides by a power of ten, in steps of at most the greatest power. -/
def scaleDown (double : Double) (places : Nat) : Double :=
  if places ≤ scaleLimit then
    (double.scaleDown? (Double.ofNat (Nat.pow 10 places))).getD double
  else if double.mantissa = 0 then double
  else scaleDown ((double.scaleDown? (Double.ofNat (Nat.pow 10 scaleLimit))).getD double) (places - scaleLimit)
termination_by places
decreasing_by
  simp only [scaleLimit] at *
  omega

/-- This rounds the digits to a double first and then scales it by the double of a power of ten, so a
long numeral may come out next to its nearest double. There is none beyond the greatest one. -/
def scaled? (negative : Bool) (decimal : Decimal) : Option Double :=
  let digits := (Double.ofNat decimal.digits).withSign negative
  if decimal.exponent < 0 then some (scaleDown digits (-decimal.exponent).toNat)
  else if decimal.exponent.toNat ≤ scaleLimit then
    digits.scaleUp? (Double.ofNat (Nat.pow 10 decimal.exponent.toNat))
  else if digits.mantissa = 0 then some digits
  else none

end ContactRules.Decimal
