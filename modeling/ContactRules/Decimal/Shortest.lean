/-
This file chooses the decimal with the fewest digits that reads back as a double.
-/

import ContactRules.Decimal.Double

namespace ContactRules

/-- A decimal has the value `digits * 10 ^ exponent`. -/
structure Decimal where
  digits : Nat
  exponent : Int
deriving DecidableEq

namespace Double

/-- The numbers that round to a double lie between two ends, here in quarters of a quantum. The gap
below a power of two is half as wide as the gap above it. -/
def lowerEnd (double : Double) : Nat :=
  let gap := if double.mantissa = 0x10000000000000 ∧ double.shift ≠ 0 then 1 else 2
  (4 * double.mantissa - gap) <<< double.shift

def upperEnd (double : Double) : Nat :=
  (4 * double.mantissa + 2) <<< double.shift

/-- A number is given as `numerator / denominator` quarters of a quantum. An end rounds to the double
exactly when its mantissa is even. -/
def admits (double : Double) (numerator denominator : Nat) : Bool :=
  let lower := double.lowerEnd * denominator
  let upper := double.upperEnd * denominator
  if double.mantissa % 2 = 0 then lower ≤ numerator && numerator ≤ upper
  else lower < numerator && numerator < upper

/-- This writes `count * 10 ^ exponent` as a fraction of quarters of a quantum. -/
def quarters (count : Nat) (exponent : Int) : Nat × Nat :=
  if 0 ≤ exponent then (count * Nat.pow 10 exponent.toNat * (4 * quantaPerUnit), 1)
  else (count * (4 * quantaPerUnit), Nat.pow 10 (-exponent).toNat)

/-- The magnitude is at least the given power of ten. -/
def reaches (double : Double) (exponent : Int) : Bool :=
  let power := quarters 1 exponent
  power.1 ≤ 4 * double.magnitude * power.2

/-- The exponent of the greatest power of ten that a positive magnitude reaches. The guess from the
binary exponent is at most one off. -/
def decimalExponent (double : Double) : Int :=
  let guess := ((double.magnitude.log2 : Int) - 1074) * 30103 / 100000
  if !double.reaches guess then guess - 1
  else if double.reaches (guess + 1) then guess + 1
  else guess

/-- On the grid of multiples of a power of ten, the neighbour of the magnitude that rounds to the
double, if there is one. Of two, the nearer is taken, and of two equally near the even one. -/
def onGrid? (double : Double) (exponent : Int) : Option Decimal :=
  let unit := quarters 1 exponent
  let scaled := 4 * double.magnitude * unit.2
  let below := scaled / unit.1
  let holds (count : Nat) : Bool := double.admits (count * unit.1) unit.2
  match holds below, holds (below + 1) with
  | true, true => some ⟨nearestWhole scaled unit.1, exponent⟩
  | true, false => some ⟨below, exponent⟩
  | false, true => some ⟨below + 1, exponent⟩
  | false, false => none

/-- The fewest digits that read back, of seventeen at most. The coarsest grid is that of the next
power of ten, to which a magnitude just below it may round. -/
def shortest (double : Double) : Decimal :=
  let top := double.decimalExponent + 1
  let grids := (List.range 18).map fun count : Nat => top - (count : Int)
  (grids.findSome? double.onGrid?).getD ⟨double.magnitude, -1074⟩

/-- Digits are written with a point while the number needs at most sixteen places before it or five
after it, and otherwise with one digit before the point and a signed exponent. -/
def magnitudeText (double : Double) : String :=
  if double.mantissa = 0 then "0.0"
  else
    let decimal := double.shortest
    let digits := toString decimal.digits
    let length := digits.length
    let point := (length : Int) + decimal.exponent
    let zeros (count : Int) : String := String.ofList (List.replicate count.toNat '0')
    if 0 ≤ decimal.exponent ∧ point ≤ 16 then digits ++ zeros decimal.exponent ++ ".0"
    else if 0 < point ∧ point ≤ 16 then
      String.ofList (digits.toList.take point.toNat) ++ "." ++
        String.ofList (digits.toList.drop point.toNat)
    else if -5 < point ∧ point ≤ 0 then "0." ++ zeros (-point) ++ digits
    else
      let tail := digits.toList.drop 1
      let fraction := if tail.isEmpty then "" else "." ++ String.ofList tail
      let sign := if 1 ≤ point then "+" else "-"
      String.ofList (digits.toList.take 1) ++ fraction ++ "e" ++ sign ++
        toString (point - 1).natAbs

/-- This is the text of a double in a document; a negative zero keeps its sign. -/
def text (double : Double) : String :=
  if double.negative then "-" ++ double.magnitudeText else double.magnitudeText

end Double

end ContactRules
