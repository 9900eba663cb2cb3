/-
This file defines the finite binary numbers of 53 bits and the rounding of a quotient to the nearest one.
-/

namespace ContactRules

/-- A double is a sign and a magnitude of `mantissa * 2 ^ shift` quanta, where a quantum is
`2 ^ (-1074)`, the least positive double. The mantissa has at most 53 bits, and all of them where
the shift is not zero, so each magnitude has one form. -/
structure Double where
  negative : Bool
  mantissa : Nat
  shift : Nat
  mantissaBound : mantissa < 0x20000000000000
  normal : shift = 0 ∨ 0x10000000000000 ≤ mantissa
  shiftBound : shift ≤ 2045
deriving DecidableEq

namespace Double

/-- This is the number of quanta in one. -/
def quantaPerUnit : Nat := 1 <<< 1074

/-- This is the magnitude in quanta. -/
def magnitude (double : Double) : Nat :=
  double.mantissa <<< double.shift

/-- This is the exact value in quanta. -/
def quanta (double : Double) : Int :=
  if double.negative then -(double.magnitude : Int) else double.magnitude

def zero : Double := ⟨false, 0, 0, by decide, Or.inl rfl, by decide⟩

def greatest : Double := ⟨false, 0x1fffffffffffff, 2045, by decide, Or.inr (by decide), by decide⟩

def withSign (negative : Bool) (double : Double) : Double :=
  { double with negative := negative }

/-- The two zeros have one value, although they are written differently. -/
def sameValue (left right : Double) : Bool :=
  left.quanta == right.quanta

/-- This rounds a quotient to the nearest whole number, and a half to the even neighbour. -/
def nearestWhole (numerator denominator : Nat) : Nat :=
  let below := numerator / denominator
  let twice := 2 * (numerator % denominator)
  if twice < denominator then below
  else if denominator < twice then below + 1
  else below + below % 2

/-- A quotient is not rounded below the whole number that it contains. -/
theorem nearestWhole_ge (numerator denominator : Nat) :
    numerator / denominator ≤ nearestWhole numerator denominator := by
  unfold nearestWhole
  dsimp only
  split
  · exact Nat.le_refl _
  · split
    · exact Nat.le_succ _
    · exact Nat.le_add_right _ _

/-- A quotient is not rounded beyond the next whole number. -/
theorem nearestWhole_le (numerator denominator : Nat) :
    nearestWhole numerator denominator ≤ numerator / denominator + 1 := by
  unfold nearestWhole
  dsimp only
  split
  · exact Nat.le_succ _
  · split
    · exact Nat.le_refl _
    · have : numerator / denominator % 2 < 2 := Nat.mod_lt _ (by decide)
      omega

/-- The grid for a magnitude: neighbours on it differ by `2 ^ gridShift whole` quanta. -/
def gridShift (whole : Nat) : Nat :=
  whole.log2 - 52

/-- After the shift a number has no more bits than a significand. -/
theorem shiftRight_gridShift_lt (whole : Nat) : whole >>> gridShift whole < 0x20000000000000 := by
  rw [Nat.shiftRight_eq_div_pow]
  apply (Nat.div_lt_iff_lt_mul (Nat.two_pow_pos _)).mpr
  have wider : whole.log2 + 1 ≤ 53 + gridShift whole := by unfold gridShift; omega
  exact Nat.lt_of_lt_of_le Nat.lt_log2_self
    (Nat.le_trans (Nat.pow_le_pow_right (by decide) wider) (Nat.le_of_eq (Nat.pow_add 2 53 _)))

/-- Where something is shifted out, the significand that is left is full. -/
theorem le_shiftRight_gridShift (whole : Nat) (shifted : gridShift whole ≠ 0) :
    0x10000000000000 ≤ whole >>> gridShift whole := by
  rw [Nat.shiftRight_eq_div_pow]
  apply (Nat.le_div_iff_mul_le (Nat.two_pow_pos _)).mpr
  have exponent : 52 + gridShift whole = whole.log2 := by unfold gridShift at *; omega
  have nonzero : whole ≠ 0 := by
    intro isZero
    subst isZero
    exact shifted (by decide)
  refine Nat.le_trans (Nat.le_of_eq (Nat.pow_add 2 52 _).symm) ?_
  rw [exponent]
  exact Nat.log2_self_le nonzero

/-- This rounds a magnitude of `numerator / denominator` quanta to the nearest double, a tie going
to the even mantissa. There is none when the result would lie beyond the greatest double. -/
def ofQuanta? (negative : Bool) (numerator denominator : Nat) : Option Double :=
  let whole := numerator / denominator
  let shift := gridShift whole
  let mantissa := nearestWhole numerator (denominator <<< shift)
  have atLeast : shift = 0 ∨ 0x10000000000000 ≤ mantissa := by
    by_cases shifted : shift = 0
    · exact Or.inl shifted
    · have grid := le_shiftRight_gridShift whole shifted
      have above := nearestWhole_ge numerator (denominator <<< shift)
      have quotient : whole >>> shift = numerator / (denominator <<< shift) := by
        rw [Nat.shiftLeft_eq, Nat.shiftRight_eq_div_pow, Nat.div_div_eq_div_mul]
      exact Or.inr (Nat.le_trans grid (quotient ▸ above))
  if small : mantissa < 0x20000000000000 then
    if inRange : shift ≤ 2045 then some ⟨negative, mantissa, shift, small, atLeast, inRange⟩ else none
  else
    if inRange : shift + 1 ≤ 2045 then
      some ⟨negative, 0x10000000000000, shift + 1, by decide, Or.inr (Nat.le_refl _), inRange⟩
    else none

/-- This rounds a magnitude of `numerator / denominator` to the nearest double. -/
def ofRatio? (negative : Bool) (numerator denominator : Nat) : Option Double :=
  ofQuanta? negative (numerator * quantaPerUnit) denominator

/-- This is the double nearest to a whole number, or the greatest one beyond its reach. -/
def ofNat (number : Nat) : Double :=
  (ofRatio? false number 1).getD greatest

/-- This is the double nearest to an integer. -/
def ofInt (number : Int) : Double :=
  (ofNat number.natAbs).withSign (number < 0)

/-- The product of magnitudes, rounded, under the sign of the first factor. -/
def scaleUp? (double factor : Double) : Option Double :=
  ofQuanta? double.negative (double.magnitude * factor.magnitude) quantaPerUnit

/-- The quotient of magnitudes, rounded, under the sign of the dividend. -/
def scaleDown? (double divisor : Double) : Option Double :=
  ofQuanta? double.negative (double.magnitude * quantaPerUnit) divisor.magnitude

end Double

end ContactRules
