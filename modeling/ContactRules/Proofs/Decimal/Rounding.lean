/-
This file proves that a number is rounded to a double that is nearest to it, and that whole numbers of 53 bits are
doubles themselves.
-/

import Mathlib.Algebra.Ring.Nat
import ContactRules.Decimal.Double

namespace ContactRules.Double

/-- This is how far two magnitudes are apart. -/
def distance (left right : Nat) : Nat :=
  (left - right) + (right - left)

/-- No other multiple of the denominator is nearer to the numerator. -/
theorem nearestWhole_nearest (numerator : Nat) {denominator : Nat} (positive : 0 < denominator) (count : Nat) :
    distance (nearestWhole numerator denominator * denominator) numerator ≤
      distance (count * denominator) numerator := by
  have parts := Nat.div_add_mod' numerator denominator
  have small := Nat.mod_lt numerator positive
  -- The denominator times the count lies on one side of the numerator, and the nearest multiple on either.
  have side : count * denominator ≤ numerator / denominator * denominator ∨
      (numerator / denominator + 1) * denominator ≤ count * denominator := by
    rcases Nat.lt_or_ge (numerator / denominator) count with above | below
    · exact Or.inr (Nat.mul_le_mul_right _ above)
    · exact Or.inl (Nat.mul_le_mul_right _ below)
  have next : (numerator / denominator + 1) * denominator = numerator / denominator * denominator + denominator :=
    Nat.succ_mul _ _
  unfold distance nearestWhole
  dsimp only
  split
  · omega
  · split
    · omega
    · rcases Nat.mod_two_eq_zero_or_one (numerator / denominator) with even | odd
      · rw [even, Nat.add_zero]
        omega
      · rw [odd]
        omega

section Magnitudes

variable {double : Double}

/-- No magnitude is greater than that of the greatest double. -/
theorem magnitude_le (double : Double) : double.magnitude ≤ greatest.magnitude := by
  have mantissa : double.mantissa ≤ 0x1fffffffffffff := Nat.le_of_lt_succ double.mantissaBound
  simp only [magnitude, Nat.shiftLeft_eq]
  exact Nat.mul_le_mul mantissa (Nat.pow_le_pow_right (by decide) double.shiftBound)

/-- On a grid that is not the finest, a magnitude is a point of the grid or lies below the least mantissa that is
normal there. -/
theorem magnitude_on_grid (double : Double) (shift : Nat) :
    (∃ count, double.magnitude = count <<< shift) ∨
      shift ≠ 0 ∧ double.magnitude < 0x10000000000000 <<< shift := by
  simp only [magnitude, Nat.shiftLeft_eq]
  rcases Nat.lt_or_ge double.shift shift with finer | coarser
  · refine Or.inr ⟨Nat.ne_zero_of_lt finer, ?_⟩
    calc double.mantissa * 2 ^ double.shift
        < 0x20000000000000 * 2 ^ double.shift :=
          Nat.mul_lt_mul_of_pos_right double.mantissaBound (Nat.two_pow_pos _)
      _ = 0x10000000000000 * 2 ^ (double.shift + 1) := by rw [Nat.pow_succ]; omega
      _ ≤ 0x10000000000000 * 2 ^ shift :=
          Nat.mul_le_mul_left _ (Nat.pow_le_pow_right (by decide) finer)
  · refine Or.inl ⟨double.mantissa * 2 ^ (double.shift - shift), ?_⟩
    rw [Nat.mul_assoc, ← Nat.pow_add, Nat.sub_add_cancel coarser]

/-- A mantissa of at most 53 bits gives a magnitude on each grid. -/
theorem exists_magnitude (mantissa shift : Nat) (small : mantissa ≤ 0x20000000000000) (bound : shift < 2045) :
    ∃ double : Double, double.magnitude = mantissa <<< shift := by
  have normalForm (mantissa shift : Nat) (small : mantissa < 0x20000000000000) (bound : shift ≤ 2045)
      (normal : shift = 0 ∨ 0x10000000000000 ≤ mantissa) :
      ∃ double : Double, double.magnitude = mantissa <<< shift :=
    ⟨⟨false, mantissa, shift, small, normal, bound⟩, rfl⟩
  have doubled (mantissa shift : Nat) : (2 * mantissa) <<< shift = mantissa <<< (shift + 1) := by
    simp only [Nat.shiftLeft_eq, Nat.pow_succ]
    rw [Nat.mul_comm 2, Nat.mul_assoc, Nat.mul_comm 2]
  induction shift generalizing mantissa with
  | zero =>
      rcases Nat.lt_or_eq_of_le small with less | rfl
      · exact normalForm mantissa 0 less (Nat.zero_le _) (Or.inl rfl)
      · exact normalForm 0x10000000000000 1 (by decide) (by decide) (Or.inr (Nat.le_refl _))
  | succ shift inductionHypothesis =>
      rcases Nat.lt_or_ge mantissa 0x10000000000000 with subnormal | normal
      · rw [← doubled]
        exact inductionHypothesis (2 * mantissa) (by omega) (by omega)
      · rcases Nat.lt_or_eq_of_le small with less | rfl
        · exact normalForm mantissa (shift + 1) less (by omega) (Or.inr normal)
        · have carried := doubled 0x10000000000000 (shift + 1)
          rw [show 0x20000000000000 = 2 * 0x10000000000000 from rfl, carried]
          exact normalForm 0x10000000000000 (shift + 2) (by decide) (by omega) (Or.inr (Nat.le_refl _))

end Magnitudes

section Rounding

variable {negative : Bool} {numerator denominator : Nat} {double : Double}

/-- Rounding keeps the sign. -/
theorem ofQuanta?_negative (rounded : ofQuanta? negative numerator denominator = some double) :
    double.negative = negative := by
  unfold ofQuanta? at rounded
  dsimp only at rounded
  split at rounded <;> split at rounded <;> cases rounded <;> rfl

/-- A mantissa is rounded to a number of 53 bits, or up to the first one that has more. -/
theorem mantissa_le (numerator denominator : Nat) :
    nearestWhole numerator (denominator <<< gridShift (numerator / denominator)) ≤ 0x20000000000000 := by
  have grid := shiftRight_gridShift_lt (numerator / denominator)
  rw [Nat.shiftRight_eq_div_pow, Nat.div_div_eq_div_mul, ← Nat.shiftLeft_eq] at grid
  exact Nat.le_trans (nearestWhole_le _ _) grid

/-- A magnitude is rounded to the nearest point of its grid, also where the mantissa is carried over. -/
theorem magnitude_ofQuanta? (rounded : ofQuanta? negative numerator denominator = some double) :
    double.magnitude =
      nearestWhole numerator (denominator <<< gridShift (numerator / denominator)) <<<
        gridShift (numerator / denominator) := by
  have most := mantissa_le numerator denominator
  unfold ofQuanta? at rounded
  dsimp only at rounded
  split at rounded
  · split at rounded
    · cases rounded
      rfl
    · cases rounded
  · split at rounded
    · cases rounded
      have carried : nearestWhole numerator (denominator <<< gridShift (numerator / denominator)) =
          0x20000000000000 := by omega
      rw [carried]
      simp only [magnitude, Nat.shiftLeft_eq, Nat.pow_succ]
      omega
    · cases rounded

/-- A shift and a product may change places. -/
theorem shiftLeft_mul (count denominator shift : Nat) :
    count <<< shift * denominator = count * denominator <<< shift := by
  simp only [Nat.shiftLeft_eq]
  rw [Nat.mul_right_comm, Nat.mul_assoc]

/-- Unless its grid is the finest one, the quotient reaches the least mantissa that is normal there. -/
theorem normal_le (numerator denominator : Nat) (shifted : gridShift (numerator / denominator) ≠ 0) :
    0x10000000000000 <<< gridShift (numerator / denominator) * denominator ≤ numerator := by
  have reached := le_shiftRight_gridShift (numerator / denominator) shifted
  rw [Nat.shiftRight_eq_div_pow, Nat.le_div_iff_mul_le (Nat.two_pow_pos _)] at reached
  rw [Nat.shiftLeft_eq]
  exact Nat.le_trans (Nat.mul_le_mul_right denominator reached) (Nat.div_mul_le_self _ _)

/-- A full mantissa that is shifted too far is greater than all doubles. -/
theorem greatest_le_shiftLeft {mantissa shift : Nat} (full : 0x1fffffffffffff ≤ mantissa) (far : 2045 ≤ shift) :
    greatest.magnitude ≤ mantissa <<< shift := by
  rw [magnitude, Nat.shiftLeft_eq, Nat.shiftLeft_eq]
  exact Nat.mul_le_mul full (Nat.pow_le_pow_right (by decide) far)

/-- Only beyond the greatest double there is none to round to. -/
theorem greatest_le_of_unrounded (unrounded : ofQuanta? negative numerator denominator = none) :
    greatest.magnitude * denominator ≤ numerator := by
  unfold ofQuanta? at unrounded
  dsimp only at unrounded
  split at unrounded
  · split at unrounded
    · cases unrounded
    · rename_i beyond
      have reached := normal_le numerator denominator (by omega)
      obtain ⟨shift, isNext⟩ : ∃ shift, gridShift (numerator / denominator) = shift + 1 :=
        Nat.exists_eq_succ_of_ne_zero (by omega)
      have carried : 0x10000000000000 <<< gridShift (numerator / denominator) = 0x20000000000000 <<< shift := by
        rw [isNext, Nat.shiftLeft_eq, Nat.shiftLeft_eq, Nat.pow_succ]
        omega
      rw [carried] at reached
      exact Nat.le_trans (Nat.mul_le_mul_right _ (greatest_le_shiftLeft (by decide) (by omega))) reached
  · split at unrounded
    · cases unrounded
    · rename_i full beyond
      have most := nearestWhole_le numerator (denominator <<< gridShift (numerator / denominator))
      have reached := Nat.div_mul_le_self numerator (denominator <<< gridShift (numerator / denominator))
      rw [← shiftLeft_mul] at reached
      exact Nat.le_trans (Nat.mul_le_mul_right _ (greatest_le_shiftLeft (by omega) (by omega))) reached

/-- No other magnitude is nearer to the quotient than the one that it is rounded to. -/
theorem ofQuanta?_nearest (positive : 0 < denominator)
    (rounded : ofQuanta? negative numerator denominator = some double) (other : Double) :
    distance (double.magnitude * denominator) numerator ≤ distance (other.magnitude * denominator) numerator := by
  have stepPositive : 0 < denominator <<< gridShift (numerator / denominator) := by
    rw [Nat.shiftLeft_eq]
    exact Nat.mul_pos positive (Nat.two_pow_pos _)
  have nearest := nearestWhole_nearest numerator stepPositive
  rw [magnitude_ofQuanta? rounded, shiftLeft_mul]
  rcases other.magnitude_on_grid (gridShift (numerator / denominator)) with ⟨count, onGrid⟩ | ⟨shifted, below⟩
  · rw [onGrid, shiftLeft_mul]
    exact nearest count
  · have reached := normal_le numerator denominator shifted
    have less : other.magnitude * denominator ≤
        0x10000000000000 <<< gridShift (numerator / denominator) * denominator :=
      Nat.mul_le_mul_right _ (Nat.le_of_lt below)
    refine Nat.le_trans (nearest 0x10000000000000) ?_
    rw [← shiftLeft_mul]
    unfold distance
    omega

end Rounding

section Whole

/-- The exact value of a double is its magnitude with a sign. -/
theorem quanta_eq_or (double : Double) :
    double.quanta = double.magnitude ∨ double.quanta = -(double.magnitude : Int) := by
  unfold quanta
  split
  · exact Or.inr rfl
  · exact Or.inl rfl

/-- No other double is nearer to an exact value, which is given in quanta. -/
def IsNearest (double : Double) (target : Int) : Prop :=
  ∀ other : Double, (double.quanta - target).natAbs ≤ (other.quanta - target).natAbs

/-- Values are rounded in their order. -/
theorem IsNearest.mono {lower upper : Double} {least most : Int} (nearLower : lower.IsNearest least)
    (nearUpper : upper.IsNearest most) (less : least < most) : lower.quanta ≤ upper.quanta := by
  have first := nearLower upper
  have second := nearUpper lower
  omega

/-- The value of a double is not rounded. -/
theorem IsNearest.exact {double other : Double} (nearest : double.IsNearest other.quanta) :
    double.quanta = other.quanta := by
  have first := nearest other
  omega

theorem quanta_withSign (negative : Bool) (double : Double) :
    (double.withSign negative).quanta = if negative then -(double.magnitude : Int) else double.magnitude := rfl

/-- A natural number is rounded to a double without a sign. -/
theorem ofNat_negative (number : Nat) : (ofNat number).negative = false := by
  unfold ofNat ofRatio?
  cases rounded : ofQuanta? false (number * quantaPerUnit) 1 with
  | none => rfl
  | some double => exact ofQuanta?_negative rounded

/-- The magnitude of a whole number is the nearest one, and the greatest one beyond its reach. -/
theorem ofNat_nearest (number : Nat) (other : Double) :
    distance (ofNat number).magnitude (number * quantaPerUnit) ≤
      distance other.magnitude (number * quantaPerUnit) := by
  unfold ofNat ofRatio?
  cases rounded : ofQuanta? false (number * quantaPerUnit) 1 with
  | none =>
      have beyond := greatest_le_of_unrounded rounded
      have most := other.magnitude_le
      rw [Nat.mul_one] at beyond
      unfold distance
      rw [Option.getD_none]
      omega
  | some double =>
      have nearest := ofQuanta?_nearest Nat.one_pos rounded other
      rwa [Nat.mul_one, Nat.mul_one] at nearest

/-- An integer is its magnitude with a sign, in any unit. -/
theorem signed_eq (number : Int) (unit : Nat) :
    number * unit =
      if number < 0 then -((number.natAbs * unit : Nat) : Int) else ((number.natAbs * unit : Nat) : Int) := by
  rw [Int.natCast_mul]
  split
  · have magnitude : (number.natAbs : Int) = -number := by omega
    rw [magnitude, Int.neg_mul, Int.neg_neg]
  · have magnitude : (number.natAbs : Int) = number := by omega
    rw [magnitude]

/-- An integer is rounded to a double that is nearest to it. -/
theorem ofInt_isNearest (number : Int) : (ofInt number).IsNearest (number * quantaPerUnit) := by
  intro other
  have near := ofNat_nearest number.natAbs other
  unfold distance at near
  rw [ofInt, quanta_withSign, signed_eq]
  simp only [decide_eq_true_eq]
  split <;> rcases other.quanta_eq_or with same | same <;> rw [same] <;> omega

/-- A natural number is rounded like the integer that it is. -/
theorem quanta_ofNat (number : Nat) : (ofNat number).quanta = (ofInt number).quanta := by
  have positive : ¬ (number : Int) < 0 := by omega
  rw [quanta, ofNat_negative, ofInt, quanta_withSign, decide_eq_false positive, Int.natAbs_natCast]

/-- Whole numbers of at most 53 bits are doubles. -/
theorem exists_whole (number : Int) (small : number.natAbs ≤ 0x20000000000000) :
    ∃ double : Double, double.quanta = number * quantaPerUnit := by
  obtain ⟨double, isMagnitude⟩ := exists_magnitude number.natAbs 1074 small (by decide)
  have whole : double.magnitude = number.natAbs * quantaPerUnit :=
    isMagnitude.trans ((Nat.mul_one _).symm.trans (shiftLeft_mul _ 1 1074))
  refine ⟨double.withSign (number < 0), ?_⟩
  rw [quanta_withSign, signed_eq, whole]
  simp only [decide_eq_true_eq]

/-- What is nearest to a whole number of at most 53 bits is this number. -/
theorem IsNearest.whole {double : Double} {number : Int} (nearest : double.IsNearest (number * quantaPerUnit))
    (small : number.natAbs ≤ 0x20000000000000) : double.quanta = number * quantaPerUnit := by
  obtain ⟨whole, same⟩ := exists_whole number small
  rw [← same] at nearest ⊢
  exact nearest.exact

section Natural

variable {number count most : Nat}

/-- A natural number is rounded to a double that is nearest to it. -/
theorem ofNat_isNearest (number : Nat) : (ofNat number).IsNearest ((number : Int) * quantaPerUnit) := by
  intro other
  rw [quanta_ofNat]
  exact ofInt_isNearest number other

/-- A natural number of at most 53 bits is not rounded. -/
theorem ofNat_exact (small : number ≤ 0x20000000000000) : (ofNat number).quanta = number * quantaPerUnit :=
  (ofNat_isNearest number).whole small

theorem quantaPerUnit_pos : (0 : Int) < quantaPerUnit := by decide

/-- Natural numbers are rounded in their order. -/
theorem ofNat_mono (ordered : count ≤ most) : (ofNat count).quanta ≤ (ofNat most).quanta := by
  rcases Nat.lt_or_eq_of_le ordered with less | rfl
  · have apart : (count : Int) * quantaPerUnit < most * quantaPerUnit :=
      Int.mul_lt_mul_of_pos_right (Int.ofNat_lt.mpr less) quantaPerUnit_pos
    exact (ofNat_isNearest count).mono (ofNat_isNearest most) apart
  · exact Int.le_refl _

/-- A whole number below the limit is compared exactly, with however great a number. -/
theorem ofNat_le_ofNat_iff (small : most < 0x20000000000000) :
    (ofNat count).quanta ≤ (ofNat most).quanta ↔ count ≤ most := by
  refine ⟨fun rounded => Nat.le_of_not_lt fun above => ?_, ofNat_mono⟩
  have next : (ofNat (most + 1)).quanta ≤ (ofNat count).quanta := ofNat_mono above
  have step : ((most + 1 : Nat) : Int) * quantaPerUnit = most * quantaPerUnit + quantaPerUnit := by
    rw [Int.natCast_succ, Int.add_mul, Int.one_mul]
  have unit := quantaPerUnit_pos
  rw [ofNat_exact (by omega), step] at next
  rw [ofNat_exact (by omega : most ≤ _)] at rounded
  omega

end Natural

end Whole

end ContactRules.Double
