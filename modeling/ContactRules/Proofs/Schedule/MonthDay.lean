/-
This file proves that a monthly schedule fires on one day of each month.
-/

import ContactRules.Proofs.Calendar.Gregorian
import ContactRules.Schedule.Firing

namespace ContactRules.Schedule

open ContactRules.Calendar

/-- The month after a month has the next number. -/
theorem nextMonth_number (number : Int) :
    nextMonth (number / 12) ((number % 12).toNat + 1) =
      ((number + 1) / 12, ((number + 1) % 12).toNat + 1) := by
  unfold nextMonth
  split <;> simp only [Prod.mk.injEq] <;> omega

/-- The last day of a month is one of its days, and none of those that each month has lies after it. -/
theorem lastDayOfMonth_bounds (number : Int) :
    28 ≤ lastDayOfMonth (number / 12) ((number % 12).toNat + 1) ∧
      lastDayOfMonth (number / 12) ((number % 12).toNat + 1) ≤ lengthOfMonth number := by
  have length := lengthOfMonth_ge number
  simp only [lastDayOfMonth, nextMonth_number]
  split
  · rename_i next isDay
    obtain ⟨_, first, _⟩ := (dayOfDate?_eq_some_iff (number + 1) 1 next).mp isDay
    obtain rfl : next = startOfMonth (number + 1) := by omega
    split
    · rw [ofDayNumber_before_next]
      omega
    · omega
  · omega

/-- This is the place in a month of a day that may have to stand for the last one. -/
def placeIn (number : Int) (wanted : Nat) : Nat :=
  clampDay (number / 12) ((number % 12).toNat + 1) wanted

/-- The day that is chosen in a month is one of its days. -/
theorem placeIn_bounds (number : Int) {wanted : Nat} (positive : 1 ≤ wanted) :
    1 ≤ placeIn number wanted ∧ placeIn number wanted ≤ lengthOfMonth number := by
  have bounds := lastDayOfMonth_bounds number
  simp only [placeIn, clampDay]
  omega

/-- This is the day of a month on which a monthly schedule fires. -/
def dayInMonth (number : Int) (wanted : Nat) : Int :=
  startOfMonth number + (placeIn number wanted - 1 : Nat)

/-- The day on which a monthly schedule fires does not lie before its month. -/
theorem dayInMonth_lower (number : Int) (wanted : Nat) :
    startOfMonth number ≤ dayInMonth number wanted := by
  simp only [dayInMonth]
  omega

/-- The day on which a monthly schedule fires lies before the next month. -/
theorem dayInMonth_upper (number : Int) {wanted : Nat} (positive : 1 ≤ wanted) :
    dayInMonth number wanted < startOfMonth (number + 1) := by
  have bounds := placeIn_bounds number positive
  rw [dayInMonth, startOfMonth_succ]
  omega

/-- The day on which a monthly schedule fires lies in the month for which it is chosen. -/
theorem monthOf_dayInMonth (number : Int) {wanted : Nat} (positive : 1 ≤ wanted) :
    monthOf (dayInMonth number wanted) = number :=
  (monthOf_eq_iff _ _).mpr ⟨dayInMonth_lower number wanted, dayInMonth_upper number positive⟩

/-- A day has the place that a monthly schedule wants exactly when it is the one day of its month on which
the schedule fires. -/
theorem day_eq_clampDay_iff (day : Int) (wanted : Nat) :
    (Date.ofDayNumber day).day =
        clampDay (Date.ofDayNumber day).year (Date.ofDayNumber day).month wanted ↔
      1 ≤ wanted ∧ day = dayInMonth (monthOf day) wanted := by
  have place := ofDayNumber_day day
  have starts := startOfMonth_monthOf_le day
  rw [ofDayNumber_year, ofDayNumber_month, ← placeIn, dayInMonth]
  constructor
  · intro same
    have wantedPositive : 1 ≤ wanted := by
      simp only [placeIn, clampDay] at same
      omega
    exact ⟨wantedPositive, by omega⟩
  · rintro ⟨positive, same⟩
    have bounds := placeIn_bounds (monthOf day) positive
    omega

end ContactRules.Schedule
