/-
This file proves that a monthly schedule fires in one minute of each month, and on which day that minute lies.
-/

import ContactRules.Proofs.Schedule.NextFiring
import ContactRules.Proofs.Wire.Record

namespace ContactRules

open ContactRules.Calendar
open ContactRules.Wire

namespace Calendar

/-- This is the number of the last month whose days can be represented. -/
def lastMonth : Int := 12 * 262142 + 11

/-- The last month ends with the last day that can be represented. -/
theorem startOfMonth_lastMonth_succ : startOfMonth (lastMonth + 1) = lastDay + 1 := by decide

/-- A month lies within the days that can be represented when each of its dates does. -/
theorem startOfMonth_bounds {number : Int}
    (whole : ∀ place, 1 ≤ place → place ≤ lengthOfMonth number →
      (dayOfDate? ⟨number / 12, (number % 12).toNat + 1, place⟩).isSome = true) :
    firstDay ≤ startOfMonth number ∧ startOfMonth (number + 1) ≤ lastDay + 1 := by
  have length := lengthOfMonth_ge number
  have inside {place : Nat} (least : 1 ≤ place) (most : place ≤ lengthOfMonth number) :
      isRepresentable (startOfMonth number + (place - 1 : Nat)) = true := by
    obtain ⟨day, isDay⟩ := Option.isSome_iff_exists.mp (whole place least most)
    obtain ⟨_, same, representable⟩ := (dayOfDate?_eq_some_iff number place day).mp isDay
    exact same ▸ representable
  have starts := isRepresentable_iff.mp (inside (Nat.le_refl 1) (by omega))
  have ends := isRepresentable_iff.mp (inside (show 1 ≤ lengthOfMonth number by omega) (Nat.le_refl _))
  rw [startOfMonth_succ]
  omega

/-- A month whose days can be represented is not after the last one. -/
theorem le_lastMonth {number : Int} (ends : startOfMonth (number + 1) ≤ lastDay + 1) : number ≤ lastMonth := by
  rw [← startOfMonth_lastMonth_succ, startOfMonth_le_iff] at ends
  omega

end Calendar

namespace Schedule

variable {schedule : Schedule}

/-- A value is accepted exactly when it lies between the bounds of its field. -/
theorem checkRange_eq_ok_iff {field : ScheduleField} {least most : Nat} {value : UInt32} :
    checkRange field least most value = .ok () ↔ least ≤ value.toNat ∧ value.toNat ≤ most := by
  unfold checkRange
  split <;> simp only [reduceCtorEq, false_iff, true_iff] <;> omega

/-- A field is accepted exactly when it is there and its value lies between the bounds. -/
theorem checkField_eq_ok_iff {field : ScheduleField} {least most : Nat} {value : Option UInt32} :
    schedule.checkField field least most value = .ok () ↔
      ∃ given, value = some given ∧ least ≤ given.toNat ∧ given.toNat ≤ most := by
  cases value with
  | none => simp [checkField]
  | some given => simp [checkField, checkRange_eq_ok_iff]

/-- A schedule that is accepted has what its recurrence needs and a time of day. -/
theorem validate_eq_ok (accepted : schedule.validate = .ok ()) :
    schedule.checkRecurrence = .ok () ∧ schedule.hour.toNat ≤ 23 ∧ schedule.minute.toNat ≤ 59 := by
  obtain ⟨_, recurs, rest⟩ := bind_eq_ok.mp accepted
  obtain ⟨_, hours, rest⟩ := bind_eq_ok.mp rest
  obtain ⟨_, minutes, _⟩ := bind_eq_ok.mp rest
  exact ⟨recurs, (checkRange_eq_ok_iff.mp hours).2, (checkRange_eq_ok_iff.mp minutes).2⟩

/-- The days of a month are counted from the start of the next one. There is no such start for the last month,
which then has as many days as each month has. -/
theorem lastDayOfMonth_eq {number : Int} (starts : firstDay ≤ startOfMonth number)
    (ends : startOfMonth (number + 1) ≤ lastDay + 1) :
    lastDayOfMonth (number / 12) ((number % 12).toNat + 1) =
      if number = lastMonth then 28 else lengthOfMonth number := by
  have length := lengthOfMonth_ge number
  have succ := startOfMonth_succ number
  simp only [lastDayOfMonth, nextMonth_number]
  split_ifs with isLast
  · subst isLast
    have missing : dayOfDate? ⟨(lastMonth + 1) / 12, ((lastMonth + 1) % 12).toNat + 1, 1⟩ = none := by decide
    rw [missing]
  · -- The next month is the last one at most, so its first day can be represented.
    have before : startOfMonth (number + 1) < startOfMonth (lastMonth + 1) := by
      have notAfter := le_lastMonth ends
      exact startOfMonth_lt_iff.mpr (by omega)
    rw [startOfMonth_lastMonth_succ] at before
    have nextLength := lengthOfMonth_ge (number + 1)
    have isDay : dayOfDate? ⟨(number + 1) / 12, ((number + 1) % 12).toNat + 1, 1⟩ =
        some (startOfMonth (number + 1)) :=
      (dayOfDate?_eq_some_iff _ _ _).mpr
        ⟨⟨Nat.le_refl 1, by omega⟩, (Int.add_zero _).symm, isRepresentable_iff.mpr (by omega)⟩
    have previous : isRepresentable (startOfMonth (number + 1) - 1) = true :=
      isRepresentable_iff.mpr (by omega)
    simp only [isDay, previous, if_true, ofDayNumber_before_next]

/-- The date of the day on which a monthly schedule fires has the number of the month and the place in it. -/
theorem ofDayNumber_dayInMonth (number : Int) {wanted : Nat} (positive : 1 ≤ wanted) :
    Date.ofDayNumber (dayInMonth number wanted) =
      ⟨number / 12, (number % 12).toNat + 1, placeIn number wanted⟩ := by
  have within := monthOf_dayInMonth number positive
  have bounds := placeIn_bounds number positive
  have year := ofDayNumber_year (dayInMonth number wanted)
  have month := ofDayNumber_month (dayInMonth number wanted)
  have day := ofDayNumber_day (dayInMonth number wanted)
  rw [within] at year month day
  rw [dayInMonth] at day
  have place : (Date.ofDayNumber (dayInMonth number wanted)).day = placeIn number wanted := by
    rw [dayInMonth]
    omega
  rw [← year, ← month, ← place]

/-- A monthly schedule without an end fires at its time of day on one day of each month. -/
theorem firesAt_monthly_iff (isMonthly : schedule.recurrence = .monthly) (endless : schedule.finish = none)
    {wanted : UInt32} (day : schedule.dayOfMonth = some wanted) (instant : Instant) :
    schedule.firesAt instant = true ↔ schedule.atTimeOfDay instant = true ∧
      1 ≤ wanted.toNat ∧ instant.day = dayInMonth (monthOf instant.day) wanted.toNat := by
  simp only [firesAt, isOver, endless, isMonthly, day, Option.any_none, Option.any_some, Bool.not_false,
    Bool.true_and, Bool.and_eq_true, beq_iff_eq, Instant.date, day_eq_clampDay_iff]

/-- A schedule that is accepted has a time on each day that can be represented. -/
theorem exists_onDay? (hours : schedule.hour.toNat ≤ 23) (minutes : schedule.minute.toNat ≤ 59) {day : Int}
    (lower : firstDay ≤ day) (upper : day ≤ lastDay) : ∃ instant, schedule.onDay? day = some instant := by
  have inDay : schedule.hour.toNat * 3600 + schedule.minute.toNat * 60 < 86400 := by omega
  rw [onDay?, Instant.ofMinute?, if_pos (by omega), Instant.ofSecond?, dif_pos ⟨lower, upper⟩, dif_pos inDay]
  exact ⟨_, rfl⟩

/-- Two instants at the time of day of a schedule lie in one minute exactly when they lie on one day. -/
theorem sameMinute_iff_day_eq {opening instant : Instant} (timed : schedule.atTimeOfDay opening = true) :
    opening.sameMinute instant = true ↔ schedule.atTimeOfDay instant = true ∧ instant.day = opening.day := by
  simp only [atTimeOfDay, Instant.hour, Instant.minute, Bool.and_eq_true, beq_iff_eq] at timed ⊢
  rw [Instant.sameMinute_iff]
  omega

/-- A monthly schedule that is accepted and has no end fires in a single minute of each month that can be
represented. The minute lies on the day that the schedule wants, or on the last day of a shorter month, except
that the last of all months is taken to have 28 days. -/
theorem monthly_fires_in_one_minute (accepted : schedule.validate = .ok ())
    (isMonthly : schedule.recurrence = .monthly) (endless : schedule.finish = none) {year : Int} {month : Nat}
    (isMonth : 1 ≤ month ∧ month ≤ 12)
    (whole : ∀ day, 1 ≤ day → day ≤ monthLength year month →
      (dayOfDate? ⟨year, month, day⟩).isSome = true) :
    ∃ (wanted : UInt32) (opening : Instant), schedule.dayOfMonth = some wanted ∧ opening.StartsMinute ∧
      opening.date = ⟨year, month,
        min wanted.toNat (if (year, month) = (262142, 12) then 28 else monthLength year month)⟩ ∧
      opening.hour = schedule.hour.toNat ∧ opening.minute = schedule.minute.toNat ∧
      ∀ instant : Instant, instant.date.year = year → instant.date.month = month →
        (schedule.firesAt instant = true ↔ opening.sameMinute instant = true) := by
  obtain ⟨recurs, hours, minutes⟩ := validate_eq_ok accepted
  rw [checkRecurrence, isMonthly] at recurs
  obtain ⟨wanted, given, positive, _⟩ := checkField_eq_ok_iff.mp recurs
  -- Months are numbered in a row, so that the end of a year is no case of its own.
  obtain ⟨number, rfl, rfl⟩ : ∃ number : Int, year = number / 12 ∧ month = (number % 12).toNat + 1 :=
    ⟨12 * year + (month - 1 : Nat), by omega, by omega⟩
  have isLast : (number / 12, (number % 12).toNat + 1) = ((262142, 12) : Int × Nat) ↔ number = lastMonth := by
    simp only [Prod.mk.injEq, lastMonth]
    omega
  obtain ⟨starts, ends⟩ := startOfMonth_bounds whole
  have lower := dayInMonth_lower number wanted.toNat
  have upper := dayInMonth_upper number positive
  obtain ⟨opening, opens⟩ :=
    exists_onDay? hours minutes (show firstDay ≤ dayInMonth number wanted.toNat by omega) (by omega)
  obtain ⟨onDay, timed, startsMinute⟩ := (onDay?_eq_some_iff _ _).mp opens
  obtain ⟨hour, minute⟩ : opening.hour = schedule.hour.toNat ∧ opening.minute = schedule.minute.toNat := by
    simpa only [atTimeOfDay, Bool.and_eq_true, beq_iff_eq] using timed
  refine ⟨wanted, opening, given, startsMinute, ?_, hour, minute, fun instant inYear inMonth => ?_⟩
  · rw [Instant.date, onDay, ofDayNumber_dayInMonth number positive, placeIn, clampDay,
      lastDayOfMonth_eq starts ends]
    simp only [isLast, lengthOfMonth]
  · have within : monthOf instant.day = number := by
      simp only [Instant.date, ofDayNumber_year, ofDayNumber_month] at inYear inMonth
      omega
    rw [firesAt_monthly_iff isMonthly endless given, sameMinute_iff_day_eq timed, onDay, within]
    simp only [positive, true_and]

/-- This schedule fires at noon of the last day of each month, since no month has more than 31 days. -/
def monthEnd : Schedule := Schedule.monthly 31 12 0

/-- The year 2000 is a leap year, although it begins a century. -/
theorem monthEnd_fires_on_leap_day : monthEnd.validate = .ok () ∧ ∃ opening : Instant,
    opening.StartsMinute ∧ opening.date = ⟨2000, 2, 29⟩ ∧ opening.hour = 12 ∧ opening.minute = 0 ∧
      ∀ instant : Instant, instant.date.year = 2000 → instant.date.month = 2 →
        (monthEnd.firesAt instant = true ↔ opening.sameMinute instant = true) := by
  have whole : ∀ day < 30, 1 ≤ day → (dayOfDate? ⟨2000, 2, day⟩).isSome = true := by decide
  obtain ⟨wanted, opening, given, startsMinute, date, hour, minute, fires⟩ :=
    @monthly_fires_in_one_minute monthEnd rfl rfl rfl 2000 2 (by decide)
      fun day least most => whole day (Nat.lt_succ_of_le most) least
  obtain rfl := Option.some.inj given
  exact ⟨rfl, opening, startsMinute, date, hour, minute, fires⟩

/-- The days of the last of all months can be represented, but the schedule fires on its 28th day, and not on
its last one. -/
theorem monthEnd_fires_early_in_last_month : monthEnd.validate = .ok () ∧ monthEnd.recurrence = .monthly ∧
    monthEnd.finish = none ∧ monthLength 262142 12 = 31 ∧
    (∀ day < 32, 1 ≤ day → (dayOfDate? ⟨262142, 12, day⟩).isSome = true) ∧
    ∃ early late : Instant, early.date = ⟨262142, 12, 28⟩ ∧ monthEnd.firesAt early = true ∧
      late.date = ⟨262142, 12, 31⟩ ∧ late.hour = 12 ∧ late.minute = 0 ∧ monthEnd.firesAt late = false :=
  ⟨rfl, rfl, rfl, rfl, by decide,
    ⟨lastDay - 3, 43200, 0, by decide, by decide, .inl (by decide)⟩,
    ⟨lastDay, 43200, 0, by decide, by decide, .inl (by decide)⟩,
    by decide, by decide, by decide, rfl, rfl, by decide⟩

end Schedule

end ContactRules
