/-
This file proves that a schedule that fires again and again does so within a day, a week or 31 days.
-/

import ContactRules.Proofs.Schedule.Monthly

namespace ContactRules

open ContactRules.Calendar

namespace Calendar

/-- This is the number of the first month whose days can be represented. -/
def firstMonth : Int := 12 * -262143

/-- The first month begins with the first day that can be represented. -/
theorem startOfMonth_firstMonth : startOfMonth firstMonth = firstDay := by decide

/-- The month of a day that can be represented does not begin before the first day. -/
theorem firstDay_le_startOfMonth {day : Int} (lower : firstDay ≤ day) :
    firstDay ≤ startOfMonth (monthOf day) := by
  have ends := lt_startOfMonth_monthOf_succ day
  rw [← startOfMonth_firstMonth] at lower ⊢
  have notBefore := startOfMonth_lt_iff.mp (Int.lt_of_le_of_lt lower ends)
  exact startOfMonth_le_iff.mpr (Int.lt_add_one_iff.mp notBefore)

/-- The month of a day that can be represented does not end after the last day. -/
theorem startOfMonth_succ_le {day : Int} (upper : day ≤ lastDay) :
    startOfMonth (monthOf day + 1) ≤ lastDay + 1 := by
  have starts := startOfMonth_monthOf_le day
  rw [← Int.lt_add_one_iff, ← startOfMonth_lastMonth_succ] at upper
  rw [← startOfMonth_lastMonth_succ]
  exact startOfMonth_le_iff.mpr (startOfMonth_lt_iff.mp (Int.lt_of_le_of_lt starts upper))

namespace Instant

variable {instant point moved : Instant} {days : Nat}

/-- This moves an instant forward by whole days. -/
def daysLater? (instant : Instant) (days : Nat) : Option Instant := instant.addMinutes? (1440 * days)

/-- An instant that is moved by whole days keeps its time of day. -/
theorem daysLater?_eq_some (isMoved : instant.daysLater? days = some moved) :
    moved.day = instant.day + days ∧ moved.second = instant.second := by
  cases days with
  | zero =>
      obtain rfl : instant = moved := Option.some.inj isMoved
      exact ⟨(Int.add_zero _).symm, rfl⟩
  | succ days =>
      obtain ⟨seconds, _⟩ := addMinutes?_eq_some (show 1 ≤ 1440 * (days + 1) by omega) isMoved
      have bound := instant.secondBound
      have movedBound := moved.secondBound
      omega

/-- An instant can be moved by whole days as long as the day on which it arrives can be represented. -/
theorem daysLater?_isSome_iff : (instant.daysLater? days).isSome = true ↔ instant.day + days ≤ lastDay := by
  constructor
  · intro found
    obtain ⟨moved, isMoved⟩ := Option.isSome_iff_exists.mp found
    have range := moved.dayRange
    have place := daysLater?_eq_some isMoved
    omega
  · intro inside
    have range := instant.dayRange
    have bound := instant.secondBound
    unfold daysLater? addMinutes?
    split
    · rfl
    · have representable : firstDay ≤ instant.day + ((instant.second + 60 * (1440 * days)) / 86400 : Nat) ∧
          instant.day + ((instant.second + 60 * (1440 * days)) / 86400 : Nat) ≤ lastDay := by omega
      simp only [dif_pos representable, Option.isSome_some]

/-- An instant follows another one, and it does so within a number of days. -/
def FollowsWithin (days : Nat) (earlier later : Instant) : Prop :=
  earlier < later ∧ ∃ limit, earlier.daysLater? days = some limit ∧ later ≤ limit

/-- What follows an instant within some days lies on one of these days. -/
theorem FollowsWithin.day_le {later : Instant} (follows : FollowsWithin days instant later) :
    later.day ≤ instant.day + days := by
  obtain ⟨_, limit, limits, notAfter⟩ := follows
  have place := daysLater?_eq_some limits
  have part := later.nanosecond_lt
  have limitPart := limit.nanosecond_lt
  have second := later.secondBound
  have limitSecond := limit.secondBound
  simp only [le_iff, rank] at notAfter
  omega

end Instant

end Calendar

namespace Recurrence

/-- A schedule of this kind fires again within this number of days. -/
def period : Recurrence → Nat
  | daily => 1
  | weekly => 7
  | monthly => 31
  | once => 0
  | cron => 0

/-- Two days lie in one turn of a schedule: they are the same, or they lie in one week from Sunday, or in one
month. -/
def SameTurn (recurrence : Recurrence) (day other : Int) : Prop :=
  match recurrence with
  | daily => day = other
  | weekly => (day + 4) / 7 = (other + 4) / 7
  | monthly => monthOf day = monthOf other
  | once => False
  | cron => False

end Recurrence

namespace Schedule

variable {schedule : Schedule}

/-- The schedule fires again and again: it is accepted, and it has no end. -/
structure Endless (schedule : Schedule) : Prop where
  recurs : schedule.recurrence ∈ [Recurrence.daily, Recurrence.weekly, Recurrence.monthly]
  accepted : schedule.validate = .ok ()
  endless : schedule.finish = none

/-- A schedule fires at its time on these days. -/
def FiresOn (schedule : Schedule) (day : Int) : Prop :=
  match schedule.recurrence with
  | .daily => True
  | .weekly => ∃ wanted ∈ schedule.dayOfWeek, weekday day = wanted.toNat
  | .monthly => ∃ wanted ∈ schedule.dayOfMonth, 1 ≤ wanted.toNat ∧ day = dayInMonth (monthOf day) wanted.toNat
  | .once => False
  | .cron => False

/-- On each of its days that can be represented a schedule has a firing point. -/
theorem Endless.exists_firingPoint (endless : schedule.Endless) {day : Int} (fires : schedule.FiresOn day)
    (lower : firstDay ≤ day) (upper : day ≤ lastDay) :
    ∃ point, schedule.FiringPoint point ∧ schedule.onDay? day = some point := by
  obtain ⟨_, hours, minutes⟩ := validate_eq_ok endless.accepted
  obtain ⟨point, timed⟩ := exists_onDay? hours minutes lower upper
  refine ⟨point, (firingPoint_iff point).mpr ⟨?_, by rw [endless.endless]; rfl⟩, timed⟩
  obtain ⟨rfl, _⟩ := (onDay?_eq_some_iff _ _).mp timed
  unfold FiresOn at fires
  unfold EndlessPoint
  cases kind : schedule.recurrence with
  | daily => exact ⟨trivial, timed⟩
  | weekly =>
      simp only [kind] at fires ⊢
      obtain ⟨wanted, given, onDay⟩ := fires
      exact ⟨wanted, given, onDay, timed⟩
  | monthly =>
      simp only [kind] at fires ⊢
      obtain ⟨wanted, given, positive, onDay⟩ := fires
      exact ⟨wanted, given, positive, onDay, timed⟩
  | once | cron => simp only [kind] at fires

/-- Among seven days in a row there is each day of the week. -/
theorem exists_weekday (start : Int) {wanted : Nat} (isWeekday : wanted ≤ 6) :
    ∃ day, weekday day = wanted ∧ start ≤ day ∧ day < start + 7 := by
  refine ⟨start + (wanted - start - 4) % 7, ?_, ?_, ?_⟩
  · rw [weekday]
    omega
  · omega
  · omega

/-- Among 31 days in a row there is one on which a monthly schedule fires. When the day of the first month has
passed, the one of the next month comes in time: a month that is too short for the wanted day ends with its firing,
and after a longer one the days that remain and those up to the wanted day make up no more than its length. -/
theorem exists_dayInMonth {start : Int} {wanted : Nat} (least : 1 ≤ wanted) (most : wanted ≤ 31)
    (lower : firstDay ≤ start) (upper : start + 31 ≤ lastDay + 1) :
    ∃ number, start ≤ dayInMonth number wanted ∧ dayInMonth number wanted < start + 31 := by
  have starts := startOfMonth_monthOf_le start
  have ends := lt_startOfMonth_monthOf_succ start
  have succ := startOfMonth_succ (monthOf start)
  have length := lengthOfMonth_le (monthOf start)
  by_cases ahead : start ≤ dayInMonth (monthOf start) wanted
  · have within := dayInMonth_upper (monthOf start) least
    exact ⟨monthOf start, ahead, by omega⟩
  · have begins := dayInMonth_lower (monthOf start) wanted
    have nextBegins := dayInMonth_lower (monthOf start + 1) wanted
    refine ⟨monthOf start + 1, by omega, ?_⟩
    have notAfter := startOfMonth_succ_le (show start ≤ lastDay by omega)
    -- The last month begins no earlier than 31 days before its end, so its own day would lie ahead.
    have notLast : monthOf start ≠ lastMonth := fun isLast => by
      have whole := startOfMonth_lastMonth_succ
      rw [← isLast] at whole
      omega
    have place := lastDayOfMonth_eq (firstDay_le_startOfMonth lower) notAfter
    rw [if_neg notLast] at place
    have nextPlace := placeIn_bounds (monthOf start + 1) least
    have nextLength := lengthOfMonth_le (monthOf start + 1)
    have nextWanted : placeIn (monthOf start + 1) wanted ≤ wanted := Nat.min_le_left _ _
    simp only [dayInMonth, placeIn, clampDay, place] at *
    omega

/-- A monthly schedule that is endless fires on the wanted day of every month. -/
theorem Endless.firesOn_dayInMonth (endless : schedule.Endless) (isMonthly : schedule.recurrence = .monthly) :
    ∃ wanted, 1 ≤ wanted ∧ wanted ≤ 31 ∧ ∀ number, schedule.FiresOn (dayInMonth number wanted) := by
  have recurs := (validate_eq_ok endless.accepted).1
  simp only [checkRecurrence, isMonthly] at recurs
  obtain ⟨wanted, given, least, most⟩ := checkField_eq_ok_iff.mp recurs
  refine ⟨wanted.toNat, least, most, fun number => ?_⟩
  simp only [FiresOn, isMonthly]
  exact ⟨wanted, given, least, by rw [monthOf_dayInMonth _ least]⟩

/-- Among the days of one period in a row there is one on which the schedule fires. -/
theorem Endless.exists_firesOn (endless : schedule.Endless) {start : Int} (lower : firstDay ≤ start)
    (upper : start + schedule.recurrence.period ≤ lastDay + 1) :
    ∃ day, schedule.FiresOn day ∧ start ≤ day ∧ day < start + schedule.recurrence.period := by
  cases kind : schedule.recurrence with
  | daily =>
      refine ⟨start, ?_, Int.le_refl _, Int.lt_succ start⟩
      simp only [FiresOn, kind]
  | weekly =>
      have recurs := (validate_eq_ok endless.accepted).1
      simp only [checkRecurrence, kind] at recurs
      obtain ⟨wanted, given, _, isWeekday⟩ := checkField_eq_ok_iff.mp recurs
      obtain ⟨day, onDay, within⟩ := exists_weekday start isWeekday
      refine ⟨day, ?_, within⟩
      simp only [FiresOn, kind]
      exact ⟨wanted, given, onDay⟩
  | monthly =>
      obtain ⟨wanted, least, most, fires⟩ := endless.firesOn_dayInMonth kind
      rw [kind] at upper
      obtain ⟨number, within⟩ := exists_dayInMonth least most lower upper
      exact ⟨dayInMonth number wanted, fires number, within⟩
  | once | cron => exact absurd endless.recurs (by simp [kind])

/-- Among the days of one period in a row lies a firing point. -/
theorem Endless.exists_within (endless : schedule.Endless) {start : Int} (lower : firstDay ≤ start)
    (upper : start + schedule.recurrence.period ≤ lastDay + 1) :
    ∃ point, schedule.FiringPoint point ∧ schedule.onDay? point.day = some point ∧
      start ≤ point.day ∧ point.day < start + schedule.recurrence.period := by
  obtain ⟨day, fires, after, before⟩ := endless.exists_firesOn lower upper
  obtain ⟨point, isPoint, timed⟩ := endless.exists_firingPoint fires (by omega) (by omega)
  obtain ⟨rfl, _⟩ := (onDay?_eq_some_iff _ _).mp timed
  exact ⟨point, isPoint, timed, after, before⟩

/-- The time of a schedule on a day is a whole number of minutes after the start of the day. -/
theorem second_of_onDay? {day : Int} {point : Instant} (timed : schedule.onDay? day = some point) :
    point.second = schedule.hour.toNat * 3600 + schedule.minute.toNat * 60 ∧ point.nanosecond = 0 := by
  obtain ⟨_, atTime, whole, noPart⟩ := (onDay?_eq_some_iff _ _).mp timed
  simp only [atTimeOfDay, Instant.hour, Instant.minute, Bool.and_eq_true, beq_iff_eq] at atTime
  omega

/-- Within a period after an instant lies a firing point. The period is counted from the day of the instant, or
from the next day when the time of the schedule has passed. -/
theorem Endless.exists_follower (endless : schedule.Endless) {after : Instant}
    (room : after.day + schedule.recurrence.period ≤ lastDay) :
    ∃ point, schedule.FiringPoint point ∧ after.FollowsWithin schedule.recurrence.period point := by
  obtain ⟨limit, limits⟩ := Option.isSome_iff_exists.mp (Instant.daysLater?_isSome_iff.mpr room)
  obtain ⟨limitDay, limitSecond⟩ := Instant.daysLater?_eq_some limits
  have range := after.dayRange
  have part := after.nanosecond_lt
  by_cases ahead : after.second < schedule.hour.toNat * 3600 + schedule.minute.toNat * 60
  · obtain ⟨point, isPoint, timed, notBefore, within⟩ :=
      endless.exists_within range.1 (show after.day + schedule.recurrence.period ≤ lastDay + 1 by omega)
    obtain ⟨second, noPart⟩ := second_of_onDay? timed
    have bound := point.secondBound
    refine ⟨point, isPoint, ?_, limit, limits, ?_⟩
    · simp only [Instant.lt_iff, Instant.rank]
      omega
    · simp only [Instant.le_iff, Instant.rank]
      omega
  · obtain ⟨point, isPoint, timed, notBefore, within⟩ :=
      endless.exists_within (show firstDay ≤ after.day + 1 by omega)
        (show after.day + 1 + schedule.recurrence.period ≤ lastDay + 1 by omega)
    obtain ⟨second, noPart⟩ := second_of_onDay? timed
    refine ⟨point, isPoint, Instant.lt_of_day_lt (by omega), limit, limits, ?_⟩
    simp only [Instant.le_iff, Instant.rank]
    omega

/-- The next firing of an endless schedule is there, and it comes within one period. -/
theorem Endless.next?_follows (endless : schedule.Endless) {after : Instant}
    (room : after.day + schedule.recurrence.period ≤ lastDay) :
    ∃ next, schedule.next? after = some next ∧ schedule.FiringPoint next ∧
      after.FollowsWithin schedule.recurrence.period next := by
  obtain ⟨point, isPoint, ahead, limit, limits, notAfter⟩ := endless.exists_follower room
  obtain ⟨next, isNext, nearest⟩ := isPoint.exists_next? ahead
  obtain ⟨nextIsPoint, nextAhead⟩ := next?_eq_some isNext
  exact ⟨next, isNext, nextIsPoint, nextAhead, limit, limits, Int.le_trans nearest notAfter⟩

/-- An endless schedule fires throughout the minute of a firing point. -/
theorem Endless.firesAt_of_sameMinute (endless : schedule.Endless) {point instant : Instant}
    (isPoint : schedule.FiringPoint point) (same : point.sameMinute instant = true) :
    schedule.firesAt instant = true := by
  have again : schedule.recurrence ≠ .once := fun isOnce => absurd endless.recurs (by simp [isOnce])
  exact Schedule.firesAt_of_sameMinute again isPoint.1 same (by simp [isOver, endless.endless])

/-- The firing points of an endless schedule start minutes. -/
theorem Endless.startsMinute (endless : schedule.Endless) {point : Instant}
    (isPoint : schedule.FiringPoint point) : point.StartsMinute := by
  have starts := isPoint.2
  cases kind : schedule.recurrence with
  | daily | weekly | monthly => simpa only [kind] using starts
  | once | cron => exact absurd endless.recurs (by simp [kind])

/-- The firings that come next are as many as one asks for, as long as their periods can be represented. -/
theorem Endless.upcoming_follow (endless : schedule.Endless) (count : Nat) {after : Instant}
    (room : after.day + (schedule.recurrence.period * count : Nat) ≤ lastDay) :
    (schedule.upcoming count after).length = count ∧
      (after :: schedule.upcoming count after).IsChain (Instant.FollowsWithin schedule.recurrence.period) := by
  induction count generalizing after with
  | zero => exact ⟨rfl, .singleton after⟩
  | succ count inductionHypothesis =>
      rw [Nat.mul_succ] at room
      obtain ⟨next, isNext, _, follows⟩ :=
        endless.next?_follows (show after.day + schedule.recurrence.period ≤ lastDay by omega)
      have nextDay := follows.day_le
      obtain ⟨length, chain⟩ := inductionHypothesis
        (show next.day + (schedule.recurrence.period * count : Nat) ≤ lastDay by omega)
      simp only [upcoming, isNext]
      exact ⟨congrArg Nat.succ length, .cons_cons follows chain⟩

/-- A turn whose days can all be represented has a firing point. -/
theorem Endless.exists_in_turn (endless : schedule.Endless) {day : Int}
    (whole : ∀ other, schedule.recurrence.SameTurn day other → firstDay ≤ other ∧ other ≤ lastDay) :
    ∃ point, schedule.FiringPoint point ∧ schedule.recurrence.SameTurn day point.day := by
  cases kind : schedule.recurrence with
  | daily =>
      have inside := whole day (by simp only [kind, Recurrence.SameTurn])
      obtain ⟨point, isPoint, _, notBefore, within⟩ :=
        endless.exists_within inside.1 (show day + schedule.recurrence.period ≤ lastDay + 1 by
          simp only [kind, Recurrence.period]
          omega)
      simp only [kind, Recurrence.period] at within
      exact ⟨point, isPoint, show day = point.day by omega⟩
  | weekly =>
      simp only [kind, Recurrence.SameTurn] at whole
      -- A week begins on Sunday, which is day 3 of 1970.
      have sunday := whole ((day + 4) / 7 * 7 - 4) (by omega)
      have saturday := whole ((day + 4) / 7 * 7 + 2) (by omega)
      obtain ⟨point, isPoint, _, notBefore, within⟩ :=
        endless.exists_within sunday.1 (show _ + (schedule.recurrence.period : Int) ≤ lastDay + 1 by
          simp only [kind, Recurrence.period]
          omega)
      simp only [kind, Recurrence.period] at within
      exact ⟨point, isPoint, show (day + 4) / 7 = (point.day + 4) / 7 by omega⟩
  | monthly =>
      simp only [kind, Recurrence.SameTurn] at whole
      obtain ⟨wanted, least, _, fires⟩ := endless.firesOn_dayInMonth kind
      have sameMonth : monthOf day = monthOf (dayInMonth (monthOf day) wanted) :=
        (monthOf_dayInMonth _ least).symm
      have inside := whole _ sameMonth
      obtain ⟨point, isPoint, timed⟩ := endless.exists_firingPoint (fires _) inside.1 inside.2
      obtain ⟨onDay, _⟩ := (onDay?_eq_some_iff _ _).mp timed
      exact ⟨point, isPoint, onDay ▸ sameMonth⟩
  | once | cron => exact absurd endless.recurs (by simp [kind])

/-- As long as 31 days ahead can be represented, an accepted schedule without an end has a next firing: within
a day when it fires daily, within seven days when it fires weekly and within 31 days when it fires monthly. It
fires throughout the minute that starts there. So its firings never run out, and it leaves out no day, no week
and no month. -/
theorem Endless.fires_in_each_period (endless : schedule.Endless) :
    (∀ after : Instant, (after.daysLater? 31).isSome = true →
      ∃ next, schedule.next? after = some next ∧ after.FollowsWithin schedule.recurrence.period next ∧
        next.StartsMinute ∧ ∀ instant, next.sameMinute instant = true → schedule.firesAt instant = true) ∧
    (∀ (count : Nat) (after : Instant), (after.daysLater? (31 * count)).isSome = true →
      (schedule.upcoming count after).length = count ∧
        (after :: schedule.upcoming count after).IsChain
          (Instant.FollowsWithin schedule.recurrence.period)) ∧
    ∀ day, (∀ other, schedule.recurrence.SameTurn day other → firstDay ≤ other ∧ other ≤ lastDay) →
      ∃ point, schedule.FiringPoint point ∧ schedule.recurrence.SameTurn day point.day := by
  have short : schedule.recurrence.period ≤ 31 := by
    cases schedule.recurrence <;> decide
  refine ⟨fun after ahead => ?_, fun count after ahead => ?_, fun day => endless.exists_in_turn⟩
  · rw [Instant.daysLater?_isSome_iff] at ahead
    obtain ⟨next, isNext, isPoint, follows⟩ :=
      endless.next?_follows (show after.day + schedule.recurrence.period ≤ lastDay by omega)
    exact ⟨next, isNext, follows, endless.startsMinute isPoint,
      fun instant => endless.firesAt_of_sameMinute isPoint⟩
  · rw [Instant.daysLater?_isSome_iff] at ahead
    have enough := Nat.mul_le_mul_right count short
    exact endless.upcoming_follow count (by omega)

/-- On the last day of December the schedule of month ends has its next firing after 31 days and not before. -/
theorem monthEnd_fires_after_31_days :
    monthEnd.Endless ∧
      let newYearsEve : Instant := ⟨11322, 43200, 0, by decide, by decide, .inl (by decide)⟩
      newYearsEve.date = ⟨2000, 12, 31⟩ ∧ monthEnd.next? newYearsEve = newYearsEve.daysLater? 31 ∧
        ∃ next, monthEnd.next? newYearsEve = some next ∧ newYearsEve.FollowsWithin 31 next ∧
          next.StartsMinute ∧ ∀ instant, next.sameMinute instant = true → monthEnd.firesAt instant = true := by
  have endless : monthEnd.Endless := ⟨by decide, rfl, rfl⟩
  exact ⟨endless, by decide, by decide, endless.fires_in_each_period.1 _ (by decide)⟩

end Schedule

end ContactRules
