/-
This file says when schedules fire. Schedules are asked at least once a minute.
-/

import ContactRules.Schedule.Basic

namespace ContactRules.Schedule

open ContactRules.Calendar

/-- The end of a schedule has passed. -/
def isOver (schedule : Schedule) (now : Instant) : Bool :=
  schedule.finish.any fun finish => finish < now

/-- A schedule that fires once does so during the minute from its start. The minute has no end when that
end cannot be represented. -/
def inStartMinute (start now : Instant) : Bool :=
  start ≤ now && (start.addMinutes? 1).all fun finish => now < finish

def atTimeOfDay (schedule : Schedule) (now : Instant) : Bool :=
  now.hour == schedule.hour.toNat && now.minute == schedule.minute.toNat

/-- This is the month after a month. -/
def nextMonth (year : Int) (month : Nat) : Int × Nat :=
  if month = 12 then (year + 1, 1) else (year, month + 1)

/-- The last day of a month is the one before the first day of the next month. Where that day cannot be
represented, a month has as many days as each month has. -/
def lastDayOfMonth (year : Int) (month : Nat) : Nat :=
  let next := nextMonth year month
  match dayOfDate? ⟨next.1, next.2, 1⟩ with
  | some day => if isRepresentable (day - 1) then (Date.ofDayNumber (day - 1)).day else 28
  | none => 28

/-- A day that a month does not have stands for its last day. -/
def clampDay (year : Int) (month day : Nat) : Nat :=
  min day (lastDayOfMonth year month)

/-- The schedule fires at this instant, which is judged by the minute. -/
def firesAt (schedule : Schedule) (now : Instant) : Bool :=
  !schedule.isOver now &&
    match schedule.recurrence with
    | .once => schedule.start.any fun start => inStartMinute start now
    | .daily => schedule.atTimeOfDay now
    | .weekly =>
        schedule.atTimeOfDay now && schedule.dayOfWeek.any fun day => now.weekday == day.toNat
    | .monthly =>
        schedule.atTimeOfDay now && schedule.dayOfMonth.any fun day =>
          now.date.day == clampDay now.date.year now.date.month day.toNat
    | .cron => false

/-- This is the time of the schedule on a day. -/
def onDay? (schedule : Schedule) (day : Int) : Option Instant :=
  Instant.ofMinute? day schedule.hour.toNat schedule.minute.toNat

/-- This is the time of the schedule on a day of a month, or on its last day. -/
def inMonth? (schedule : Schedule) (year : Int) (month day : Nat) : Option Instant :=
  (dayOfDate? ⟨year, month, clampDay year month day⟩).bind schedule.onDay?

/-- This keeps an instant that lies after another one. -/
def later (after : Instant) (candidate : Option Instant) : Option Instant :=
  candidate.filter fun instant => after < instant

/-- Some day within a week has the given day of the week, and after it comes the same day again. -/
def nextWeekly? (schedule : Schedule) (weekday : Nat) (after : Instant) : Option Instant :=
  (List.range 8).findSome? fun offset : Nat =>
    let day := after.day + (offset : Int)
    if Calendar.weekday day = weekday then later after (schedule.onDay? day) else none

/-- This is the next time of a schedule, regardless of its end. -/
def nextUnbounded? (schedule : Schedule) (after : Instant) : Option Instant :=
  match schedule.recurrence with
  | .once => later after schedule.start
  | .daily => (later after (schedule.onDay? after.day)).or (schedule.onDay? (after.day + 1))
  | .weekly => schedule.dayOfWeek.bind fun day => schedule.nextWeekly? day.toNat after
  | .monthly =>
      schedule.dayOfMonth.bind fun day =>
        let date := after.date
        let next := nextMonth date.year date.month
        (later after (schedule.inMonth? date.year date.month day.toNat)).or
          (schedule.inMonth? next.1 next.2 day.toNat)
  | .cron => none

/-- This is the first instant after the given one at which the schedule fires, if there is one. -/
def next? (schedule : Schedule) (after : Instant) : Option Instant :=
  (schedule.nextUnbounded? after).filter fun instant =>
    schedule.finish.all fun finish => instant ≤ finish

/-- These are the next instants at which the schedule fires, of a given number at most. -/
def upcoming (schedule : Schedule) : Nat → Instant → List Instant
  | 0, _ => []
  | count + 1, after =>
      match schedule.next? after with
      | some instant => instant :: upcoming schedule count instant
      | none => []

end ContactRules.Schedule
