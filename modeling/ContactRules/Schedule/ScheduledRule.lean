/-
This file defines scheduled rules, which keep track of when they were fired.
-/

import ContactRules.Rule.Basic
import ContactRules.Schedule.Firing

namespace ContactRules

open ContactRules.Calendar

/-- A scheduled rule remembers when it was last fired and when it fires next. -/
structure ScheduledRule where
  rule : Rule
  schedule : Schedule
  last : Option Instant
  next : Option Instant

namespace ScheduledRule

/-- This gives a rule a schedule that is valid. -/
def create (rule : Rule) (schedule : Schedule) (now : Instant) : Except ScheduleError ScheduledRule := do
  schedule.validate
  return ⟨rule, schedule, none, schedule.next? now⟩

/-- The rule has been fired in the minute of an instant. -/
def firedInMinuteOf (scheduled : ScheduledRule) (now : Instant) : Bool :=
  scheduled.last.any fun last => last.sameMinute now

/-- A rule is due when it is enabled and its schedule fires, but only once in a minute. -/
def isDue (scheduled : ScheduledRule) (now : Instant) : Bool :=
  scheduled.rule.state.enabled && scheduled.schedule.firesAt now && !scheduled.firedInMinuteOf now

/-- This notes that the rule has been fired. -/
def markFired (scheduled : ScheduledRule) (now : Instant) : ScheduledRule :=
  { scheduled with
    last := some now
    next := if scheduled.schedule.recurrence = .once then none else scheduled.schedule.next? now }

/-- The start of a schedule and the minute from it have passed, or there is no start. -/
def startIsPast (schedule : Schedule) (now : Instant) : Bool :=
  schedule.start.all fun start => (start.addMinutes? 1).any fun finish => finish ≤ now

/-- The rule is never due again. -/
def isExhausted (scheduled : ScheduledRule) (now : Instant) : Bool :=
  match scheduled.schedule.recurrence with
  | .once =>
      scheduled.last.isSome || scheduled.schedule.isOver now || startIsPast scheduled.schedule now
  | .cron => false
  | _ => scheduled.schedule.isOver now

end ScheduledRule

end ContactRules
