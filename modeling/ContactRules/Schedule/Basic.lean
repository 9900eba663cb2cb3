/-
This file defines schedules, which say when scheduled rules fire.
-/

import ContactRules.Event
import ContactRules.Kind
import ContactRules.Text.Blank

namespace ContactRules

open ContactRules.Calendar
open ContactRules.Json
open ContactRules.Wire

inductive Recurrence where
  | once
  | daily
  | weekly
  | monthly
  | cron
deriving DecidableEq

namespace Recurrence

def all : List Recurrence := [once, daily, weekly, monthly, cron]

def name : Recurrence → String
  | once => "once"
  | daily => "daily"
  | weekly => "weekly"
  | monthly => "monthly"
  | cron => "cron"

instance : Kind Recurrence := ⟨"schedule type", all, name⟩

theorem mem_all (recurrence : Recurrence) : recurrence ∈ all := by
  cases recurrence <;> simp [all]

end Recurrence

/-- A schedule that fires once has a start. A weekly one has a day of the week, counted from Sunday, and
a monthly one has a day of the month. After its end a schedule never fires. -/
structure Schedule where
  recurrence : Recurrence
  cronExpression : Option String
  start : Option Instant
  finish : Option Instant
  dayOfWeek : Option UInt32
  dayOfMonth : Option UInt32
  hour : UInt32
  minute : UInt32
deriving DecidableEq

/-- These are the fields of a schedule that messages name. -/
inductive ScheduleField where
  | start
  | dayOfWeek
  | dayOfMonth
  | cronExpression
  | hour
  | minute
deriving DecidableEq

def ScheduleField.name : ScheduleField → String
  | start => "start_time"
  | dayOfWeek => "day_of_week"
  | dayOfMonth => "day_of_month"
  | cronExpression => "cron_expr"
  | hour => "hour"
  | minute => "minute"

/-- The reasons why a schedule is refused. -/
inductive ScheduleError where
  | missing (field : ScheduleField) (recurrence : Recurrence)
  | outOfRange (field : ScheduleField) (least most value : Nat)
  | endBeforeStart
  | unsupported (recurrence : Recurrence)
deriving DecidableEq

namespace ScheduleError

def message : ScheduleError → String
  | missing field recurrence =>
      field.name ++ " is required for " ++ recurrence.name ++ " schedules"
  | outOfRange field least most value =>
      field.name ++ " must be between " ++ toString least ++ " and " ++ toString most ++ ", got " ++
        toString value
  | endBeforeStart => "end_time must be after start_time"
  | unsupported recurrence => recurrence.name ++ " schedules are not supported yet"

/-- This is the short name of an error, for programs. -/
def code : ScheduleError → String
  | missing _ _ => "missing_field"
  | outOfRange _ _ _ _ => "out_of_range"
  | endBeforeStart => "end_before_start"
  | unsupported _ => "unsupported"

end ScheduleError

namespace Schedule

/-- This is a schedule with nothing but a time of day. -/
def atTime (recurrence : Recurrence) (hour minute : UInt32) : Schedule :=
  ⟨recurrence, none, none, none, none, none, hour, minute⟩

def once (start : Instant) : Schedule :=
  { atTime .once 0 0 with start := some start }

def daily (hour minute : UInt32) : Schedule := atTime .daily hour minute

def weekly (dayOfWeek hour minute : UInt32) : Schedule :=
  { atTime .weekly hour minute with dayOfWeek := some dayOfWeek }

def monthly (dayOfMonth hour minute : UInt32) : Schedule :=
  { atTime .monthly hour minute with dayOfMonth := some dayOfMonth }

def cron (expression : String) : Schedule :=
  { atTime .cron 0 0 with cronExpression := some expression }

/-- This ends a schedule at an instant. -/
def withFinish (schedule : Schedule) (finish : Instant) : Schedule :=
  { schedule with finish := some finish }

def record : Record Schedule :=
  Schedule.mk <$> Record.required "type" Kind.decoder
    <*> Record.omissible "cron_expr" Decoder.text
    <*> Record.omissible "start_time" Decoder.instant
    <*> Record.omissible "end_time" Decoder.instant
    <*> Record.omissible "day_of_week" Decoder.word32
    <*> Record.omissible "day_of_month" Decoder.word32
    <*> Record.defaulted "hour" Decoder.word32 0
    <*> Record.defaulted "minute" Decoder.word32 0

def decoder : Decoder Schedule := record.decoder "ScheduledRuleConfig"

def encodeWord (word : UInt32) : Value := Value.ofNat word.toNat

/-- What a schedule does not have is left out. -/
def encode (schedule : Schedule) : Value :=
  .object (("type", Kind.encode schedule.recurrence) ::
    optionalField "cron_expr" Value.text schedule.cronExpression ++
    optionalField "start_time" Instant.encode schedule.start ++
    optionalField "end_time" Instant.encode schedule.finish ++
    optionalField "day_of_week" encodeWord schedule.dayOfWeek ++
    optionalField "day_of_month" encodeWord schedule.dayOfMonth ++
    [("hour", encodeWord schedule.hour), ("minute", encodeWord schedule.minute)])

def checkRange (field : ScheduleField) (least most : Nat) (value : UInt32) :
    Except ScheduleError Unit :=
  if value.toNat < least ∨ most < value.toNat then .error (.outOfRange field least most value.toNat)
  else .ok ()

/-- This checks that a field is there and within its range. -/
def checkField (schedule : Schedule) (field : ScheduleField) (least most : Nat) :
    Option UInt32 → Except ScheduleError Unit
  | none => .error (.missing field schedule.recurrence)
  | some value => checkRange field least most value

/-- This checks what the recurrence needs. -/
def checkRecurrence (schedule : Schedule) : Except ScheduleError Unit :=
  match schedule.recurrence with
  | .once => if schedule.start.isNone then .error (.missing .start .once) else .ok ()
  | .daily => .ok ()
  | .weekly => schedule.checkField .dayOfWeek 0 6 schedule.dayOfWeek
  | .monthly => schedule.checkField .dayOfMonth 1 31 schedule.dayOfMonth
  | .cron =>
      if schedule.cronExpression.all Text.blank then .error (.missing .cronExpression .cron)
      else .ok ()

def endsBeforeStart (schedule : Schedule) : Bool :=
  match schedule.start, schedule.finish with
  | some start, some finish => finish ≤ start
  | _, _ => false

/-- This checks a schedule: first what its recurrence needs, then the time of day, then the end. -/
def validate (schedule : Schedule) : Except ScheduleError Unit := do
  schedule.checkRecurrence
  checkRange .hour 0 23 schedule.hour
  checkRange .minute 0 59 schedule.minute
  if schedule.endsBeforeStart then .error .endBeforeStart

/-- A cron schedule may be written down although it never fires. -/
def ensureSupported (schedule : Schedule) : Except ScheduleError Unit :=
  if schedule.recurrence = .cron then .error (.unsupported .cron) else .ok ()

end Schedule

end ContactRules
