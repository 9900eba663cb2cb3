/-
This file defines instants in universal time and the spans between them.
-/

import ContactRules.Calendar.Date

namespace ContactRules.Calendar

/-- An instant is a day, a second of that day and a part of that second. The last second of a minute
may be followed by a leap second, which counts as a second part of it. -/
structure Instant where
  day : Int
  second : Nat
  nanosecond : Nat
  dayRange : firstDay ≤ day ∧ day ≤ lastDay
  secondBound : second < 86400
  nanosecondBound : nanosecond < 1000000000 ∨ (nanosecond < 2000000000 ∧ second % 60 = 59)
deriving DecidableEq

namespace Instant

/-- Instants are in the order of their ranks. -/
def rank (instant : Instant) : Int :=
  (instant.day * 86400 + instant.second) * 2000000000 + instant.nanosecond

instance : LT Instant := ⟨fun left right => left.rank < right.rank⟩

instance : LE Instant := ⟨fun left right => left.rank ≤ right.rank⟩

instance (left right : Instant) : Decidable (left < right) :=
  inferInstanceAs (Decidable (left.rank < right.rank))

instance (left right : Instant) : Decidable (left ≤ right) :=
  inferInstanceAs (Decidable (left.rank ≤ right.rank))

/-- The order of instants is that of their ranks. -/
theorem lt_iff (left right : Instant) : left < right ↔ left.rank < right.rank := Iff.rfl

theorem le_iff (left right : Instant) : left ≤ right ↔ left.rank ≤ right.rank := Iff.rfl

/-- A second has room for as many nanoseconds again, in case a leap second follows it. -/
theorem nanosecond_lt (instant : Instant) : instant.nanosecond < 2000000000 := by
  have bound := instant.nanosecondBound
  omega

/-- The rank tells instants apart. -/
theorem rank_inj {left right : Instant} (same : left.rank = right.rank) : left = right := by
  have leftBound := left.nanosecond_lt
  have rightBound := right.nanosecond_lt
  have leftSecond := left.secondBound
  have rightSecond := right.secondBound
  obtain ⟨leftDay, leftOfDay, leftPart, _, _, _⟩ := left
  obtain ⟨rightDay, rightOfDay, rightPart, _, _, _⟩ := right
  simp only [rank] at same leftBound rightBound leftSecond rightSecond
  have days : leftDay = rightDay := by omega
  have seconds : leftOfDay = rightOfDay := by omega
  have parts : leftPart = rightPart := by omega
  subst days seconds parts
  rfl

/-- This is the start of 1970. -/
def epoch : Instant :=
  ⟨0, 0, 0, by decide, by decide, Or.inl (by decide)⟩

instance : Inhabited Instant := ⟨epoch⟩

/-- This is a whole second of a day, if the day can be represented and has that second. -/
def ofSecond? (day : Int) (second : Nat) : Option Instant :=
  if range : firstDay ≤ day ∧ day ≤ lastDay then
    if bound : second < 86400 then some ⟨day, second, 0, range, bound, Or.inl (by show 0 < 1000000000; decide)⟩
    else none
  else none

/-- This is the start of a minute of a day. There is none when the hour or the minute is out of range. -/
def ofMinute? (day : Int) (hour minute : Nat) : Option Instant :=
  if hour < 24 ∧ minute < 60 then ofSecond? day (hour * 3600 + minute * 60) else none

/-- This is the instant so many nanoseconds after the start of 1970, if it can be represented. -/
def ofNanoseconds? (total : Int) : Option Instant :=
  let second := total / 1000000000
  (ofSecond? (second / 86400) (second % 86400).toNat).map fun instant =>
    let part := (total % 1000000000).toNat
    if bound : part < 1000000000 then { instant with nanosecond := part, nanosecondBound := Or.inl bound }
    else instant

def date (instant : Instant) : Date := Date.ofDayNumber instant.day

def weekday (instant : Instant) : Nat := Calendar.weekday instant.day

def hour (instant : Instant) : Nat := instant.second / 3600

def minute (instant : Instant) : Nat := instant.second / 60 % 60

/-- Two instants lie in one minute of one day. -/
def sameMinute (left right : Instant) : Bool :=
  left.day == right.day && left.second / 60 == right.second / 60

/-- This moves an instant forward, unless it would pass the last day. A leap second counts as the
second before it, except when the instant stays where it is. -/
def addMinutes? (instant : Instant) (minutes : Nat) : Option Instant :=
  if minutes = 0 then some instant
  else
    let total := instant.second + 60 * minutes
    let day := instant.day + (total / 86400 : Nat)
    if range : firstDay ≤ day ∧ day ≤ lastDay then
      some ⟨day, total % 86400, instant.nanosecond % 1000000000, range,
        Nat.mod_lt _ (by decide), Or.inl (Nat.mod_lt _ (by decide))⟩
    else none

/-- This is the span from one instant to another in nanoseconds. A leap second adds its own second when
the other instant lies at a later time of day. -/
def nanosecondsUntil (start finish : Instant) : Int :=
  let days := finish.day - start.day
  let seconds : Int := finish.second - start.second
  let leap : Int :=
    if start.second < finish.second ∧ 1000000000 ≤ start.nanosecond then 1
    else if finish.second < start.second ∧ 1000000000 ≤ finish.nanosecond then -1
    else 0
  (days * 86400 + seconds + leap) * 1000000000 + finish.nanosecond - start.nanosecond

/-- Spans count whole minutes, and a part of a minute is dropped on either side of zero. -/
def minutesUntil (start finish : Instant) : Int :=
  (nanosecondsUntil start finish).tdiv 60000000000

def hoursUntil (start finish : Instant) : Int :=
  (nanosecondsUntil start finish).tdiv 3600000000000

end Instant

end ContactRules.Calendar
