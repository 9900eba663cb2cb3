/-
This file defines the Gregorian calendar on day numbers.
-/

namespace ContactRules.Calendar

def isLeapYear (year : Int) : Bool :=
  year % 4 == 0 && (year % 100 != 0 || year % 400 == 0)

/-- These are the lengths of the months of a year. -/
def monthLengths (year : Int) : List Nat :=
  [31, if isLeapYear year then 29 else 28, 31, 30, 31, 30, 31, 31, 30, 31, 30, 31]

/-- This is the length of a month, counted from one. -/
def monthLength (year : Int) (month : Nat) : Nat :=
  (monthLengths year).getD (month - 1) 0

/-- This is the number of days of a year that lie before a month. -/
def daysBeforeMonth (year : Int) (month : Nat) : Nat :=
  ((monthLengths year).take (month - 1)).foldr (· + ·) 0

/-- This is the number of days from the first day of 1970 to the first day of a year. -/
def firstDayOfYear (year : Int) : Int :=
  let before := year - 1
  365 * before + before / 4 - before / 100 + before / 400 - 719162

/-- A date is a year, a month from one to twelve and a day of that month. -/
structure Date where
  year : Int
  month : Nat
  day : Nat
deriving DecidableEq

namespace Date

def valid (date : Date) : Bool :=
  1 ≤ date.month && date.month ≤ 12 && 1 ≤ date.day && date.day ≤ monthLength date.year date.month

/-- This is the number of days from the first day of 1970. -/
def dayNumber (date : Date) : Int :=
  firstDayOfYear date.year + daysBeforeMonth date.year date.month + (date.day - 1 : Nat)

/-- The year of a day number. The mean length of a year gives a guess that is at most one off. -/
def yearOfDay (day : Int) : Int :=
  let guess := (day + 719162) * 400 / 146097 + 1
  if day < firstDayOfYear guess then guess - 1
  else if firstDayOfYear (guess + 1) ≤ day then guess + 1
  else guess

/-- This walks through the months until the rest of the days falls within one. -/
def findMonth : List Nat → Nat → Nat → Nat × Nat
  | [], month, rest => (month, rest)
  | length :: lengths, month, rest =>
      if rest < length then (month, rest) else findMonth lengths (month + 1) (rest - length)

def ofDayNumber (day : Int) : Date :=
  let year := yearOfDay day
  let place := findMonth (monthLengths year) 1 (day - firstDayOfYear year).toNat
  ⟨year, place.1, place.2 + 1⟩

end Date

/-- This is the first day of -262143, the first one that can be represented. -/
def firstDay : Int := -96465292

/-- This is the last day of 262142, the last one that can be represented. -/
def lastDay : Int := 95026236

def isRepresentable (day : Int) : Bool :=
  firstDay ≤ day && day ≤ lastDay

/-- This is the day number of a date that exists and can be represented. -/
def dayOfDate? (date : Date) : Option Int :=
  if date.valid && isRepresentable date.dayNumber then some date.dayNumber else none

/-- Days of the week count from Sunday, which is zero. -/
def weekday (day : Int) : Nat :=
  ((day + 4) % 7).toNat

end ContactRules.Calendar
