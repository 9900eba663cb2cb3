/-
This file proves that days and dates determine each other, by putting the months of all years in a row.
-/

import ContactRules.Calendar.Date
import Mathlib.Data.List.GetD
import Mathlib.Order.Monotone.Basic

namespace ContactRules.Calendar

/-- This is the number of days in a list of lengths. -/
def total (lengths : List Nat) : Nat := lengths.foldr (· + ·) 0

/-- One more length adds to the total. -/
theorem total_take_succ (lengths : List Nat) (count : Nat) :
    total (lengths.take (count + 1)) = total (lengths.take count) + lengths.getD count 0 := by
  induction lengths generalizing count with
  | nil => simp [total]
  | cons length lengths inductionHypothesis =>
      cases count with
      | zero => simp [total]
      | succ count =>
          have tail := inductionHypothesis count
          simp only [total] at tail
          simp only [total, List.take_succ_cons, List.foldr_cons, List.getD_cons_succ]
          omega

def yearLength (year : Int) : Nat := if isLeapYear year then 366 else 365

/-- Every fourth year is a leap year, but of the centuries only every fourth. -/
theorem isLeapYear_iff (year : Int) :
    isLeapYear year = true ↔ year % 4 = 0 ∧ (year % 100 ≠ 0 ∨ year % 400 = 0) := by
  simp [isLeapYear]

/-- Years follow one another without a gap. -/
theorem firstDayOfYear_succ (year : Int) :
    firstDayOfYear (year + 1) = firstDayOfYear year + yearLength year := by
  simp only [firstDayOfYear, yearLength]
  by_cases leap : isLeapYear year
  · have divisible := (isLeapYear_iff year).mp leap
    rw [if_pos leap]
    omega
  · have indivisible := mt (isLeapYear_iff year).mpr leap
    rw [if_neg leap]
    omega

/-- Years have 146097 days in every 400, but for the remainders of the three divisions. -/
theorem firstDayOfYear_bounds (year : Int) :
    146097 * (year - 1) - 699 ≤ 400 * (firstDayOfYear year + 719162) ∧
      400 * (firstDayOfYear year + 719162) ≤ 146097 * (year - 1) + 396 := by
  simp only [firstDayOfYear]
  omega

/-- A day lies in its year. -/
theorem yearOfDay_spec (day : Int) :
    firstDayOfYear (Date.yearOfDay day) ≤ day ∧ day < firstDayOfYear (Date.yearOfDay day + 1) := by
  simp only [Date.yearOfDay]
  generalize guessed : (day + 719162) * 400 / 146097 + 1 = guess
  have before := firstDayOfYear_bounds (guess - 1)
  have after := firstDayOfYear_bounds (guess + 1 + 1)
  split
  · rw [Int.sub_add_cancel]
    omega
  · split <;> omega

/-- The walk through the months stops in the one that holds the day. -/
theorem findMonth_spec (lengths : List Nat) (month rest : Nat) (within : rest < total lengths) :
    ∃ count < lengths.length,
      Date.findMonth lengths month rest = (month + count, rest - total (lengths.take count)) ∧
        total (lengths.take count) ≤ rest ∧ rest < total (lengths.take (count + 1)) := by
  induction lengths generalizing month rest with
  | nil => simp [total] at within
  | cons length lengths inductionHypothesis =>
      simp only [total, List.foldr_cons] at within
      by_cases inside : rest < length
      · refine ⟨0, by simp, ?_, by simp [total], by simpa [total] using inside⟩
        simp [Date.findMonth, inside, total]
      · obtain ⟨count, bound, found, lower, upper⟩ :=
          inductionHypothesis (month + 1) (rest - length) (by simp only [total]; omega)
        simp only [total] at found lower upper
        refine ⟨count + 1, by simpa using bound, ?_, ?_, ?_⟩
        · simp only [Date.findMonth, inside, if_false, found, total, List.take_succ_cons,
            List.foldr_cons, Prod.mk.injEq]
          omega
        · simp only [total, List.take_succ_cons, List.foldr_cons]
          omega
        · simp only [total, List.take_succ_cons, List.foldr_cons] at upper ⊢
          omega

/-- The months of a year have all its days. -/
theorem total_monthLengths (year : Int) : total (monthLengths year) = yearLength year := by
  unfold monthLengths yearLength
  cases isLeapYear year <;> rfl

theorem monthLengths_length (year : Int) : (monthLengths year).length = 12 := rfl

/-- Each month has 28 days at least. -/
theorem monthLength_ge (year : Int) (month : Nat) (most : month ≤ 12) :
    28 ≤ monthLength year month := by
  have bound : month - 1 < (monthLengths year).length := by
    rw [monthLengths_length]
    omega
  have each : ∀ length ∈ monthLengths year, 28 ≤ length := by
    unfold monthLengths
    cases isLeapYear year <;> decide
  rw [monthLength, List.getD_eq_getElem _ _ bound]
  exact each _ (List.getElem_mem bound)

/-- No month has more than 31 days. -/
theorem monthLength_le (year : Int) (month : Nat) : monthLength year month ≤ 31 := by
  have most : ∀ length ∈ monthLengths year, length ≤ 31 := by
    intro length member
    simp only [monthLengths, List.mem_cons, List.not_mem_nil, or_false] at member
    split at member <;> omega
  rw [monthLength, List.getD_eq_getElem?_getD]
  cases found : (monthLengths year)[month - 1]? with
  | none => exact Nat.zero_le _
  | some length => exact most length (List.mem_of_getElem? found)

/-- Months of one year follow one another without a gap. -/
theorem daysBeforeMonth_succ (year : Int) (month : Nat) :
    daysBeforeMonth year (month + 1 + 1) =
      daysBeforeMonth year (month + 1) + monthLength year (month + 1) :=
  total_take_succ (monthLengths year) month

/-- This is the first day of a month, where the months of all years are numbered in a row. -/
def startOfMonth (number : Int) : Int :=
  firstDayOfYear (number / 12) + daysBeforeMonth (number / 12) ((number % 12).toNat + 1)

def lengthOfMonth (number : Int) : Nat := monthLength (number / 12) ((number % 12).toNat + 1)

/-- Months follow one another without a gap, also at the end of a year. -/
theorem startOfMonth_succ (number : Int) :
    startOfMonth (number + 1) = startOfMonth number + lengthOfMonth number := by
  have step := daysBeforeMonth_succ (number / 12) (number % 12).toNat
  by_cases december : number % 12 = 11
  · have year : (number + 1) / 12 = number / 12 + 1 := by omega
    have january : (number + 1) % 12 = 0 := by omega
    have whole : daysBeforeMonth (number / 12) (11 + 1 + 1) = yearLength (number / 12) :=
      total_monthLengths (number / 12)
    have none : daysBeforeMonth (number / 12 + 1) (0 + 1) = 0 := rfl
    simp only [startOfMonth, lengthOfMonth, year, january, december, firstDayOfYear_succ] at step ⊢
    simp only [Int.toNat_zero, none]
    rw [show ((11 : Int).toNat) = 11 from rfl] at step ⊢
    omega
  · have year : (number + 1) / 12 = number / 12 := by omega
    have month : ((number + 1) % 12).toNat = (number % 12).toNat + 1 := by omega
    simp only [startOfMonth, lengthOfMonth, year, month, step]
    omega

/-- No month of any year has fewer than 28 days. -/
theorem lengthOfMonth_ge (number : Int) : 28 ≤ lengthOfMonth number :=
  monthLength_ge _ _ (by omega)

theorem lengthOfMonth_le (number : Int) : lengthOfMonth number ≤ 31 := monthLength_le _ _

/-- Months start in the order of their numbers. -/
theorem startOfMonth_lt_iff {first second : Int} :
    startOfMonth first < startOfMonth second ↔ first < second := by
  have increasing : StrictMono startOfMonth := by
    apply strictMono_int_of_lt_succ
    intro number
    have length := lengthOfMonth_ge number
    rw [startOfMonth_succ]
    omega
  exact increasing.lt_iff_lt

theorem startOfMonth_le_iff {first second : Int} :
    startOfMonth first ≤ startOfMonth second ↔ first ≤ second := by
  rw [← Int.not_lt, startOfMonth_lt_iff, Int.not_lt]

/-- This is the number of the month of a date. -/
def Date.monthNumber (date : Date) : Int := 12 * date.year + (date.month - 1 : Nat)

/-- The number of a month tells the year. -/
theorem monthNumber_year (date : Date) (most : date.month ≤ 12) :
    date.monthNumber / 12 = date.year := by
  simp only [Date.monthNumber]
  omega

/-- The number of a month tells the month of the year. -/
theorem monthNumber_month (date : Date) (least : 1 ≤ date.month) (most : date.month ≤ 12) :
    (date.monthNumber % 12).toNat + 1 = date.month := by
  simp only [Date.monthNumber]
  omega

/-- A day lies in the month of its date, at the place that the date says. -/
theorem ofDayNumber_spec (day : Int) :
    let date := Date.ofDayNumber day
    1 ≤ date.month ∧ date.month ≤ 12 ∧ 1 ≤ date.day ∧
      day = startOfMonth date.monthNumber + (date.day - 1 : Nat) ∧
      day < startOfMonth (date.monthNumber + 1) := by
  obtain ⟨lower, upper⟩ := yearOfDay_spec day
  rw [firstDayOfYear_succ] at upper
  obtain ⟨count, bound, found, least, most⟩ :=
    findMonth_spec (monthLengths (Date.yearOfDay day)) 1
      (day - firstDayOfYear (Date.yearOfDay day)).toNat (by rw [total_monthLengths]; omega)
  rw [monthLengths_length] at bound
  have date : Date.ofDayNumber day = ⟨Date.yearOfDay day, 1 + count,
      (day - firstDayOfYear (Date.yearOfDay day)).toNat -
        total ((monthLengths (Date.yearOfDay day)).take count) + 1⟩ := by
    simp only [Date.ofDayNumber, found]
  have year : (12 * Date.yearOfDay day + (1 + count - 1 : Nat)) / 12 = Date.yearOfDay day := by omega
  have month : ((12 * Date.yearOfDay day + (1 + count - 1 : Nat)) % 12).toNat = count := by omega
  have start : startOfMonth (12 * Date.yearOfDay day + (1 + count - 1 : Nat)) =
      firstDayOfYear (Date.yearOfDay day) + total ((monthLengths (Date.yearOfDay day)).take count) := by
    rw [startOfMonth, year, month]
    rfl
  have length : lengthOfMonth (12 * Date.yearOfDay day + (1 + count - 1 : Nat)) =
      (monthLengths (Date.yearOfDay day)).getD count 0 := by
    rw [lengthOfMonth, year, month]
    rfl
  rw [total_take_succ] at most
  simp only [date, Date.monthNumber, startOfMonth_succ, start, length]
  omega

/-- This is the number of the month that holds a day. -/
def monthOf (day : Int) : Int := (Date.ofDayNumber day).monthNumber

/-- The year of a day is that of the month which holds it. -/
theorem ofDayNumber_year (day : Int) : (Date.ofDayNumber day).year = monthOf day / 12 := by
  obtain ⟨_, most, _⟩ := ofDayNumber_spec day
  exact (monthNumber_year _ most).symm

/-- The month of a day in its year is that of the month which holds it. -/
theorem ofDayNumber_month (day : Int) :
    (Date.ofDayNumber day).month = (monthOf day % 12).toNat + 1 := by
  obtain ⟨least, most, _⟩ := ofDayNumber_spec day
  exact (monthNumber_month _ least most).symm

/-- The day of a month counts from the start of the month. -/
theorem ofDayNumber_day (day : Int) :
    ((Date.ofDayNumber day).day : Int) = day - startOfMonth (monthOf day) + 1 := by
  obtain ⟨_, _, positive, place, _⟩ := ofDayNumber_spec day
  simp only [monthOf]
  omega

/-- A month that holds a day starts no later than this day. -/
theorem startOfMonth_monthOf_le (day : Int) : startOfMonth (monthOf day) ≤ day := by
  obtain ⟨_, _, _, place, _⟩ := ofDayNumber_spec day
  simp only [monthOf]
  omega

/-- The month after the one that holds a day starts later than this day. -/
theorem lt_startOfMonth_monthOf_succ (day : Int) : day < startOfMonth (monthOf day + 1) :=
  (ofDayNumber_spec day).2.2.2.2

/-- A day is in one month only. -/
theorem monthOf_eq_iff (day number : Int) :
    monthOf day = number ↔ startOfMonth number ≤ day ∧ day < startOfMonth (number + 1) := by
  have starts := startOfMonth_monthOf_le day
  have ends := lt_startOfMonth_monthOf_succ day
  constructor
  · rintro rfl
    exact ⟨starts, ends⟩
  · rintro ⟨lower, upper⟩
    have below := startOfMonth_lt_iff.mp (lt_of_le_of_lt starts upper)
    have above := startOfMonth_lt_iff.mp (lt_of_le_of_lt lower ends)
    omega

/-- The day before the next month begins is the last one of its month. -/
theorem ofDayNumber_before_next (number : Int) :
    (Date.ofDayNumber (startOfMonth (number + 1) - 1)).day = lengthOfMonth number := by
  have length := lengthOfMonth_ge number
  have starts := startOfMonth_succ number
  have within : monthOf (startOfMonth (number + 1) - 1) = number := (monthOf_eq_iff _ _).mpr (by omega)
  have place := ofDayNumber_day (startOfMonth (number + 1) - 1)
  rw [within] at place
  omega

/-- Later days lie in the same month or in later ones. -/
theorem monthOf_mono {first second : Int} (ordered : first ≤ second) :
    monthOf first ≤ monthOf second := by
  have starts := startOfMonth_monthOf_le first
  have ends := lt_startOfMonth_monthOf_succ second
  have before := startOfMonth_lt_iff.mp
    (show startOfMonth (monthOf first) < startOfMonth (monthOf second + 1) by omega)
  omega

/-- A day can be represented from the first day to the last one. -/
theorem isRepresentable_iff {day : Int} : isRepresentable day = true ↔ firstDay ≤ day ∧ day ≤ lastDay := by
  simp only [isRepresentable, Bool.and_eq_true, decide_eq_true_eq]

/-- A date of a month stands for a day exactly when the month has that day and the day can be represented. -/
theorem dayOfDate?_eq_some_iff (number : Int) (place : Nat) (day : Int) :
    dayOfDate? ⟨number / 12, (number % 12).toNat + 1, place⟩ = some day ↔
      (1 ≤ place ∧ place ≤ lengthOfMonth number) ∧
        day = startOfMonth number + (place - 1 : Nat) ∧ isRepresentable day = true := by
  have month : (number % 12).toNat + 1 ≤ 12 := by omega
  have start : Date.dayNumber ⟨number / 12, (number % 12).toNat + 1, place⟩ =
      startOfMonth number + (place - 1 : Nat) := rfl
  simp only [dayOfDate?, Date.valid, start, lengthOfMonth]
  constructor
  · intro found
    split at found
    · rename_i holds
      simp only [Option.some.injEq] at found
      simp only [Bool.and_eq_true, decide_eq_true_eq] at holds
      exact ⟨⟨holds.1.1.2, holds.1.2⟩, found.symm, found ▸ holds.2⟩
    · cases found
  · rintro ⟨⟨least, most⟩, rfl, inside⟩
    rw [if_pos]
    simp only [Bool.and_eq_true, decide_eq_true_eq]
    exact ⟨⟨⟨⟨Nat.le_add_left 1 _, month⟩, least⟩, most⟩, inside⟩

end ContactRules.Calendar
