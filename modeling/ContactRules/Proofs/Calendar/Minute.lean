/-
This file proves how instants relate to days and to minutes of days.
-/

import ContactRules.Calendar.Instant
import Mathlib.Order.Bounds.Defs

namespace ContactRules.Calendar

/-- An instant is the first of its minute. -/
def Instant.StartsMinute (instant : Instant) : Prop :=
  instant.second % 60 = 0 ∧ instant.nanosecond = 0

namespace Instant

/-- An instant of an earlier day is earlier. -/
theorem lt_of_day_lt {left right : Instant} (ordered : left.day < right.day) : left < right := by
  have leftBound := left.nanosecond_lt
  have leftSecond := left.secondBound
  simp only [lt_iff, rank]
  omega

/-- An earlier instant is not of a later day. -/
theorem day_le_of_lt {left right : Instant} (ordered : left < right) : left.day ≤ right.day := by
  rcases Int.lt_or_le right.day left.day with reversed | forward
  · have backwards := lt_of_day_lt reversed
    simp only [lt_iff] at ordered backwards
    omega
  · exact forward

/-- The start of a minute of a day is the one instant with that day, hour and minute that starts a minute. -/
theorem ofMinute?_eq_some_iff (day : Int) (hour minute : Nat) (instant : Instant) :
    ofMinute? day hour minute = some instant ↔
      instant.day = day ∧ instant.hour = hour ∧ instant.minute = minute ∧ instant.StartsMinute := by
  obtain ⟨ownDay, second, nanosecond, range, bound, part⟩ := instant
  simp only [Instant.hour, Instant.minute, StartsMinute, ofMinute?, ofSecond?]
  constructor
  · intro found
    split at found
    · rename_i inside
      split at found
      · split at found
        · simp only [Option.some.injEq, mk.injEq] at found
          omega
        · cases found
      · cases found
    · cases found
  · rintro ⟨rfl, rfl, rfl, whole, rfl⟩
    have inside : second / 3600 < 24 ∧ second / 60 % 60 < 60 := by omega
    have same : second / 3600 * 3600 + second / 60 % 60 * 60 = second := by omega
    simp only [inside, range, same, bound, and_self, if_true, dif_pos]

/-- Whole minutes move the second and keep the part of it. A leap second counts as the second before it. -/
theorem addMinutes?_eq_some {instant moved : Instant} {minutes : Nat} (positive : 1 ≤ minutes)
    (isMoved : instant.addMinutes? minutes = some moved) :
    moved.day * 86400 + moved.second = instant.day * 86400 + instant.second + 60 * minutes ∧
      moved.nanosecond = instant.nanosecond % 1000000000 := by
  have someMinutes : minutes ≠ 0 := by omega
  simp only [addMinutes?, someMinutes, if_false] at isMoved
  split at isMoved
  · simp only [Option.some.injEq] at isMoved
    subst isMoved
    exact ⟨by simp only; omega, rfl⟩
  · cases isMoved

/-- An instant that is moved forward comes later. -/
theorem lt_addMinutes? {instant moved : Instant} {minutes : Nat} (positive : 1 ≤ minutes)
    (isMoved : instant.addMinutes? minutes = some moved) : instant < moved := by
  obtain ⟨seconds, parts⟩ := addMinutes?_eq_some positive isMoved
  have bound := instant.nanosecond_lt
  simp only [lt_iff, rank]
  omega

/-- An instant can be moved as far as a later one, unless it is moved past the last day. -/
theorem addMinutes?_isSome {instant other moved : Instant} {minutes : Nat} (positive : 1 ≤ minutes)
    (ordered : instant < other) (isMoved : other.addMinutes? minutes = some moved) :
    ∃ limit, instant.addMinutes? minutes = some limit := by
  obtain ⟨seconds, _⟩ := addMinutes?_eq_some positive isMoved
  have range := moved.dayRange
  have ownRange := instant.dayRange
  have bound := moved.secondBound
  have otherPart := other.nanosecond_lt
  simp only [lt_iff, rank] at ordered
  have someMinutes : minutes ≠ 0 := by omega
  have inside : firstDay ≤ instant.day + ((instant.second + 60 * minutes) / 86400 : Nat) ∧
      instant.day + ((instant.second + 60 * minutes) / 86400 : Nat) ≤ lastDay := by omega
  rw [addMinutes?, if_neg someMinutes]
  simp only
  rw [dif_pos inside]
  exact ⟨_, rfl⟩

/-- This is the first instant of the minute of an instant. -/
def minuteStart (instant : Instant) : Instant :=
  ⟨instant.day, instant.second / 60 * 60, 0, instant.dayRange,
    Nat.lt_of_le_of_lt (Nat.div_mul_le_self _ _) instant.secondBound, Or.inl (by decide)⟩

/-- The start of the minute of an instant is the start of a minute. -/
theorem minuteStart_startsMinute (instant : Instant) : instant.minuteStart.StartsMinute :=
  ⟨Nat.mul_mod_left _ _, rfl⟩

/-- A minute starts no later than any instant in it. -/
theorem minuteStart_le (instant : Instant) : instant.minuteStart ≤ instant := by
  simp only [le_iff, rank, minuteStart]
  omega

/-- Instants lie in one minute when day and minute of the day are the same. -/
theorem sameMinute_iff {left right : Instant} :
    left.sameMinute right = true ↔ left.day = right.day ∧ left.second / 60 = right.second / 60 := by
  simp [sameMinute]

/-- Two instants lie in one minute when a third one lies in the minute of both. -/
theorem sameMinute_of_common {common left right : Instant} (toLeft : common.sameMinute left = true)
    (toRight : common.sameMinute right = true) : left.sameMinute right = true := by
  rw [sameMinute_iff] at *
  exact ⟨toLeft.1.symm.trans toRight.1, toLeft.2.symm.trans toRight.2⟩

/-- A minute has one first instant. -/
theorem StartsMinute.eq_of_sameMinute {left right : Instant} (leftStarts : left.StartsMinute)
    (rightStarts : right.StartsMinute) (same : right.sameMinute left = true) : left = right := by
  obtain ⟨leftWhole, leftPart⟩ := leftStarts
  obtain ⟨rightWhole, rightPart⟩ := rightStarts
  obtain ⟨days, minutes⟩ := sameMinute_iff.mp same
  apply rank_inj
  simp only [rank]
  omega

/-- The start of the minute of an instant lies in the same minute. -/
theorem minuteStart_sameMinute (instant : Instant) :
    instant.minuteStart.sameMinute instant = true :=
  sameMinute_iff.mpr ⟨rfl, Nat.mul_div_cancel _ (by decide)⟩

/-- An instant between two that lie in one minute lies in that minute. -/
theorem sameMinute_of_between {first middle last : Instant} (lower : first ≤ middle)
    (upper : middle ≤ last) (same : first.sameMinute last = true) : first.sameMinute middle = true := by
  have firstPart := first.nanosecond_lt
  have middlePart := middle.nanosecond_lt
  have lastPart := last.nanosecond_lt
  have firstSecond := first.secondBound
  have middleSecond := middle.secondBound
  have lastSecond := last.secondBound
  simp only [sameMinute_iff, le_iff, rank] at *
  omega

/-- The later instant is not after the earlier one moved forward by a minute. -/
def WithinMinute (earlier later : Instant) : Prop :=
  ∀ limit, earlier.addMinutes? 1 = some limit → later ≤ limit

instance (earlier later : Instant) : Decidable (earlier.WithinMinute later) :=
  decidable_of_iff ((earlier.addMinutes? 1).all (fun limit => later ≤ limit) = true) <| by
    unfold WithinMinute
    cases earlier.addMinutes? 1 <;> simp

/-- Instants within a minute do not leave out a minute between them that starts outside leap seconds. -/
theorem WithinMinute.lt_end {earlier later opening closing : Instant}
    (near : earlier.WithinMinute later) (before : earlier < opening)
    (whole : opening.nanosecond < 1000000000) (closes : opening.addMinutes? 1 = some closing) :
    later < closing := by
  obtain ⟨limit, limits⟩ := addMinutes?_isSome (Nat.le_refl 1) before closes
  have notAfter := near limit limits
  obtain ⟨limitSeconds, limitPart⟩ := addMinutes?_eq_some (Nat.le_refl 1) limits
  obtain ⟨closingSeconds, closingPart⟩ := addMinutes?_eq_some (Nat.le_refl 1) closes
  have ownPart := earlier.nanosecond_lt
  simp only [lt_iff, le_iff, rank] at *
  omega

end Instant

/-- This says that an optional instant is the first with a property after another instant, and that
there is no such instant when it is missing. -/
def IsFirstAfter (property : Instant → Prop) (after : Instant) : Option Instant → Prop
  | some instant => IsLeast {point | property point ∧ after < point} instant
  | none => ∀ point, property point → ¬ after < point

namespace IsFirstAfter

variable {property : Instant → Prop} {after : Instant} {found : Option Instant}

/-- What is found is the least point after an instant, and it is found if there is one. -/
theorem eq_some_iff (first : IsFirstAfter property after found) (instant : Instant) :
    found = some instant ↔ IsLeast {point | property point ∧ after < point} instant := by
  constructor
  · rintro rfl
    exact first
  · intro least
    cases found with
    | none => exact absurd least.1.2 (first instant least.1.1)
    | some other =>
        have below : other ≤ instant := first.2 least.1
        have above : instant ≤ other := least.2 first.1
        simp only [Instant.le_iff] at below above
        exact congrArg some (Instant.rank_inj (Int.le_antisymm below above))

/-- Nothing is found only if there is no point after an instant. -/
theorem eq_none_iff (first : IsFirstAfter property after found) :
    found = none ↔ ∀ point, property point → ¬ after < point := by
  constructor
  · rintro rfl
    exact first
  · intro without
    cases found with
    | none => rfl
    | some instant => exact absurd first.1.2 (without instant first.1.1)

/-- A bound from above keeps the first instant, or leaves none. -/
theorem filter_le (first : IsFirstAfter property after found) (bound : Option Instant) :
    IsFirstAfter (fun point => property point ∧ bound.all (fun most => point ≤ most) = true) after
      (found.filter fun point => bound.all fun most => point ≤ most) := by
  cases found with
  | none => exact fun point holds => first point holds.1
  | some instant =>
      rw [Option.filter_some]
      split
      · rename_i within
        exact ⟨⟨⟨first.1.1, within⟩, first.1.2⟩, fun point holds => first.2 ⟨holds.1.1, holds.2⟩⟩
      · rename_i within
        rintro point ⟨holds, pointWithin⟩ later
        have least : instant ≤ point := first.2 ⟨holds, later⟩
        cases bound with
        | none => exact within rfl
        | some most =>
            simp only [Option.all_some, decide_eq_true_eq, Instant.le_iff] at within pointWithin least
            omega

end IsFirstAfter

end ContactRules.Calendar
