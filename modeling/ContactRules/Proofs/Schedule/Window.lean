/-
This file proves that a schedule fires only within its windows, which are one minute long, and throughout
each window that does not end after the schedule.
-/

import ContactRules.Proofs.Calendar.Minute
import ContactRules.Schedule.Firing

namespace ContactRules.Schedule

open ContactRules.Calendar

variable {schedule : Schedule} {opening instant : Instant}

/-- A schedule ends for all instants after its end. -/
theorem isOver_eq_false_iff :
    schedule.isOver instant = false ↔ schedule.finish.all (fun finish => instant ≤ finish) = true := by
  unfold isOver
  cases schedule.finish with
  | none => simp
  | some finish =>
      simp only [Option.any_some, Option.all_some, decide_eq_false_iff_not, decide_eq_true_eq,
        Instant.lt_iff, Instant.le_iff]
      omega

/-- A schedule that fires is not over. -/
theorem isOver_of_firesAt (fires : schedule.firesAt instant = true) : schedule.isOver instant = false := by
  simp only [firesAt, Bool.and_eq_true, Bool.not_eq_true'] at fires
  exact fires.1

/-- A schedule does not fire after its end. -/
theorem firesAt_le_finish {finish : Instant} (fires : schedule.firesAt instant = true)
    (ends : schedule.finish = some finish) : instant ≤ finish := by
  have within := isOver_eq_false_iff.mp (isOver_of_firesAt fires)
  simpa [ends] using within

/-- A schedule that fires once fires within a minute after its start. -/
theorem inStartMinute_of_firesAt {start : Instant} (isOnce : schedule.recurrence = .once)
    (isStart : schedule.start = some start) (fires : schedule.firesAt instant = true) :
    inStartMinute start instant = true := by
  simp only [firesAt, isOnce, isStart, Option.any_some, Bool.and_eq_true] at fires
  exact fires.2

/-- A window opens at the start of a schedule that fires once, or with a minute whose first instant another
schedule fires at. It lasts for a minute, as `inStartMinute` says. -/
def OpensAt (schedule : Schedule) (opening : Instant) : Prop :=
  match schedule.recurrence with
  | .once => schedule.start = some opening
  | _ => opening.StartsMinute ∧ schedule.firesAt opening = true

/-- The window of a schedule that fires once opens at its start. -/
theorem opensAt_once_iff (isOnce : schedule.recurrence = .once) :
    schedule.OpensAt opening ↔ schedule.start = some opening := by
  simp only [OpensAt, isOnce]

/-- The windows of a schedule that fires again and again open with the minutes in which it fires. -/
theorem opensAt_iff (again : schedule.recurrence ≠ .once) :
    schedule.OpensAt opening ↔ opening.StartsMinute ∧ schedule.firesAt opening = true := by
  unfold OpensAt
  split
  · contradiction
  · exact Iff.rfl

/-- An instant lies in a window when it is not before the opening and before the close, where there is one. -/
theorem inStartMinute_iff :
    inStartMinute opening instant = true ↔
      opening ≤ instant ∧ ∀ closing, opening.addMinutes? 1 = some closing → instant < closing := by
  simp only [inStartMinute, Bool.and_eq_true, decide_eq_true_eq]
  cases opening.addMinutes? 1 with
  | none => simp
  | some closing => simp

/-- A window contains its opening. -/
theorem inStartMinute_self (start : Instant) : inStartMinute start start = true := by
  simp only [inStartMinute, Bool.and_eq_true, decide_eq_true_eq]
  refine ⟨Int.le_refl _, ?_⟩
  cases moved : start.addMinutes? 1 with
  | none => rfl
  | some finish => simpa using Instant.lt_addMinutes? (Nat.le_refl 1) moved

/-- The window of an instant that starts a minute is that minute. -/
theorem inStartMinute_iff_sameMinute (starts : opening.StartsMinute) :
    inStartMinute opening instant = true ↔ opening.sameMinute instant = true := by
  obtain ⟨whole, noPart⟩ := starts
  have part := instant.nanosecond_lt
  have second := instant.secondBound
  have openingSecond := opening.secondBound
  rw [inStartMinute_iff, Instant.sameMinute_iff]
  cases closes : opening.addMinutes? 1 with
  | none =>
      have range := opening.dayRange
      have instantRange := instant.dayRange
      simp only [Instant.addMinutes?, Nat.one_ne_zero, if_false] at closes
      split at closes
      · cases closes
      · simp only [reduceCtorEq, false_imp_iff, implies_true, and_true, Instant.le_iff, Instant.rank]
        omega
  | some closing =>
      obtain ⟨seconds, closingPart⟩ := Instant.addMinutes?_eq_some (Nat.le_refl 1) closes
      simp only [Option.some.injEq, forall_eq', Instant.le_iff, Instant.lt_iff, Instant.rank]
      omega

/-- A schedule that is not over was not over earlier. -/
theorem isOver_mono {later : Instant} (ordered : instant ≤ later) (open_ : schedule.isOver later = false) :
    schedule.isOver instant = false := by
  unfold isOver at *
  cases ends : schedule.finish with
  | none => rfl
  | some finish =>
      simp only [ends, Option.any_some, decide_eq_false_iff_not, Instant.lt_iff, Instant.le_iff] at *
      omega

/-- Whether a schedule fires that fires again and again depends on the minute only, until the schedule is
over. -/
theorem firesAt_of_sameMinute {other : Instant} (again : schedule.recurrence ≠ .once)
    (fires : schedule.firesAt instant = true) (same : instant.sameMinute other = true)
    (stillOpen : schedule.isOver other = false) : schedule.firesAt other = true := by
  obtain ⟨day, minute⟩ := Instant.sameMinute_iff.mp same
  have hours : other.second / 3600 = instant.second / 3600 := by omega
  simp only [firesAt, atTimeOfDay, Instant.hour, Instant.minute, Instant.weekday, Instant.date,
    Bool.and_eq_true, Bool.not_eq_true'] at fires ⊢
  refine ⟨stillOpen, ?_⟩
  have timed := fires.2
  cases kind : schedule.recurrence with
  | once => exact absurd kind again
  | daily | weekly | monthly | cron =>
      simp only [kind] at timed ⊢
      simpa only [hours, ← minute, ← day] using timed

/-- A schedule fires in none but its windows. -/
theorem exists_window_of_firesAt (fires : schedule.firesAt instant = true) :
    ∃ opening, schedule.OpensAt opening ∧ inStartMinute opening instant = true := by
  by_cases isOnce : schedule.recurrence = .once
  · simp only [firesAt, isOnce, Bool.and_eq_true, Option.any_eq_true] at fires
    obtain ⟨_, opening, starts, inside⟩ := fires
    exact ⟨opening, (opensAt_once_iff isOnce).mpr starts, inside⟩
  · have stillOpen := isOver_of_firesAt fires
    have starts := instant.minuteStart_startsMinute
    have same := instant.minuteStart_sameMinute
    have back : instant.sameMinute instant.minuteStart = true := by
      rw [Instant.sameMinute_iff] at same ⊢
      exact ⟨same.1.symm, same.2.symm⟩
    have startFires := firesAt_of_sameMinute isOnce fires back
      (isOver_mono instant.minuteStart_le stillOpen)
    exact ⟨instant.minuteStart, (opensAt_iff isOnce).mpr ⟨starts, startFires⟩,
      (inStartMinute_iff_sameMinute starts).mpr same⟩

/-- A schedule fires throughout a window until the schedule is over. -/
theorem firesAt_of_inStartMinute (opens : schedule.OpensAt opening)
    (inside : inStartMinute opening instant = true) (stillOpen : schedule.isOver instant = false) :
    schedule.firesAt instant = true := by
  by_cases isOnce : schedule.recurrence = .once
  · have starts := (opensAt_once_iff isOnce).mp opens
    simp only [firesAt, stillOpen, isOnce, starts, Option.any_some, inside, Bool.not_false, Bool.and_self]
  · obtain ⟨starts, fires⟩ := (opensAt_iff isOnce).mp opens
    exact firesAt_of_sameMinute isOnce fires ((inStartMinute_iff_sameMinute starts).mp inside) stillOpen

end ContactRules.Schedule
