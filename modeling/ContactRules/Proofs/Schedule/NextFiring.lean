/-
This file proves that the next firing of a schedule is the first of the instants at which it fires.
-/

import ContactRules.Proofs.Schedule.MonthDay
import ContactRules.Proofs.Schedule.Window
import Mathlib.Tactic.Tauto

namespace ContactRules.Schedule

open ContactRules.Calendar

variable {schedule : Schedule}

/-- A firing point is the start of a schedule that fires once, or the first instant of a minute in which
another schedule fires. -/
def FiringPoint (schedule : Schedule) (instant : Instant) : Prop :=
  schedule.firesAt instant = true ∧
    match schedule.recurrence with
    | .once => schedule.start = some instant
    | .daily => instant.StartsMinute
    | .weekly => instant.StartsMinute
    | .monthly => instant.StartsMinute
    | .cron => False

/-- A candidate is kept exactly when it lies strictly after the instant. -/
theorem later_eq_some_iff (after : Instant) (candidate : Option Instant) (instant : Instant) :
    later after candidate = some instant ↔ candidate = some instant ∧ after < instant := by
  simp [later, Option.filter_eq_some_iff]

/-- The time of the schedule on a day is the one instant of that day that has the hour and the minute and
starts a minute. -/
theorem onDay?_eq_some_iff (day : Int) (instant : Instant) :
    schedule.onDay? day = some instant ↔
      instant.day = day ∧ schedule.atTimeOfDay instant = true ∧ instant.StartsMinute := by
  simp [onDay?, atTimeOfDay, Instant.ofMinute?_eq_some_iff, and_assoc]

/-- A schedule that has a time on one day has one on each day that can be represented. -/
theorem onDay?_isSome {day : Int} {instant : Instant} (timed : schedule.onDay? day = some instant)
    (other : Int) (inside : firstDay ≤ other ∧ other ≤ lastDay) :
    ∃ found, schedule.onDay? other = some found ∧ found.day = other := by
  obtain ⟨_, atTime, starts⟩ := (onDay?_eq_some_iff day instant).mp timed
  obtain ⟨own, second, nanosecond, range, bound, part⟩ := instant
  exact ⟨⟨other, second, nanosecond, inside, bound, part⟩,
    (onDay?_eq_some_iff other _).mpr ⟨rfl, atTime, starts⟩, rfl⟩

/-- The time of a schedule on a later day needs no comparison. -/
theorem later_onDay? {after : Instant} {day : Int} (ahead : after.day < day) :
    later after (schedule.onDay? day) = schedule.onDay? day := by
  cases timed : schedule.onDay? day with
  | none => rfl
  | some instant =>
      obtain ⟨rfl, _⟩ := (onDay?_eq_some_iff day instant).mp timed
      exact (later_eq_some_iff after (some instant) instant).mpr ⟨rfl, Instant.lt_of_day_lt ahead⟩

/-- The schedule fires at its time on the days that have a property. -/
def TimedOn (schedule : Schedule) (fires : Int → Prop) (instant : Instant) : Prop :=
  fires instant.day ∧ schedule.onDay? instant.day = some instant

/-- Some ascending days are enough to search for the first one that has a property and does not lie
before a given day: a day that is left out lies behind a later one that is searched. -/
structure Suffices (fires : Int → Prop) (after : Int) (days : List Int) : Prop where
  ascending : days.Pairwise (· < ·)
  fire : ∀ day ∈ days, fires day
  enough : ∀ day, fires day → after ≤ day → day ∈ days ∨ ∃ nearer ∈ days, after < nearer ∧ nearer < day

/-- A search through enough days finds the first time of the schedule. -/
theorem Suffices.isFirstAfter {fires : Int → Prop} {after : Instant} {days : List Int}
    (searched : Suffices fires after.day days) (schedule : Schedule) :
    IsFirstAfter (schedule.TimedOn fires) after
      (days.findSome? fun day => later after (schedule.onDay? day)) := by
  -- Each later time is found on its own day, unless a nearer day is searched and has a time as well.
  have reached : ∀ point, schedule.TimedOn fires point → after < point →
      ∃ day ∈ days, day ≤ point.day ∧ ∃ found, later after (schedule.onDay? day) = some found := by
    rintro point ⟨firing, timed⟩ ahead
    rcases searched.enough point.day firing (Instant.day_le_of_lt ahead) with own | nearer
    · exact ⟨point.day, own, Int.le_refl _, point, (later_eq_some_iff _ _ _).mpr ⟨timed, ahead⟩⟩
    · obtain ⟨day, member, afterDay, beforePoint⟩ := nearer
      have lower := after.dayRange.1
      have upper := point.dayRange.2
      obtain ⟨found, foundTimed, _⟩ := onDay?_isSome timed day (by omega)
      exact ⟨day, member, Int.le_of_lt beforePoint, found, by rw [later_onDay? afterDay, foundTimed]⟩
  cases result : days.findSome? fun day => later after (schedule.onDay? day) with
  | none =>
      intro point timedOn ahead
      obtain ⟨day, member, _, found, isFound⟩ := reached point timedOn ahead
      have missing := List.findSome?_eq_none_iff.mp result day member
      rw [isFound] at missing
      cases missing
  | some instant =>
      obtain ⟨before, own, behind, split, isFound, missing⟩ := List.findSome?_eq_some_iff.mp result
      obtain ⟨timed, ahead⟩ := (later_eq_some_iff _ _ _).mp isFound
      obtain ⟨rfl, _⟩ := (onDay?_eq_some_iff own instant).mp timed
      refine ⟨⟨⟨searched.fire _ (by simp [split]), timed⟩, ahead⟩, ?_⟩
      rintro point ⟨timedOn, pointAhead⟩
      obtain ⟨day, member, notAfter, found, dayFound⟩ := reached point timedOn pointAhead
      have ascending := searched.ascending
      rw [split] at member ascending
      have notBefore : instant.day ≤ day := by
        rcases List.mem_append.mp member with atFront | atBack
        · rw [missing day atFront] at dayFound
          cases dayFound
        · rcases List.mem_cons.mp atBack with same | further
          · exact Int.le_of_eq same.symm
          · exact Int.le_of_lt (List.rel_of_pairwise_cons (List.pairwise_append.mp ascending).2.1 further)
      rcases Int.lt_or_eq_of_le (Int.le_trans notBefore notAfter) with earlier | sameDay
      · have ordered := Instant.lt_of_day_lt earlier
        simp only [Instant.lt_iff, Instant.le_iff] at ordered ⊢
        omega
      · have pointTimed := timedOn.2
        rw [← sameDay, timed] at pointTimed
        rw [Option.some.inj pointTimed]
        exact Int.le_refl _

/-- Every day is searched by looking at a day and the next one. -/
theorem daily_suffices (after : Int) : Suffices (fun _ => True) after [after, after + 1] where
  ascending := by
    simp only [List.pairwise_cons, List.mem_singleton, forall_eq, List.not_mem_nil, false_imp_iff,
      implies_true, List.Pairwise.nil, and_true]
    omega
  fire _ _ := trivial
  enough day _ notBefore := by
    simp only [List.mem_cons, List.not_mem_nil, or_false, exists_eq_or_imp, exists_eq_left]
    omega

/-- A day of the week is searched by looking at eight days in a row. -/
theorem weekly_suffices (wanted : Nat) (after : Int) :
    Suffices (fun day => weekday day = wanted) after
      (((List.range 8).map fun offset : Nat => after + (offset : Int)).filter fun day =>
        weekday day = wanted) where
  ascending := by
    apply List.Pairwise.filter
    rw [List.pairwise_map]
    exact List.pairwise_lt_range.imp fun ordered => by omega
  fire day member := by simpa using (List.mem_filter.mp member).2
  enough day fires notBefore := by
    simp only [List.mem_filter, List.mem_map, List.mem_range, decide_eq_true_eq]
    by_cases near : day ≤ after + 7
    · exact Or.inl ⟨⟨(day - after).toNat, by omega, by omega⟩, fires⟩
    · right
      -- The same day of the week comes once among the seven days after the given one.
      refine ⟨after + 1 + (day - after - 1) % 7, ⟨⟨(1 + (day - after - 1) % 7).toNat, ?_, ?_⟩, ?_⟩, ?_, ?_⟩
      · omega
      · omega
      · rw [← fires, weekday, weekday]
        omega
      · omega
      · omega

/-- A day of the month is searched by looking at a month and the next one. -/
theorem monthly_suffices {wanted : Nat} (positive : 1 ≤ wanted) (after : Int) :
    Suffices (fun day => day = dayInMonth (monthOf day) wanted) after
      [dayInMonth (monthOf after) wanted, dayInMonth (monthOf after + 1) wanted] where
  ascending := by
    have upper := dayInMonth_upper (monthOf after) positive
    have lower := dayInMonth_lower (monthOf after + 1) wanted
    simp only [List.pairwise_cons, List.mem_singleton, forall_eq, List.not_mem_nil, false_imp_iff,
      implies_true, List.Pairwise.nil, and_true]
    omega
  fire day member := by
    rcases List.mem_cons.mp member with rfl | last
    · rw [monthOf_dayInMonth _ positive]
    · rw [List.mem_singleton.mp last, monthOf_dayInMonth _ positive]
  enough day fires notBefore := by
    simp only [List.mem_cons, List.not_mem_nil, or_false, exists_eq_or_imp, exists_eq_left]
    have months := monthOf_mono notBefore
    rcases Int.lt_trichotomy (monthOf day) (monthOf after + 1) with this | next | further
    · have same : monthOf day = monthOf after := by omega
      exact Or.inl (Or.inl (same ▸ fires))
    · exact Or.inl (Or.inr (next ▸ fires))
    · right
      right
      have afterEnds := lt_startOfMonth_monthOf_succ after
      have lower := dayInMonth_lower (monthOf after + 1) wanted
      have upper := dayInMonth_upper (monthOf after + 1) positive
      have dayLower := startOfMonth_monthOf_le day
      have ordered := startOfMonth_le_iff.mpr (show monthOf after + 1 + 1 ≤ monthOf day by omega)
      omega

/-- These are the firing points of a schedule, regardless of its end. -/
def EndlessPoint (schedule : Schedule) (instant : Instant) : Prop :=
  match schedule.recurrence with
  | .once => schedule.start = some instant
  | .daily => schedule.TimedOn (fun _ => True) instant
  | .weekly =>
      ∃ wanted ∈ schedule.dayOfWeek, schedule.TimedOn (fun day => weekday day = wanted.toNat) instant
  | .monthly =>
      ∃ wanted ∈ schedule.dayOfMonth, 1 ≤ wanted.toNat ∧
        schedule.TimedOn (fun day => day = dayInMonth (monthOf day) wanted.toNat) instant
  | .cron => False

/-- A schedule is timed on certain days exactly when it fires there at its hour and minute, at the start of the
minute. -/
theorem timedOn_iff (fires : Int → Prop) (instant : Instant) :
    schedule.TimedOn fires instant ↔
      (schedule.atTimeOfDay instant = true ∧ fires instant.day) ∧ instant.StartsMinute := by
  rw [TimedOn, onDay?_eq_some_iff]
  tauto

/-- The end takes away the firing points after it and no others. -/
theorem firingPoint_iff (instant : Instant) :
    schedule.FiringPoint instant ↔
      schedule.EndlessPoint instant ∧ schedule.finish.all (fun finish => instant ≤ finish) = true := by
  rw [← isOver_eq_false_iff]
  simp only [FiringPoint, EndlessPoint, firesAt, Bool.and_eq_true, Bool.not_eq_true']
  cases schedule.recurrence with
  | once =>
      constructor
      · rintro ⟨⟨endless, _⟩, starts⟩
        exact ⟨starts, endless⟩
      · rintro ⟨starts, endless⟩
        exact ⟨⟨endless, by simp only [starts, Option.any_some, inStartMinute_self]⟩, starts⟩
  | daily =>
      simp only [timedOn_iff, and_true]
      tauto
  | weekly =>
      cases schedule.dayOfWeek with
      | none => simp
      | some wanted =>
          simp only [Option.any_some, Option.mem_some_iff, exists_eq_left', timedOn_iff,
            Instant.weekday, Bool.and_eq_true, beq_iff_eq]
          tauto
  | monthly =>
      cases schedule.dayOfMonth with
      | none => simp
      | some wanted =>
          simp only [Option.any_some, Option.mem_some_iff, exists_eq_left', timedOn_iff,
            Instant.date, Bool.and_eq_true, beq_iff_eq, day_eq_clampDay_iff]
          tauto
  | cron => simp

/-- A schedule that fires once announces its start as long as this lies ahead. -/
theorem once_isFirstAfter (after : Instant) :
    IsFirstAfter (fun point => schedule.start = some point) after (later after schedule.start) := by
  cases found : later after schedule.start with
  | none =>
      intro point starts ahead
      rw [(later_eq_some_iff _ _ point).mpr ⟨starts, ahead⟩] at found
      cases found
  | some instant =>
      obtain ⟨starts, ahead⟩ := (later_eq_some_iff _ _ _).mp found
      refine ⟨⟨starts, ahead⟩, ?_⟩
      rintro point ⟨pointStarts, _⟩
      rw [starts] at pointStarts
      rw [Option.some.inj pointStarts]
      exact Int.le_refl _

/-- Where two days suffice and the second one lies ahead, its time needs no comparison. -/
theorem Suffices.pair_isFirstAfter {fires : Int → Prop} {after : Instant} {first second : Int}
    (searched : Suffices fires after.day [first, second]) (ahead : after.day < second) :
    IsFirstAfter (schedule.TimedOn fires) after
      ((later after (schedule.onDay? first)).or (schedule.onDay? second)) := by
  have search := searched.isFirstAfter schedule
  rw [List.findSome?_cons, List.findSome?_singleton, later_onDay? ahead] at search
  cases found : later after (schedule.onDay? first) with
  | none => simpa only [found, Option.none_or] using search
  | some instant => simpa only [found, Option.some_or] using search

theorem findSome?_filter {α β : Type} (keep : α → Bool) (search : α → Option β) (items : List α) :
    (items.filter keep).findSome? search =
      items.findSome? fun item => if keep item then search item else none := by
  induction items with
  | nil => rfl
  | cons item items inductionHypothesis =>
      by_cases kept : keep item = true
      · simp only [List.filter_cons_of_pos kept, List.findSome?_cons, kept, if_true, inductionHypothesis]
      · simp only [List.filter_cons_of_neg kept, List.findSome?_cons, kept, if_false,
          inductionHypothesis, Bool.false_eq_true]

/-- The search of a weekly schedule finds the first time on its day of the week. -/
theorem weekly_isFirstAfter (wanted : Nat) (after : Instant) :
    IsFirstAfter (schedule.TimedOn fun day => weekday day = wanted) after
      (schedule.nextWeekly? wanted after) := by
  have search := (weekly_suffices wanted after.day).isFirstAfter schedule
  rw [findSome?_filter, List.findSome?_map] at search
  simpa only [nextWeekly?, Function.comp_def, decide_eq_true_eq] using search

/-- The date of a month at which the schedule fires gives the time on its day, if there is one. -/
theorem inMonth?_eq_onDay? (number : Int) {wanted : Nat} (positive : 1 ≤ wanted) :
    schedule.inMonth? (number / 12) ((number % 12).toNat + 1) wanted =
      schedule.onDay? (dayInMonth number wanted) := by
  have bounds := placeIn_bounds number positive
  have isDay := dayOfDate?_eq_some_iff number (placeIn number wanted)
  rw [inMonth?, ← placeIn]
  cases found : dayOfDate? ⟨number / 12, (number % 12).toNat + 1, placeIn number wanted⟩ with
  | some day =>
      obtain ⟨_, place, _⟩ := (isDay day).mp found
      rw [Option.bind_some, place, dayInMonth]
  | none =>
      rw [Option.bind_none]
      symm
      -- The day cannot be represented, so no instant lies on it.
      cases timed : schedule.onDay? (dayInMonth number wanted) with
      | none => rfl
      | some instant =>
          obtain ⟨onDay, _⟩ := (onDay?_eq_some_iff _ instant).mp timed
          have inside := instant.dayRange
          rw [onDay] at inside
          rw [(isDay (dayInMonth number wanted)).mpr ⟨bounds, rfl, isRepresentable_iff.mpr inside⟩]
            at found
          cases found

/-- A monthly schedule whose day is zero finds no time in any month. -/
theorem inMonth?_eq_none (number : Int) {wanted : Nat} (notPositive : ¬ 1 ≤ wanted) :
    schedule.inMonth? (number / 12) ((number % 12).toNat + 1) wanted = none := by
  have isDay := dayOfDate?_eq_some_iff number (placeIn number wanted)
  rw [inMonth?, ← placeIn]
  cases found : dayOfDate? ⟨number / 12, (number % 12).toNat + 1, placeIn number wanted⟩ with
  | none => rfl
  | some day =>
      obtain ⟨⟨least, _⟩, _⟩ := (isDay day).mp found
      simp only [placeIn, clampDay] at least
      omega

/-- The search of a schedule finds its first firing point, regardless of its end. -/
theorem nextUnbounded?_isFirstAfter (schedule : Schedule) (after : Instant) :
    IsFirstAfter schedule.EndlessPoint after (schedule.nextUnbounded? after) := by
  unfold EndlessPoint nextUnbounded?
  cases schedule.recurrence with
  | once => exact once_isFirstAfter after
  | daily => exact (daily_suffices after.day).pair_isFirstAfter (Int.lt_succ after.day)
  | weekly =>
      cases schedule.dayOfWeek with
      | none => exact fun point found => by simp at found
      | some wanted => simpa using weekly_isFirstAfter wanted.toNat after
  | monthly =>
      cases schedule.dayOfMonth with
      | none => exact fun point found => by simp at found
      | some wanted =>
          simp only [Instant.date, ofDayNumber_year, ofDayNumber_month, nextMonth_number,
            Option.bind_some, Option.mem_some_iff, exists_eq_left']
          by_cases positive : 1 ≤ wanted.toNat
          · have ahead : after.day < dayInMonth (monthOf after.day + 1) wanted.toNat :=
              Int.lt_of_lt_of_le (lt_startOfMonth_monthOf_succ after.day) (dayInMonth_lower _ _)
            simp only [inMonth?_eq_onDay? _ positive, positive, true_and]
            exact (monthly_suffices positive after.day).pair_isFirstAfter ahead
          · simp only [inMonth?_eq_none _ positive, positive, false_and]
            exact fun point found => found.elim
  | cron => exact fun point found => found.elim

/-- The next firing of a schedule is its first firing point after the instant, and there is none only when no
firing point lies ahead. -/
theorem next?_isFirstAfter (schedule : Schedule) (after : Instant) :
    IsFirstAfter schedule.FiringPoint after (schedule.next? after) := by
  have bounded := (nextUnbounded?_isFirstAfter schedule after).filter_le schedule.finish
  have points : (fun point => schedule.EndlessPoint point ∧
      schedule.finish.all (fun finish => point ≤ finish) = true) = schedule.FiringPoint :=
    funext fun point => propext (firingPoint_iff point).symm
  rw [points] at bounded
  exact bounded

/-- The next firing is a firing point that lies ahead. -/
theorem next?_eq_some {after next : Instant} (isNext : schedule.next? after = some next) :
    schedule.FiringPoint next ∧ after < next :=
  (((next?_isFirstAfter schedule after).eq_some_iff next).mp isNext).1

/-- When a firing point lies ahead, the next firing is there and not later. -/
theorem FiringPoint.exists_next? {after point : Instant} (isPoint : schedule.FiringPoint point)
    (ahead : after < point) : ∃ next, schedule.next? after = some next ∧ next ≤ point := by
  have first := next?_isFirstAfter schedule after
  obtain ⟨next, isNext⟩ := Option.ne_none_iff_exists'.mp fun missing =>
    first.eq_none_iff.mp missing point isPoint ahead
  exact ⟨next, isNext, ((first.eq_some_iff next).mp isNext).2 ⟨isPoint, ahead⟩⟩

/-- A window opens with a firing point, unless it does so after the end of the schedule. -/
theorem OpensAt.firingPoint {opening : Instant} (opens : schedule.OpensAt opening)
    (stillOpen : schedule.isOver opening = false) : schedule.FiringPoint opening := by
  have fires := firesAt_of_inStartMinute opens (inStartMinute_self opening) stillOpen
  refine ⟨fires, ?_⟩
  unfold OpensAt at opens
  cases kind : schedule.recurrence with
  | once => simpa only [kind] using opens
  | daily | weekly | monthly =>
      simp only [kind] at opens
      exact opens.1
  | cron => simp [firesAt, kind] at fires

/-- A window has no firing point but the one with which it opens. -/
theorem FiringPoint.eq_opening {opening point : Instant} (isPoint : schedule.FiringPoint point)
    (opens : schedule.OpensAt opening) (inside : inStartMinute opening point = true) : point = opening := by
  have starts := isPoint.2
  unfold OpensAt at opens
  cases kind : schedule.recurrence with
  | once =>
      simp only [kind] at starts opens
      exact Option.some.inj (starts.symm.trans opens)
  | daily | weekly | monthly =>
      simp only [kind] at starts opens
      exact starts.eq_of_sameMinute opens.1 ((inStartMinute_iff_sameMinute opens.1).mp inside)
  | cron => simp only [kind] at starts

/-- The next firing is the least firing point after an instant, and there is none exactly when no firing
point lies after it. Neither lies after the end, and a cron schedule has neither. -/
theorem next?_exact (schedule : Schedule) (after : Instant) :
    (∀ instant, schedule.next? after = some instant ↔
      IsLeast {point | schedule.FiringPoint point ∧ after < point} instant) ∧
    (schedule.next? after = none ↔ ∀ point, schedule.FiringPoint point → ¬ after < point) ∧
    (∀ finish instant, schedule.finish = some finish →
      schedule.firesAt instant = true ∨ schedule.next? after = some instant → instant ≤ finish) ∧
    (schedule.recurrence = .cron →
      (∀ instant, schedule.firesAt instant = false) ∧ schedule.next? after = none) := by
  have first := next?_isFirstAfter schedule after
  refine ⟨first.eq_some_iff, first.eq_none_iff, ?_, ?_⟩
  · rintro finish instant ends (fires | isNext)
    · exact firesAt_le_finish fires ends
    · exact firesAt_le_finish ((first.eq_some_iff instant).mp isNext).1.1.1 ends
  · intro isCron
    refine ⟨fun instant => by simp [firesAt, isCron], ?_⟩
    rw [first.eq_none_iff]
    rintro point ⟨_, isPoint⟩
    rw [isCron] at isPoint
    exact isPoint.elim

end ContactRules.Schedule
