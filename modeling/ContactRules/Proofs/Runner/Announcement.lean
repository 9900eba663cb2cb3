/-
This file proves when the next firing that a scheduled rule announces has come by the time the rule is due.
-/

import ContactRules.Proofs.Runner.Reachable
import ContactRules.Proofs.Schedule.NextFiring

namespace ContactRules

open ContactRules.Calendar
open ContactRules.Schedule

/-- By an instant in a window, the next firing after another instant has come exactly when the window opened
after that one. -/
theorem Schedule.next?_has_come_iff {schedule : Schedule} {opening now : Instant}
    (opens : schedule.OpensAt opening) (inside : inStartMinute opening now = true)
    (stillOpen : schedule.isOver now = false) (counted : Instant) :
    (∃ next, schedule.next? counted = some next ∧ next ≤ now) ↔ counted < opening := by
  obtain ⟨notBefore, beforeEnd⟩ := inStartMinute_iff.mp inside
  constructor
  · rintro ⟨next, isNext, hasCome⟩
    obtain ⟨isPoint, ahead⟩ := next?_eq_some isNext
    by_contra notAhead
    have within : inStartMinute opening next = true := by
      refine inStartMinute_iff.mpr ⟨?_, fun closing closes => ?_⟩
      · simp only [Instant.lt_iff, Instant.le_iff] at *
        omega
      · have before := beforeEnd closing closes
        simp only [Instant.lt_iff, Instant.le_iff] at *
        omega
    rw [isPoint.eq_opening opens within] at ahead
    exact notAhead ahead
  · intro ahead
    obtain ⟨next, isNext, notAfter⟩ := (opens.firingPoint (isOver_mono notBefore stillOpen)).exists_next? ahead
    exact ⟨next, isNext, Int.le_trans notAfter notBefore⟩

namespace ScheduledRule

variable {scheduled : ScheduledRule} {built now opening : Instant}

/-- A rule is built for an instant and polled from then on by a caller whose clock never goes back. The caller
may fire the rule when it is due, but need not do so. -/
inductive PolledSince (built : Instant) : ScheduledRule → Instant → Prop
  | built {scheduled : ScheduledRule} : scheduled.BuiltAt built → PolledSince built scheduled built
  | polled {scheduled : ScheduledRule} {before now : Instant} :
      before ≤ now → PolledSince built scheduled before → PolledSince built scheduled now
  | fired {scheduled : ScheduledRule} {now : Instant} :
      scheduled.isDue now = true → PolledSince built scheduled now →
      PolledSince built (scheduled.markFired now) now

/-- The next firing is counted from the instant for which the rule was built, or from the last firing. It is
not told again when the schedule fires once. -/
structure Announces (scheduled : ScheduledRule) (built now : Instant) : Prop where
  notBefore : built ≤ now
  unfired : scheduled.last = none → scheduled.next = scheduled.schedule.next? built
  refreshed : ∀ last, scheduled.last = some last → scheduled.schedule.recurrence ≠ .once →
    scheduled.next = scheduled.schedule.next? last
  between : ∀ last, scheduled.last = some last →
    built ≤ last ∧ last ≤ now ∧ scheduled.schedule.firesAt last = true

/-- A rule that has just been built announces the next firing after the instant for which it was built. -/
theorem BuiltAt.announces (isBuilt : scheduled.BuiltAt built) : scheduled.Announces built built := by
  obtain ⟨_, unfired, next⟩ := isBuilt.fresh
  exact ⟨Int.le_refl _, fun _ => next, by simp [unfired], by simp [unfired]⟩

/-- Time that passes does not change what a rule announces. -/
theorem Announces.polled {before : Instant} (announces : scheduled.Announces built before) (later : before ≤ now) :
    scheduled.Announces built now where
  notBefore := Int.le_trans announces.notBefore later
  unfired := announces.unfired
  refreshed := announces.refreshed
  between last wasFired := by
    obtain ⟨afterBuilt, beforePoll, fires⟩ := announces.between last wasFired
    exact ⟨afterBuilt, Int.le_trans beforePoll later, fires⟩

/-- A rule that is fired when it is due announces the next firing after this one, unless it fires once. -/
theorem Announces.fired (announces : scheduled.Announces built now) (due : scheduled.isDue now = true) :
    (scheduled.markFired now).Announces built now where
  notBefore := announces.notBefore
  unfired missing := nomatch missing
  refreshed last wasFired again := by
    obtain rfl := Option.some.inj wasFired
    exact if_neg again
  between last wasFired := by
    obtain rfl := Option.some.inj wasFired
    exact ⟨announces.notBefore, Int.le_refl _, (isDue_iff.mp due).2.1⟩

/-- However the caller polls and fires, the announcement is up to date. -/
theorem PolledSince.announces (polled : scheduled.PolledSince built now) : scheduled.Announces built now := by
  induction polled with
  | built isBuilt => exact isBuilt.announces
  | polled later _ inductionHypothesis => exact inductionHypothesis.polled later
  | fired due _ inductionHypothesis => exact inductionHypothesis.fired due

/-- A rule that was fired and is due again was fired before the window opened. -/
theorem last_lt_opening {last : Instant} (opens : scheduled.schedule.OpensAt opening)
    (again : scheduled.schedule.recurrence ≠ .once) (inside : inStartMinute opening now = true)
    (notAfter : last ≤ now) (apart : last.sameMinute now = false) : last < opening := by
  have starts := ((opensAt_iff again).mp opens).1
  rw [inStartMinute_iff_sameMinute starts] at inside
  by_contra notBefore
  have reached : opening ≤ last := Int.not_lt.mp notBefore
  have same := Instant.sameMinute_of_common (Instant.sameMinute_of_between reached notAfter inside) inside
  rw [apart] at same
  cases same

/-- A rule that fires once, from the start of a minute, has not been fired when it is due. -/
theorem Announces.unfired_of_isDue (announces : scheduled.Announces built now)
    (due : scheduled.isDue now = true) (isOnce : scheduled.schedule.recurrence = .once) {start : Instant}
    (isStart : scheduled.schedule.start = some start) (begins : start.StartsMinute) : scheduled.last = none := by
  obtain ⟨_, fires, apart⟩ := isDue_iff.mp due
  have inMinute := (inStartMinute_iff_sameMinute begins).mp (inStartMinute_of_firesAt isOnce isStart fires)
  cases wasFired : scheduled.last with
  | none => rfl
  | some last =>
      have firesThen := (announces.between last wasFired).2.2
      have thenInMinute :=
        (inStartMinute_iff_sameMinute begins).mp (inStartMinute_of_firesAt isOnce isStart firesThen)
      have same := Instant.sameMinute_of_common thenInMinute inMinute
      rw [apart last wasFired] at same
      cases same

/-- A rule that is due is so in a window of its schedule. The next firing that it announces has come by then
exactly when the window opened after the instant for which the rule was built. This leaves open what is announced
by a rule that fires once, from within a minute, and has been fired. -/
theorem announced_firing_has_come (polled : scheduled.PolledSince built now) (due : scheduled.isDue now = true)
    (single : scheduled.schedule.recurrence = .once → scheduled.last = none ∨
      ∃ start, scheduled.schedule.start = some start ∧ start.StartsMinute) :
    ∃ opening, scheduled.schedule.OpensAt opening ∧ inStartMinute opening now = true ∧
      ((∃ next, scheduled.next = some next ∧ next ≤ now) ↔ built < opening) := by
  have announces := polled.announces
  obtain ⟨_, fires, apart⟩ := isDue_iff.mp due
  obtain ⟨opening, opens, inside⟩ := exists_window_of_firesAt fires
  have hasCome := next?_has_come_iff opens inside (isOver_of_firesAt fires)
  refine ⟨opening, opens, inside, ?_⟩
  cases wasFired : scheduled.last with
  | none => rw [announces.unfired wasFired, hasCome]
  | some last =>
      have again : scheduled.schedule.recurrence ≠ .once := fun isOnce => by
        rcases single isOnce with unfired | ⟨start, isStart, begins⟩
        · exact nomatch wasFired.symm.trans unfired
        · exact nomatch wasFired.symm.trans (announces.unfired_of_isDue due isOnce isStart begins)
      obtain ⟨afterBuilt, notAfter, _⟩ := announces.between last wasFired
      have before := last_lt_opening opens again inside notAfter (apart last wasFired)
      have builtBefore : built < opening := Int.lt_of_le_of_lt afterBuilt before
      rw [announces.refreshed last wasFired again, hasCome]
      exact ⟨fun _ => builtBefore, fun _ => before⟩

/-- The daily rule was built before its first window and fired in it. In the window of the next day it is due
again, and what it announced then has come. -/
theorem dailyRule_has_announced :
    let fired := Runner.dailyRule.markFired (Runner.inAutumn 34259 0)
    let tomorrow : Instant := ⟨20001, 34200, 0, by decide, by decide, .inl (by decide)⟩
    fired.PolledSince (Runner.inAutumn 29700 0) tomorrow ∧ fired.isDue tomorrow = true ∧
      ∃ next, fired.next = some next ∧ next ≤ tomorrow := by
  intro fired tomorrow
  have created : create Runner.idleRule (.daily 9 30) (Runner.inAutumn 29700 0) = .ok Runner.dailyRule := rfl
  have polled : fired.PolledSince (Runner.inAutumn 29700 0) tomorrow :=
    .polled (by decide) (.fired (by decide) (.polled (by decide) (.built (.created created))))
  refine ⟨polled, by decide, ?_⟩
  obtain ⟨opening, opens, inside, hasCome⟩ := announced_firing_has_come polled (by decide) nofun
  have starts := ((opensAt_iff (by decide)).mp opens).1
  have onDay := (Instant.sameMinute_iff.mp ((inStartMinute_iff_sameMinute starts).mp inside)).1
  exact hasCome.mpr (Instant.lt_of_day_lt (onDay ▸ by decide))

/-- This daily rule is built ten seconds after the start of a minute in which it fires. -/
def lateRule : ScheduledRule :=
  ⟨Runner.idleRule, .daily 9 30, none, (Schedule.daily 9 30).next? (Runner.inAutumn 34210 0)⟩

/-- The rule is due in the minute in which it was built, but it announces the same minute of the next day. -/
theorem lateRule_due_before_announced :
    ScheduledRule.create Runner.idleRule (.daily 9 30) (Runner.inAutumn 34210 0) = .ok lateRule ∧
      lateRule.PolledSince (Runner.inAutumn 34210 0) (Runner.inAutumn 34220 0) ∧
      lateRule.isDue (Runner.inAutumn 34220 0) = true ∧
      ∃ next, lateRule.next = some next ∧ Runner.inAutumn 34220 0 < next ∧ next.day = 20001 := by
  have created : ScheduledRule.create Runner.idleRule (.daily 9 30) (Runner.inAutumn 34210 0) = .ok lateRule := rfl
  refine ⟨created, .polled (by decide) (.built (.created created)), by decide, ?_⟩
  refine ⟨⟨20001, 34200, 0, by decide, by decide, .inl (by decide)⟩, by decide, by decide, rfl⟩

end ScheduledRule

end ContactRules
