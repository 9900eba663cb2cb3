/-
This file proves when a rule that counts as exhausted is due all the same, and how often a caller that asks
by itself fires a rule whose schedule fires once.
-/

import ContactRules.Proofs.Runner.ExactlyOnce

namespace ContactRules

open ContactRules.Calendar
open ContactRules.Schedule

namespace Calendar.Instant

/-- This is the number of minutes from the start of 1970 to the minute of an instant. -/
def minuteNumber (instant : Instant) : Int :=
  instant.day * 1440 + (instant.second / 60 : Nat)

/-- Two instants lie in the same minute exactly when their minutes have the same number. -/
theorem sameMinute_iff_minuteNumber {left right : Instant} :
    left.sameMinute right = true ↔ left.minuteNumber = right.minuteNumber := by
  have leftSecond := left.secondBound
  have rightSecond := right.secondBound
  rw [sameMinute_iff, minuteNumber, minuteNumber]
  omega

/-- A later instant does not lie in an earlier minute. -/
theorem minuteNumber_mono {left right : Instant} (ordered : left ≤ right) :
    left.minuteNumber ≤ right.minuteNumber := by
  have leftPart := left.nanosecond_lt
  have rightPart := right.nanosecond_lt
  have leftSecond := left.secondBound
  have rightSecond := right.secondBound
  rw [le_iff, rank, rank] at ordered
  rw [minuteNumber, minuteNumber]
  omega

end Calendar.Instant

namespace Schedule

variable {opening instant : Instant}

/-- A window touches the minute in which it opens and the minute after that, even when its end cannot be
represented. -/
theorem minuteNumber_of_inStartMinute (inside : inStartMinute opening instant = true) :
    opening.minuteNumber ≤ instant.minuteNumber ∧ instant.minuteNumber ≤ opening.minuteNumber + 1 := by
  obtain ⟨notBefore, beforeEnd⟩ := inStartMinute_iff.mp inside
  refine ⟨Instant.minuteNumber_mono notBefore, ?_⟩
  have second := instant.secondBound
  have openingSecond := opening.secondBound
  simp only [Instant.minuteNumber]
  cases closes : opening.addMinutes? 1 with
  | some closing =>
      obtain ⟨seconds, _⟩ := Instant.addMinutes?_eq_some (Nat.le_refl 1) closes
      have before := beforeEnd closing closes
      have part := closing.nanosecond_lt
      simp only [Instant.lt_iff, Instant.rank] at before
      omega
  | none =>
      have range := instant.dayRange
      have openingRange := opening.dayRange
      simp only [Instant.addMinutes?, Nat.one_ne_zero, if_false] at closes
      split at closes
      · cases closes
      · omega

/-- A schedule that is over stays over. -/
theorem isOver_of_le {schedule : Schedule} {now later : Instant} (ordered : now ≤ later)
    (ended : schedule.isOver now = true) : schedule.isOver later = true := by
  cases still : schedule.isOver later with
  | true => rfl
  | false =>
      rw [isOver_mono ordered still] at ended
      cases ended

/-- A schedule that is over does not fire. -/
theorem firesAt_of_isOver {schedule : Schedule} (ended : schedule.isOver instant = true) :
    schedule.firesAt instant = false := by
  rw [firesAt, ended]
  rfl

end Schedule

namespace ScheduledRule

variable {scheduled : ScheduledRule} {now later fired : Instant}

/-- When the start of a schedule is past, the window from it is over for good. -/
theorem firesAt_of_startIsPast {schedule : Schedule} (isOnce : schedule.recurrence = .once)
    (past : startIsPast schedule now = true) (ordered : now ≤ later) : schedule.firesAt later = false := by
  unfold startIsPast at past
  rw [Bool.eq_false_iff]
  intro fires
  obtain ⟨start, opens, inside⟩ := exists_window_of_firesAt fires
  simp only [(opensAt_once_iff isOnce).mp opens, Option.all_some, Option.any_eq_true, decide_eq_true_eq] at past
  obtain ⟨closing, closes, reached⟩ := past
  have before := (inStartMinute_iff.mp inside).2 closing closes
  rw [Instant.le_iff] at reached ordered
  rw [Instant.lt_iff] at before
  omega

/-- The schedule of an exhausted rule fires no more, unless it is one that fires once and the rule has been
fired: then nobody has asked whether its window is over. -/
theorem firesAt_of_isExhausted (ordered : now ≤ later) (exhausted : scheduled.isExhausted now = true)
    (unfired : scheduled.schedule.recurrence = .once → scheduled.last = none) :
    scheduled.schedule.firesAt later = false := by
  unfold isExhausted at exhausted
  cases kind : scheduled.schedule.recurrence with
  | once =>
      simp only [kind, unfired kind, Option.isSome_none, Bool.false_or, Bool.or_eq_true] at exhausted
      rcases exhausted with ended | past
      · exact firesAt_of_isOver (isOver_of_le ordered ended)
      · exact firesAt_of_startIsPast kind past ordered
  | daily | weekly | monthly =>
      simp only [kind] at exhausted
      exact firesAt_of_isOver (isOver_of_le ordered exhausted)
  | cron => simp only [kind, Bool.false_eq_true] at exhausted

/-- An exhausted rule is due all the same in one case: its schedule fires once, and the rule was fired in
another minute of a window that is still open. -/
theorem isDue_of_isExhausted_iff (ordered : now ≤ later) (exhausted : scheduled.isExhausted now = true) :
    scheduled.isDue later = true ↔
      scheduled.schedule.recurrence = .once ∧ scheduled.rule.state.enabled = true ∧
        scheduled.schedule.firesAt later = true ∧
          ∃ last, scheduled.last = some last ∧ last.sameMinute later = false := by
  rw [isDue_iff]
  constructor
  · rintro ⟨enabled, fires, apart⟩
    have firedOnce : scheduled.schedule.recurrence = .once ∧ scheduled.last ≠ none := by
      by_contra otherwise
      have silent := firesAt_of_isExhausted ordered exhausted fun isOnce =>
        Classical.not_not.mp fun wasFired => otherwise ⟨isOnce, wasFired⟩
      rw [fires] at silent
      cases silent
    obtain ⟨last, isLast⟩ := Option.ne_none_iff_exists'.mp firedOnce.2
    exact ⟨firedOnce.1, enabled, fires, last, isLast, apart last isLast⟩
  · rintro ⟨_, enabled, fires, last, isLast, apart⟩
    refine ⟨enabled, fires, fun other isOther => ?_⟩
    rw [isLast] at isOther
    exact Option.some.inj isOther ▸ apart

/-- A rule whose schedule fires once counts as exhausted when it has been fired, whatever the time. -/
theorem isExhausted_markFired (isOnce : scheduled.schedule.recurrence = .once) (fired now : Instant) :
    (scheduled.markFired fired).isExhausted now = true := by
  simp [isExhausted, markFired, isOnce]

/-- A caller asks at some instants whether the rule is due, and fires it when it is. These are the instants
at which the caller does so. -/
def polledFirings (scheduled : ScheduledRule) : List Instant → List Instant
  | [] => []
  | now :: later =>
      if scheduled.isDue now then now :: polledFirings (scheduled.markFired now) later
      else polledFirings scheduled later

/-- The caller fires the rule at instants of its own, at which the schedule fires. -/
theorem mem_polledFirings {instants : List Instant} (isFiring : fired ∈ scheduled.polledFirings instants) :
    fired ∈ instants ∧ scheduled.schedule.firesAt fired = true := by
  induction instants generalizing scheduled with
  | nil => cases isFiring
  | cons now later inductionHypothesis =>
      unfold polledFirings at isFiring
      split at isFiring
      · rename_i due
        rcases List.mem_cons.mp isFiring with rfl | below
        · exact ⟨List.mem_cons_self, (isDue_iff.mp due).2.1⟩
        · obtain ⟨member, fires⟩ := inductionHypothesis below
          exact ⟨List.mem_cons_of_mem _ member, fires⟩
      · obtain ⟨member, fires⟩ := inductionHypothesis isFiring
        exact ⟨List.mem_cons_of_mem _ member, fires⟩

/-- The first instant at which the caller fires the rule again lies in a later minute than the last one. -/
theorem minuteNumber_lt_of_polled {last : Instant} {instants : List Instant}
    (wasFired : scheduled.last = some last) (ordered : (last :: instants).Pairwise (· ≤ ·))
    (isFiring : fired ∈ scheduled.polledFirings instants) : last.minuteNumber < fired.minuteNumber := by
  induction instants generalizing scheduled last with
  | nil => cases isFiring
  | cons now later inductionHypothesis =>
      obtain ⟨fromLast, tail⟩ := List.pairwise_cons.mp ordered
      unfold polledFirings at isFiring
      split at isFiring
      · rename_i due
        have forward := Instant.minuteNumber_mono (fromLast now List.mem_cons_self)
        have apart := (isDue_iff.mp due).2.2 last wasFired
        rw [Bool.eq_false_iff, Ne, Instant.sameMinute_iff_minuteNumber] at apart
        rcases List.mem_cons.mp isFiring with rfl | below
        · omega
        · have marked : (scheduled.markFired now).last = some now := rfl
          have further := inductionHypothesis marked tail below
          omega
      · exact inductionHypothesis wasFired (ordered.sublist (by simp)) isFiring

/-- The caller fires the rule in a later minute each time. -/
theorem polledFirings_minutes (scheduled : ScheduledRule) {instants : List Instant}
    (ordered : instants.Pairwise (· ≤ ·)) :
    (scheduled.polledFirings instants).Pairwise fun earlier later =>
      earlier.minuteNumber < later.minuteNumber := by
  induction instants generalizing scheduled with
  | nil => exact .nil
  | cons now later inductionHypothesis =>
      have below := (List.pairwise_cons.mp ordered).2
      unfold polledFirings
      split
      · refine .cons (fun fired isFiring => ?_) (inductionHypothesis _ below)
        have marked : (scheduled.markFired now).last = some now := rfl
        exact minuteNumber_lt_of_polled marked ordered isFiring
      · exact inductionHypothesis _ below

/-- Instants in later and later minutes of one window are two at most, and one at most when the window is a
minute of the clock. -/
theorem length_le_of_inStartMinute {opening : Instant} {firings : List Instant}
    (rising : firings.Pairwise fun earlier later => earlier.minuteNumber < later.minuteNumber)
    (inside : ∀ fired ∈ firings, inStartMinute opening fired = true) :
    firings.length ≤ 2 ∧ (opening.StartsMinute → firings.length ≤ 1) := by
  match firings with
  | [] => exact ⟨by decide, fun _ => by decide⟩
  | [_] => exact ⟨Nat.le_succ 1, fun _ => Nat.le_refl 1⟩
  | first :: second :: rest =>
      simp only [List.pairwise_cons, List.forall_mem_cons] at rising inside
      refine ⟨?_, fun starts => ?_⟩
      · cases rest with
        | nil => exact Nat.le_refl 2
        | cons third rest =>
            have lower := (minuteNumber_of_inStartMinute inside.1).1
            have upper := (minuteNumber_of_inStartMinute (inside.2.2 third List.mem_cons_self)).2
            have firstStep := rising.1.1
            have secondStep := rising.2.1 third List.mem_cons_self
            omega
      · have same := Instant.sameMinute_of_common
          ((inStartMinute_iff_sameMinute starts).mp inside.1)
          ((inStartMinute_iff_sameMinute starts).mp inside.2.1)
        rw [Instant.sameMinute_iff_minuteNumber] at same
        have step := rising.1.1
        omega

/-- A rule that is exhausted is not due from then on, with one exception: a rule whose schedule fires once
and that was fired in one minute of its window is due again in the other one. A caller that fires such
a rule whenever it is due does so twice at most, in different minutes, and once at most when the start begins
a minute. -/
theorem exhausted_rule_is_not_due (scheduled : ScheduledRule) :
    (∀ now later, now ≤ later → scheduled.isExhausted now = true →
      (scheduled.isDue later = false ↔
        ¬ (scheduled.schedule.recurrence = .once ∧ scheduled.rule.state.enabled = true ∧
          scheduled.schedule.firesAt later = true ∧
            ∃ last, scheduled.last = some last ∧ last.sameMinute later = false))) ∧
    (scheduled.schedule.recurrence = .once →
      (∀ fired later, fired ≤ later →
        ((scheduled.markFired fired).isDue later = true ↔
          scheduled.rule.state.enabled = true ∧ scheduled.schedule.firesAt later = true ∧
            fired.sameMinute later = false)) ∧
      ∀ instants, instants.Pairwise (· ≤ ·) →
        (scheduled.polledFirings instants).length ≤ 2 ∧
          ((scheduled.polledFirings instants).Pairwise fun earlier later =>
            earlier.minuteNumber < later.minuteNumber) ∧
          ∀ start, scheduled.schedule.start = some start → start.StartsMinute →
            (scheduled.polledFirings instants).length ≤ 1) := by
  refine ⟨fun now later ordered exhausted => ?_, fun isOnce => ⟨fun fired later ordered => ?_, ?_⟩⟩
  · rw [← isDue_of_isExhausted_iff ordered exhausted, Bool.not_eq_true]
  · rw [isDue_of_isExhausted_iff ordered (isExhausted_markFired isOnce fired fired)]
    simp only [markFired, isOnce, true_and, Option.some.injEq, exists_eq_left']
  · intro instants ordered
    have rising := scheduled.polledFirings_minutes ordered
    cases starts : scheduled.schedule.start with
    | none =>
        have silent : scheduled.polledFirings instants = [] := by
          apply List.eq_nil_iff_forall_not_mem.mpr
          intro fired isFiring
          have fires := (mem_polledFirings isFiring).2
          simp [firesAt, isOnce, starts] at fires
        rw [silent]
        exact ⟨by decide, .nil, fun _ _ _ => by decide⟩
    | some start =>
        have inside : ∀ fired ∈ scheduled.polledFirings instants, inStartMinute start fired = true := by
          intro fired isFiring
          have fires := (mem_polledFirings isFiring).2
          simp only [firesAt, isOnce, starts, Option.any_some, Bool.and_eq_true] at fires
          exact fires.2
        obtain ⟨twice, onceOnly⟩ := length_le_of_inStartMinute rising inside
        refine ⟨twice, rising, ?_⟩
        rintro other isStart begins
        obtain rfl := Option.some.inj isStart
        exact onceOnly begins

/-- This rule fires once, in a window that begins in the middle of a minute and ends in the next one. -/
def straddlingRule : ScheduledRule :=
  ⟨Runner.idleRule, Schedule.once (Runner.inAutumn 43230 0), none, some (Runner.inAutumn 43230 0)⟩

/-- The rule is fired in the first minute of its window. It is exhausted at once, but in the second minute of
the window it is due again, and a caller that asks at both instants fires it twice. -/
theorem straddlingRule_due_when_exhausted :
    (ScheduledRule.create Runner.idleRule straddlingRule.schedule (Runner.inAutumn 28800 0)).toOption =
        some straddlingRule ∧
      straddlingRule.isDue (Runner.inAutumn 43245 0) = true ∧
      (straddlingRule.markFired (Runner.inAutumn 43245 0)).isExhausted (Runner.inAutumn 43245 0) = true ∧
      Runner.inAutumn 43245 0 ≤ Runner.inAutumn 43270 0 ∧
      (straddlingRule.markFired (Runner.inAutumn 43245 0)).isDue (Runner.inAutumn 43270 0) = true ∧
      straddlingRule.polledFirings [Runner.inAutumn 43245 0, Runner.inAutumn 43270 0] =
        [Runner.inAutumn 43245 0, Runner.inAutumn 43270 0] :=
  ⟨rfl, by decide, rfl, by decide, by decide, by decide⟩

/-- At the end of its window the rule is due no more, and however often it is polled it fires twice at most. -/
theorem straddlingRule_rests :
    (straddlingRule.markFired (Runner.inAutumn 43245 0)).isDue (Runner.inAutumn 43290 0) = false ∧
      (straddlingRule.polledFirings [Runner.inAutumn 43245 0, Runner.inAutumn 43270 0,
        Runner.inAutumn 43280 0]).length ≤ 2 := by
  refine ⟨?_, ?_⟩
  · refine ((exhausted_rule_is_not_due (straddlingRule.markFired (Runner.inAutumn 43245 0))).1
      (Runner.inAutumn 43245 0) _ (by decide) rfl).mpr ?_
    rintro ⟨_, _, fires, _⟩
    exact absurd fires (by decide)
  · exact (((exhausted_rule_is_not_due straddlingRule).2 rfl).2 _ (by decide)).1

end ScheduledRule

end ContactRules
