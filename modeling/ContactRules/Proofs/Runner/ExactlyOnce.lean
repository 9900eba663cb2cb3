/-
This file proves that a runner fires a scheduled rule once in each window of its schedule.
-/

import ContactRules.Proofs.Runner.History
import ContactRules.Proofs.Schedule.Window
import Mathlib.Data.List.Chain

namespace ContactRules

open ContactRules.Calendar
open ContactRules.Schedule

namespace ScheduledRule

variable {scheduled next : ScheduledRule} {now opening closing instant : Instant}

/-- A tick changes when a rule was fired, and that only if the rule is due. -/
theorem markDue_eq (now : Instant) (scheduled : ScheduledRule) :
    (Runner.markDue now scheduled).rule = scheduled.rule ∧
      (Runner.markDue now scheduled).schedule = scheduled.schedule ∧
      (Runner.markDue now scheduled).last = if scheduled.isDue now then some now else scheduled.last := by
  unfold Runner.markDue
  split <;> exact ⟨rfl, rfl, rfl⟩

/-- A rule that is left by a tick is the marked one, and it is left unless it is exhausted by then. -/
theorem afterTick_eq_some_iff :
    scheduled.afterTick now = some next ↔
      Runner.markDue now scheduled = next ∧ next.isExhausted now = false := by
  rw [afterTick, Option.filter_eq_some_iff]
  constructor
  · rintro ⟨same, kept⟩
    exact ⟨Option.some.inj same, by simpa using kept⟩
  · rintro ⟨rfl, kept⟩
    exact ⟨rfl, by simpa using kept⟩

/-- A rule is fired at the first tick when it is due then, and at a later one when what that tick leaves of it
is. -/
theorem mem_firings_cons {later : List Instant} :
    instant ∈ firings (some scheduled) (now :: later) ↔
      (scheduled.isDue now = true ∧ instant = now) ∨
        ∃ next, scheduled.afterTick now = some next ∧ instant ∈ firings (some next) later := by
  rw [firings, List.mem_append]
  apply or_congr
  · split
    · rename_i due
      simp only [due, true_and, List.mem_singleton]
    · rename_i notDue
      simp only [notDue, false_and, List.not_mem_nil, Bool.false_eq_true]
  · cases scheduled.afterTick now with
    | none => simp only [firings_none, List.not_mem_nil, reduceCtorEq, false_and, exists_false]
    | some next => simp only [Option.some.injEq, exists_eq_left']

/-- A firing is a tick at which the rule is held, with the schedule that it had before, and due. -/
theorem exists_due_of_mem_firings {instants : List Instant}
    (fired : instant ∈ firings (some scheduled) instants) :
    instant ∈ instants ∧
      ∃ held : ScheduledRule, held.schedule = scheduled.schedule ∧ held.isDue instant = true := by
  induction instants generalizing scheduled with
  | nil => cases fired
  | cons now later inductionHypothesis =>
      rcases mem_firings_cons.mp fired with ⟨due, rfl⟩ | ⟨next, remains, below⟩
      · exact ⟨List.mem_cons_self, scheduled, rfl, due⟩
      · obtain ⟨member, held, same, due⟩ := inductionHypothesis below
        obtain ⟨rfl, _⟩ := afterTick_eq_some_iff.mp remains
        exact ⟨List.mem_cons_of_mem _ member, held, same.trans (markDue_eq now scheduled).2.1, due⟩

/-- A rule is due when it is enabled, its schedule fires, and it has not been fired in the same minute. -/
theorem isDue_iff :
    scheduled.isDue now = true ↔
      scheduled.rule.state.enabled = true ∧ scheduled.schedule.firesAt now = true ∧
        ∀ last, scheduled.last = some last → last.sameMinute now = false := by
  simp only [isDue, firedInMinuteOf, Bool.and_eq_true, Bool.not_eq_true', and_assoc]
  cases scheduled.last <;> simp

/-- A rule is not due again in the minute in which it was fired. -/
theorem firings_leave_minute {last : Instant} {instants : List Instant}
    (fired : scheduled.last = some last) (ordered : (last :: instants).Pairwise (· ≤ ·))
    (isFiring : instant ∈ firings (some scheduled) instants) : last.sameMinute instant = false := by
  induction instants generalizing scheduled last with
  | nil => cases isFiring
  | cons now later inductionHypothesis =>
      obtain ⟨fromLast, tail⟩ := List.pairwise_cons.mp ordered
      rcases mem_firings_cons.mp isFiring with ⟨due, rfl⟩ | ⟨next, remains, below⟩
      · exact (isDue_iff.mp due).2.2 last fired
      · obtain ⟨rfl, _⟩ := afterTick_eq_some_iff.mp remains
        have noted := (markDue_eq now scheduled).2.2
        by_cases due : scheduled.isDue now = true
        · -- The minute of the last firing was over at this one, and stays over.
          have apart := (isDue_iff.mp due).2.2 last fired
          have reached := (List.pairwise_cons.mp tail).1 instant (exists_due_of_mem_firings below).1
          have between := Instant.sameMinute_of_between (fromLast now List.mem_cons_self) reached
          rw [apart] at between
          exact Bool.eq_false_iff.mpr fun same => Bool.noConfusion (between same)
        · rw [if_neg due, fired] at noted
          exact inductionHypothesis noted (ordered.sublist (by simp)) below

/-- A rule that fires once is dropped when it has been fired. -/
theorem afterTick_once (isOnce : scheduled.schedule.recurrence = .once)
    (due : scheduled.isDue now = true) : scheduled.afterTick now = none := by
  obtain ⟨_, sameSchedule, noted⟩ := markDue_eq now scheduled
  rw [if_pos due] at noted
  cases remains : scheduled.afterTick now with
  | none => rfl
  | some next =>
      obtain ⟨rfl, kept⟩ := afterTick_eq_some_iff.mp remains
      simp [isExhausted, sameSchedule, isOnce, noted] at kept

/-- A rule that is due in a window is not due again in it: it is gone or waits for another minute. -/
theorem firings_leave_window {later : List Instant} (opens : scheduled.schedule.OpensAt opening)
    (ordered : (now :: later).Pairwise (· ≤ ·)) (due : scheduled.isDue now = true)
    (inside : inStartMinute opening now = true)
    (isFiring : instant ∈ firings (scheduled.afterTick now) later) : inStartMinute opening instant = false := by
  by_cases isOnce : scheduled.schedule.recurrence = .once
  · rw [afterTick_once isOnce due, firings_none] at isFiring
    cases isFiring
  · have starts := ((opensAt_iff isOnce).mp opens).1
    cases remains : scheduled.afterTick now with
    | none =>
        rw [remains, firings_none] at isFiring
        cases isFiring
    | some next =>
        rw [remains] at isFiring
        obtain ⟨rfl, _⟩ := afterTick_eq_some_iff.mp remains
        have noted := (markDue_eq now scheduled).2.2
        rw [if_pos due] at noted
        have apart := firings_leave_minute noted ordered isFiring
        rw [Bool.eq_false_iff] at apart ⊢
        intro again
        rw [inStartMinute_iff_sameMinute starts] at inside again
        exact apart (Instant.sameMinute_of_common inside again)

/-- In each window of its schedule a rule is due at most at one tick. -/
theorem countP_firings_le_one {instants : List Instant} (opens : scheduled.schedule.OpensAt opening)
    (ordered : instants.Pairwise (· ≤ ·)) :
    (firings (some scheduled) instants).countP (inStartMinute opening) ≤ 1 := by
  induction instants generalizing scheduled with
  | nil => exact Nat.zero_le 1
  | cons now later inductionHypothesis =>
      have below : (firings (scheduled.afterTick now) later).countP (inStartMinute opening) ≤ 1 := by
        cases remains : scheduled.afterTick now with
        | none => simp [firings_none]
        | some next =>
            obtain ⟨rfl, _⟩ := afterTick_eq_some_iff.mp remains
            have sameSchedule := (markDue_eq now scheduled).2.1
            exact inductionHypothesis (sameSchedule ▸ opens) (List.pairwise_cons.mp ordered).2
      rw [firings, List.countP_append]
      by_cases here : scheduled.isDue now = true ∧ inStartMinute opening now = true
      · obtain ⟨due, inside⟩ := here
        have nothing : (firings (scheduled.afterTick now) later).countP (inStartMinute opening) = 0 := by
          apply List.countP_eq_zero.mpr
          intro instant isFiring
          exact Bool.eq_false_iff.mp (firings_leave_window opens ordered due inside isFiring)
        rw [if_pos due, nothing]
        simp [inside]
      · have notHere : (if scheduled.isDue now then [now] else []).countP (inStartMinute opening) = 0 := by
          apply List.countP_eq_zero.mpr
          intro instant member inside
          split at member
          · rename_i due
            exact here ⟨due, List.mem_singleton.mp member ▸ inside⟩
          · cases member
        omega

/-- The rule waits for a window that is still to come and does not end after the schedule. -/
structure Awaits (scheduled : ScheduledRule) (opening closing : Instant) : Prop where
  enabled : scheduled.rule.state.enabled = true
  opens : scheduled.schedule.OpensAt opening
  closes : opening.addMinutes? 1 = some closing
  endsLater : ∀ finish, scheduled.schedule.finish = some finish → closing ≤ finish
  firedBefore : ∀ last, scheduled.last = some last → last < opening
  onceUnfired : scheduled.schedule.recurrence = .once → scheduled.last = none

/-- The schedule of a rule that waits for a window is not over before the window closes. -/
theorem Awaits.notOver (awaits : scheduled.Awaits opening closing) (before : now < closing) :
    scheduled.schedule.isOver now = false := by
  apply isOver_eq_false_iff.mpr
  cases ends : scheduled.schedule.finish with
  | none => rfl
  | some finish =>
      have notAfter := awaits.endsLater finish ends
      simp only [Option.all_some, decide_eq_true_eq, Instant.lt_iff, Instant.le_iff] at *
      omega

/-- The first tick in the window finds the rule due. -/
theorem Awaits.isDue (awaits : scheduled.Awaits opening closing)
    (inside : inStartMinute opening now = true) : scheduled.isDue now = true := by
  obtain ⟨notBefore, beforeEnd⟩ := inStartMinute_iff.mp inside
  have stillOpen := awaits.notOver (beforeEnd closing awaits.closes)
  refine isDue_iff.mpr ⟨awaits.enabled, firesAt_of_inStartMinute awaits.opens inside stillOpen, ?_⟩
  intro last fired
  by_cases isOnce : scheduled.schedule.recurrence = .once
  · rw [awaits.onceUnfired isOnce] at fired
    cases fired
  · have starts := ((opensAt_iff isOnce).mp awaits.opens).1
    have earlier := awaits.firedBefore last fired
    rw [inStartMinute_iff_sameMinute starts] at inside
    cases same : last.sameMinute now with
    | false => rfl
    | true =>
        have part := last.nanosecond_lt
        obtain ⟨whole, noPart⟩ := starts
        simp only [Instant.sameMinute_iff, Instant.lt_iff, Instant.rank] at *
        omega

/-- A tick before the window leaves the rule waiting, whether the rule is due at it or not. -/
theorem Awaits.afterTick (awaits : scheduled.Awaits opening closing) (before : now < opening) :
    ∃ next, scheduled.afterTick now = some next ∧ next.Awaits opening closing := by
  obtain ⟨sameRule, sameSchedule, noted⟩ := markDue_eq now scheduled
  have beforeEnd : now < closing := by
    have positive := Instant.lt_addMinutes? (Nat.le_refl 1) awaits.closes
    simp only [Instant.lt_iff] at *
    omega
  have notOnce (isOnce : scheduled.schedule.recurrence = .once) : ¬ scheduled.isDue now = true := by
    intro due
    obtain ⟨start, opens, inside⟩ := exists_window_of_firesAt (isDue_iff.mp due).2.1
    rw [opensAt_once_iff isOnce] at opens
    have same := (opensAt_once_iff isOnce).mp awaits.opens
    rw [opens] at same
    obtain ⟨notBefore, _⟩ := inStartMinute_iff.mp inside
    rw [Option.some.inj same, Instant.le_iff] at notBefore
    rw [Instant.lt_iff] at before
    omega
  have held : (Runner.markDue now scheduled).Awaits opening closing := by
    refine ⟨sameRule ▸ awaits.enabled, sameSchedule ▸ awaits.opens, awaits.closes,
      sameSchedule ▸ awaits.endsLater, ?_, ?_⟩
    · intro last fired
      rw [noted] at fired
      split at fired
      · exact Option.some.inj fired ▸ before
      · exact awaits.firedBefore last fired
    · intro isOnce
      rw [sameSchedule] at isOnce
      rw [noted, if_neg (notOnce isOnce)]
      exact awaits.onceUnfired isOnce
  refine ⟨_, afterTick_eq_some_iff.mpr ⟨rfl, ?_⟩, held⟩
  have notOver := held.notOver beforeEnd
  unfold isExhausted
  cases kind : (Runner.markDue now scheduled).schedule.recurrence with
  | once =>
      have starts := (opensAt_once_iff kind).mp held.opens
      have notPast : ¬ closing ≤ now := by
        simp only [Instant.lt_iff, Instant.le_iff] at *
        omega
      simp [held.onceUnfired kind, notOver, startIsPast, starts, awaits.closes, notPast]
  | daily | weekly | monthly => exact notOver
  | cron => rfl

/-- Ticks that are close enough do not leave out a window, unless it opens inside a leap second. -/
theorem Awaits.exists_firing {later : List Instant} {last : Instant}
    (awaits : scheduled.Awaits opening closing) (whole : opening.nanosecond < 1000000000)
    (near : (now :: later).IsChain Instant.WithinMinute) (before : now < opening)
    (isLast : (now :: later).getLast? = some last) (after : closing ≤ last) :
    ∃ instant ∈ firings (some scheduled) (now :: later), inStartMinute opening instant = true := by
  have positive := Instant.lt_addMinutes? (Nat.le_refl 1) awaits.closes
  obtain ⟨next, remains, nextAwaits⟩ := awaits.afterTick before
  induction later generalizing scheduled now next with
  | nil =>
      obtain rfl : now = last := by simpa using isLast
      simp only [Instant.lt_iff, Instant.le_iff] at *
      omega
  | cons second later inductionHypothesis =>
      obtain ⟨close, rest⟩ := List.isChain_cons_cons.mp near
      by_cases stillBefore : second < opening
      · obtain ⟨following, followingRemains, followingAwaits⟩ := nextAwaits.afterTick stillBefore
        obtain ⟨instant, fired, inside⟩ := inductionHypothesis nextAwaits rest stillBefore
          (by simpa using isLast) following followingRemains followingAwaits
        exact ⟨instant, mem_firings_cons.mpr (Or.inr ⟨next, remains, fired⟩), inside⟩
      · have inside : inStartMinute opening second = true := by
          refine inStartMinute_iff.mpr ⟨?_, ?_⟩
          · simp only [Instant.lt_iff, Instant.le_iff] at *
            omega
          · intro end_ isEnd
            exact close.lt_end before whole isEnd
        have fired : second ∈ firings (some next) (second :: later) :=
          mem_firings_cons.mpr (Or.inl ⟨nextAwaits.isDue inside, rfl⟩)
        exact ⟨second, mem_firings_cons.mpr (Or.inr ⟨next, remains, fired⟩), inside⟩

end ScheduledRule

namespace Runner

variable {σ : Type}

/-- This is the number of ticks in a window that tell of a rule. -/
def countInWindow (ticks : List TickRecord) (id : Uuid) (opening : Instant) : Nat :=
  ticks.countP fun tick => inStartMinute opening tick.now && tick.fires id

/-- The ticks that tell of a rule in a window are the instants in the window among those of its firings. -/
theorem countInWindow_eq (ticks : List TickRecord) (id : Uuid) (opening : Instant) :
    countInWindow ticks id opening =
      ((ticks.filter (TickRecord.fires id)).map TickRecord.now).countP (inStartMinute opening) := by
  rw [countInWindow, List.countP_map, List.countP_filter]
  rfl

/-- A rule that has not been fired yet is fired only in the windows of its schedule and at most once in
each of them, whatever its outcomes are. When ticks are a minute apart at most, a window between the first
and the last of them has exactly one, unless the schedule ends before it or it opens inside a leap second. -/
theorem fires_once_in_each_window (runner : Runner) (scheduled : ScheduledRule)
    (steps : List (RunnerStep σ)) (held : runner.rules.find? (identity scheduled) = some scheduled)
    (enabled : scheduled.rule.state.enabled = true) (unfired : scheduled.last = none)
    (spared : ∀ step ∈ steps, step.Spares (identity scheduled))
    (ordered : (steps.filterMap RunnerStep.instant?).Pairwise (· ≤ ·))
    (near : (steps.filterMap RunnerStep.instant?).IsChain Instant.WithinMinute) :
    let ticks := (runner.replay steps).1
    (∀ tick ∈ ticks, tick.fires (identity scheduled) = true →
      ∃ opening, scheduled.schedule.OpensAt opening ∧ inStartMinute opening tick.now = true) ∧
    ∀ opening, scheduled.schedule.OpensAt opening →
      countInWindow ticks (identity scheduled) opening ≤ 1 ∧
      ∀ first last closing, ticks.head? = some first → ticks.getLast? = some last →
        opening.addMinutes? 1 = some closing → first.now < opening → closing ≤ last.now →
        (∀ finish, scheduled.schedule.finish = some finish → closing ≤ finish) →
        opening.nanosecond < 1000000000 →
        countInWindow ticks (identity scheduled) opening = 1 := by
  intro ticks
  have firings := replay_firings runner steps spared
  have instants := replay_instants runner steps
  rw [held] at firings
  refine ⟨?_, ?_⟩
  · intro tick isTick fires
    have fired : tick.now ∈ ScheduledRule.firings (some scheduled)
        (steps.filterMap RunnerStep.instant?) := by
      rw [← firings]
      exact List.mem_map_of_mem (List.mem_filter.mpr ⟨isTick, fires⟩)
    obtain ⟨_, holder, same, due⟩ := ScheduledRule.exists_due_of_mem_firings fired
    have fires := (ScheduledRule.isDue_iff.mp due).2.1
    rw [same] at fires
    exact exists_window_of_firesAt fires
  · intro opening opens
    have atMost := ScheduledRule.countP_firings_le_one opens ordered
    rw [← firings, ← countInWindow_eq] at atMost
    refine ⟨atMost, ?_⟩
    intro first last closing isFirst isLast closes before after endsLater whole
    have awaits : scheduled.Awaits opening closing :=
      ⟨enabled, opens, closes, endsLater, by simp [unfired], fun _ => unfired⟩
    obtain ⟨later, split⟩ : ∃ later, steps.filterMap RunnerStep.instant? = first.now :: later := by
      rw [← instants]
      obtain ⟨rest, isRest⟩ := List.head?_eq_some_iff.mp isFirst
      exact ⟨rest.map TickRecord.now, congrArg (List.map TickRecord.now) isRest⟩
    have lastInstant : (first.now :: later).getLast? = some last.now := by
      rw [← split, ← instants, List.getLast?_map, isLast]
      rfl
    rw [split] at firings near
    obtain ⟨instant, fired, inside⟩ := awaits.exists_firing whole near before lastInstant after
    have atLeast : 0 < countInWindow ticks (identity scheduled) opening := by
      rw [countInWindow_eq, firings]
      exact List.countP_pos_iff.mpr ⟨instant, fired, inside⟩
    exact Nat.le_antisymm atMost atLeast

/-- This is an instant of a day in autumn. -/
def inAutumn (second nanosecond : Nat) (bound : second < 86400 := by decide)
    (part : nanosecond < 1000000000 ∨ (nanosecond < 2000000000 ∧ second % 60 = 59) := by decide) :
    Instant :=
  ⟨20000, second, nanosecond, by decide, bound, part⟩

/-- This rule does nothing when it is fired. -/
def idleRule : Rule :=
  Rule.ofState ⟨⟨7⟩, .scheduledReport, none, "tenant", "report", "", .scheduled, [], [], 0, true,
    Instant.epoch, Instant.epoch⟩

def idleEngine : Engine Unit where
  perform _ _ state := (.ok (), state)
  handOff := none

def holding (scheduled : ScheduledRule) : Runner := ⟨Roster.empty.put scheduled, false⟩

def ticksAt (instants : List Instant) : List (RunnerStep Unit) :=
  instants.map fun now => .tick idleEngine () now

/-- A daily rule that ends with the minute of its first firing. -/
def noonRule : ScheduledRule :=
  ⟨idleRule, (Schedule.daily 12 0).withFinish (inAutumn 43260 0), none, some (inAutumn 43200 0)⟩

def noonTicks : List Instant :=
  [inAutumn 43199 1999999999, inAutumn 43200 0, inAutumn 43259 1500000000, inAutumn 43260 0]

/-- Two of these ticks lie in the minute of noon, one of them in its leap second. -/
theorem noonRule_fires_once :
    countInWindow ((holding noonRule).replay (ticksAt noonTicks)).1 (identity noonRule)
      (inAutumn 43200 0) = 1 := by
  have runs := fires_once_in_each_window (holding noonRule) noonRule (ticksAt noonTicks) rfl rfl rfl
    (by simp [ticksAt, noonTicks, RunnerStep.Spares]) (by decide) (by decide)
  refine (runs.2 (inAutumn 43200 0) ⟨⟨rfl, rfl⟩, by decide⟩).2 _ _ (inAutumn 43260 0) rfl rfl rfl
    (by decide) (by decide) ?_ (by decide)
  rintro finish ends
  obtain rfl := Option.some.inj ends
  decide

/-- A rule that fires once, in the middle of a leap second. -/
def leapRule : ScheduledRule :=
  ⟨idleRule, Schedule.once (inAutumn 43199 1500000000), none, some (inAutumn 43199 1500000000)⟩

/-- These instants lie a minute apart, the first in the second before the leap second. -/
def leapTicks : List Instant := [inAutumn 43199 900000000, inAutumn 43259 900000000]

/-- A window that opens inside a leap second may be left out: its end is counted from the second before the
leap second, so that ticks which are a minute apart lie before and after it. -/
theorem leapRule_never_fires :
    (ScheduledRule.create idleRule leapRule.schedule (inAutumn 28800 0)).toOption = some leapRule ∧
      (holding leapRule).rules.find? (identity leapRule) = some leapRule ∧
      leapTicks.Pairwise (· ≤ ·) ∧ leapTicks.IsChain Instant.WithinMinute ∧
      (inAutumn 43199 900000000).nanosecondsUntil (inAutumn 43259 900000000) = 60000000000 ∧
      leapRule.schedule.OpensAt (inAutumn 43199 1500000000) ∧ leapRule.schedule.finish = none ∧
      (inAutumn 43199 1500000000).addMinutes? 1 = some (inAutumn 43259 500000000) ∧
      inAutumn 43199 900000000 < inAutumn 43199 1500000000 ∧
      inAutumn 43259 500000000 ≤ inAutumn 43259 900000000 ∧
      countInWindow ((holding leapRule).replay (ticksAt leapTicks)).1 (identity leapRule)
        (inAutumn 43199 1500000000) = 0 := by
  refine ⟨rfl, rfl, by decide, by decide, by decide, rfl, rfl, by decide, by decide, by decide, ?_⟩
  decide

end Runner

end ContactRules
