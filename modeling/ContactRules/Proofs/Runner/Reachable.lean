/-
This file proves what holds in every state that a runner can reach, whichever way its clock goes.
-/

import ContactRules.Proofs.Rule.Construction
import ContactRules.Proofs.Runner.ExactlyOnce

namespace ContactRules

open ContactRules.Calendar

variable {σ : Type}

/-- A life begins when a rule is added. It tells for which instant the rule was built and at which ticks it
was fired since then, the last one first. -/
structure RuleLife where
  built : Instant
  firings : List Instant

namespace RuleLife

/-- The next firing is counted from the last one, or from the instant for which the rule was built. -/
def countedFrom (life : RuleLife) : Instant := life.firings.headD life.built

def fireAt (life : RuleLife) (now : Instant) : RuleLife := { life with firings := now :: life.firings }

end RuleLife

/-- The lives of rules are told by what is done to a runner and by the outcomes of its ticks. -/
def Lives := Uuid → Option RuleLife

namespace Lives

def none : Lives := fun _ => Option.none

def begin (lives : Lives) (id : Uuid) (built : Instant) : Lives :=
  fun other => if id = other then some ⟨built, []⟩ else lives other

def close (lives : Lives) (id : Uuid) : Lives :=
  fun other => if other = id then Option.none else lives other

/-- A rule is fired at a tick that tells of it. -/
def record (lives : Lives) (tick : TickRecord) : Lives :=
  fun id => if tick.fires id then (lives id).map fun life => life.fireAt tick.now else lives id

end Lives

namespace ScheduledRule

variable {scheduled next : ScheduledRule} {life : RuleLife} {built now : Instant}

/-- A scheduled rule is built for an instant from a rule and a schedule, or from a definition. -/
inductive BuiltAt (built : Instant) : ScheduledRule → Prop
  | created {rule : Rule} {schedule : Schedule} {scheduled : ScheduledRule} :
      create rule schedule built = .ok scheduled → BuiltAt built scheduled
  | defined {definition : RuleDefinition} {id : Uuid} {stamp : Stamp} {scheduled : ScheduledRule} :
      definition.build id stamp built = .ok scheduled → BuiltAt built scheduled

/-- The bookkeeping of a rule agrees with its life. -/
structure AgreesWith (scheduled : ScheduledRule) (life : RuleLife) : Prop where
  supported : scheduled.schedule.recurrence ≠ .cron
  valid : scheduled.schedule.validate = .ok ()
  last : scheduled.last = life.firings.head?
  unfired : scheduled.schedule.recurrence = .once → life.firings = []
  next : scheduled.next = scheduled.schedule.next? life.countedFrom

/-- A rule that has just been built has a valid schedule and has not been fired. -/
theorem BuiltAt.fresh (isBuilt : scheduled.BuiltAt built) :
    scheduled.schedule.validate = .ok () ∧ scheduled.last = none ∧
      scheduled.next = scheduled.schedule.next? built := by
  obtain ⟨rule, schedule, created⟩ : ∃ rule schedule, create rule schedule built = .ok scheduled := by
    cases isBuilt with
    | created made => exact ⟨_, _, made⟩
    | defined made =>
        obtain ⟨rule, _, attached⟩ := RuleDefinition.build_eq_ok.mp made
        exact ⟨rule, _, attached⟩
  obtain ⟨valid, rfl⟩ := create_eq_ok.mp created
  exact ⟨valid, rfl, rfl⟩

/-- The bookkeeping of a rule that has just been built agrees with a life without firings. -/
theorem BuiltAt.agrees (isBuilt : scheduled.BuiltAt built)
    (supported : scheduled.schedule.recurrence ≠ .cron) : scheduled.AgreesWith ⟨built, []⟩ := by
  obtain ⟨valid, unfired, next⟩ := isBuilt.fresh
  exact ⟨supported, valid, unfired, fun _ => rfl, next⟩

/-- What a tick leaves of a rule agrees with a life that tells whether the rule was fired. A rule that fires
once is not left when it has been fired. -/
theorem AgreesWith.afterTick (agrees : scheduled.AgreesWith life)
    (remains : scheduled.afterTick now = some next) :
    next.AgreesWith (if scheduled.isDue now then life.fireAt now else life) := by
  cases due : scheduled.isDue now with
  | false =>
      obtain ⟨rfl, _⟩ := afterTick_eq_some_iff.mp remains
      rw [Runner.markDue, due]
      exact agrees
  | true =>
      -- A rule that fires once would have been swept by this tick.
      have again : scheduled.schedule.recurrence ≠ .once := fun isOnce => by
        rw [afterTick_once isOnce due] at remains
        cases remains
      obtain ⟨rfl, _⟩ := afterTick_eq_some_iff.mp remains
      rw [Runner.markDue, due]
      exact ⟨agrees.supported, agrees.valid, rfl, fun isOnce => absurd isOnce again, if_neg again⟩

end ScheduledRule

namespace Runner

variable {runner after : Runner} {scheduled : ScheduledRule} {lives : Lives}

/-- A runner refuses the schedules that never fire, and takes in any other rule. -/
theorem add_eq (runner : Runner) (scheduled : ScheduledRule) :
    runner.add scheduled =
      if scheduled.schedule.recurrence = .cron then .error (.schedule (.unsupported .cron))
      else .ok { runner with rules := runner.rules.put scheduled } := by
  unfold add Schedule.ensureSupported
  split <;> rfl

/-- A rule is taken in exactly when its schedule is not of the kind that never fires, and then it replaces the
one with its identifier. -/
theorem add_eq_ok :
    runner.add scheduled = .ok after ↔
      scheduled.schedule.recurrence ≠ .cron ∧ after = { runner with rules := runner.rules.put scheduled } := by
  rw [add_eq]
  split
  · rename_i isCron
    exact ⟨fun refused => (nomatch refused), fun accepted => absurd isCron accepted.1⟩
  · rename_i supported
    exact ⟨fun same => ⟨supported, (Except.ok.inj same).symm⟩, fun same => congrArg Except.ok same.2.symm⟩

/-- An addition that is refused changes nothing. -/
theorem step_of_refused {error : EngineError} (refused : runner.add scheduled = .error error) :
    (runner.step (.add scheduled : RunnerStep σ)).2 = runner := by
  simp only [step, refused]
  rfl

/-- After a tick a rule is found as the tick leaves it, or not at all. -/
theorem find?_tick (runner : Runner) (engine : Engine σ) (now : Instant) (outside : σ) (id : Uuid) :
    (runner.tick engine now outside).2.1.rules.find? id =
      (runner.rules.find? id).bind fun scheduled => scheduled.afterTick now := by
  rw [tick_eq, find?_settle]

/-- A runner is reached from the empty one by additions of rules that have just been built, removals and ticks
at any instants, along which the lives of the rules are told. It may put its rules into another order at any
time, and may be started and stopped. -/
inductive Reached (σ : Type) : Lives → Runner → Prop
  | empty : Reached σ Lives.none Runner.empty
  | added {lives : Lives} {runner after : Runner} {scheduled : ScheduledRule} {built : Instant} :
      scheduled.BuiltAt built → runner.add scheduled = .ok after → Reached σ lives runner →
      Reached σ (lives.begin (identity scheduled) built) after
  | refused {lives : Lives} {runner : Runner} {scheduled : ScheduledRule} {error : EngineError} :
      runner.add scheduled = .error error → Reached σ lives runner →
      Reached σ lives (runner.step (.add scheduled : RunnerStep σ)).2
  | removed {lives : Lives} {runner : Runner} (id : Uuid) :
      Reached σ lives runner → Reached σ (lives.close id) (runner.remove id)
  | ticked {lives : Lives} {runner : Runner} (engine : Engine σ) (outside : σ) (now : Instant) :
      Reached σ lives runner →
      Reached σ (lives.record ⟨now, (runner.tick engine now outside).1⟩) (runner.tick engine now outside).2.1
  | rearranged {lives : Lives} {runner other : Runner} :
      runner.rules.members.Perm other.rules.members → Reached σ lives runner → Reached σ lives other

/-- Each rule that is held is alive and agrees with its life. -/
def Consistent (lives : Lives) (runner : Runner) : Prop :=
  ∀ id scheduled, runner.rules.find? id = some scheduled →
    ∃ life, lives id = some life ∧ scheduled.AgreesWith life

/-- A rule that is added begins its life. -/
theorem Consistent.added (consistent : Consistent lives runner) {built : Instant}
    (isBuilt : scheduled.BuiltAt built) (accepted : runner.add scheduled = .ok after) :
    Consistent (lives.begin (identity scheduled) built) after := by
  obtain ⟨supported, rfl⟩ := add_eq_ok.mp accepted
  intro id held found
  rw [Roster.find?_put] at found
  unfold Lives.begin
  split at found
  · rename_i same
    obtain rfl := Option.some.inj found
    exact ⟨_, if_pos same, isBuilt.agrees supported⟩
  · rename_i different
    rw [if_neg different]
    exact consistent id held found

/-- A rule that is removed ends its life. -/
theorem Consistent.removed (consistent : Consistent lives runner) (removed : Uuid) :
    Consistent (lives.close removed) (runner.remove removed) := by
  intro id held found
  rw [remove, Roster.find?_remove] at found
  unfold Lives.close
  split at found
  · cases found
  · rename_i different
    rw [if_neg different]
    exact consistent id held found

/-- A tick tells by its outcomes whose lives go on with a firing. -/
theorem Consistent.ticked (consistent : Consistent lives runner) (engine : Engine σ) (outside : σ)
    (now : Instant) :
    Consistent (lives.record ⟨now, (runner.tick engine now outside).1⟩)
      (runner.tick engine now outside).2.1 := by
  intro id left found
  rw [find?_tick, Option.bind_eq_some_iff] at found
  obtain ⟨held, isHeld, remains⟩ := found
  obtain ⟨life, isLife, agrees⟩ := consistent id held isHeld
  refine ⟨_, ?_, agrees.afterTick remains⟩
  rw [Lives.record, tick_fires, isHeld, Option.any_some, isLife]
  split <;> rfl

/-- In every state that a runner can reach, its bookkeeping agrees with the lives of its rules. -/
theorem Reached.consistent (reached : Reached σ lives runner) : Consistent lives runner := by
  induction reached with
  | empty => exact fun _ _ found => nomatch found
  | added isBuilt accepted _ inductionHypothesis => exact inductionHypothesis.added isBuilt accepted
  | refused isRefused _ inductionHypothesis => rwa [step_of_refused isRefused]
  | removed id _ inductionHypothesis => exact inductionHypothesis.removed id
  | ticked engine outside now _ inductionHypothesis => exact inductionHypothesis.ticked engine outside now
  | rearranged sameMembers _ inductionHypothesis =>
      intro id held found
      rw [← Roster.find?_of_perm sameMembers] at found
      exact inductionHypothesis id held found

/-- No rule that is left by a tick is exhausted. -/
theorem not_exhausted_of_mem_tick {engine : Engine σ} {now : Instant} {outside : σ}
    (isMember : scheduled ∈ (runner.tick engine now outside).2.1.rules.members) :
    scheduled.isExhausted now = false := by
  have found := Roster.find?_of_mem isMember
  rw [find?_tick, Option.bind_eq_some_iff] at found
  obtain ⟨_, _, remains⟩ := found
  exact (ScheduledRule.afterTick_eq_some_iff.mp remains).2

/-- In every runner that can be reached, each rule is held under its own identifier and has a valid schedule
that can fire. No rule that fires once has been fired. The next firing of a rule is counted from the tick that
fired it last, or from the instant for which it was built. An addition is refused exactly when the schedule
never fires, and then changes nothing. No rule that is held after a tick is exhausted. -/
theorem Reached.bookkeeping_exact (reached : Reached σ lives runner) :
    (∀ id scheduled, runner.rules.find? id = some scheduled →
      scheduled.rule.state.id = id ∧ scheduled.schedule.recurrence ≠ .cron ∧
        scheduled.schedule.validate = .ok () ∧
        ∃ life, lives id = some life ∧ scheduled.last = life.firings.head? ∧
          (scheduled.schedule.recurrence = .once → scheduled.last = none ∧ life.firings = []) ∧
          scheduled.next = scheduled.schedule.next? life.countedFrom ∧ runner.next? id = scheduled.next) ∧
    (∀ scheduled ∈ runner.rules.members, runner.rules.find? scheduled.rule.state.id = some scheduled) ∧
    (∀ scheduled,
      (scheduled.schedule.recurrence = .cron →
        runner.add scheduled = .error (.schedule (.unsupported .cron)) ∧
          (runner.step (.add scheduled : RunnerStep σ)).2 = runner) ∧
      (scheduled.schedule.recurrence ≠ .cron → ∃ after, runner.add scheduled = .ok after ∧
        ∀ id, after.rules.find? id =
          if scheduled.rule.state.id = id then some scheduled else runner.rules.find? id)) ∧
    ∀ (engine : Engine σ) (outside : σ) (now : Instant),
      ∀ scheduled ∈ (runner.tick engine now outside).2.1.rules.members, scheduled.isExhausted now = false := by
  refine ⟨fun id scheduled found => ?_, fun scheduled isMember => Roster.find?_of_mem isMember,
    fun scheduled => ⟨fun isCron => ?_, fun supported => ?_⟩,
    fun engine outside now scheduled isMember => not_exhausted_of_mem_tick isMember⟩
  · obtain ⟨life, isLife, agrees⟩ := reached.consistent id scheduled found
    have unfired (isOnce : scheduled.schedule.recurrence = .once) :
        scheduled.last = none ∧ life.firings = [] := by
      have none := agrees.unfired isOnce
      rw [agrees.last, none]
      exact ⟨rfl, rfl⟩
    refine ⟨Roster.identity_of_find? found, agrees.supported, agrees.valid, life, isLife, agrees.last,
      unfired, agrees.next, ?_⟩
    rw [Runner.next?, found, Option.bind_some]
  · have refused : runner.add scheduled = .error (.schedule (.unsupported .cron)) := by
      rw [add_eq, if_pos isCron]
    exact ⟨refused, step_of_refused refused⟩
  · exact ⟨_, add_eq_ok.mpr ⟨supported, rfl⟩, Roster.find?_put runner.rules scheduled⟩

/-- A rule that fires every day at half past nine. -/
def dailyRule : ScheduledRule := ⟨idleRule, .daily 9 30, none, some (inAutumn 34200 0)⟩

/-- This runner fired its rule. Then its clock went back to the instant for which the rule was built. -/
def backwardRunner : Runner :=
  (((holding dailyRule).tick idleEngine (inAutumn 34200 0) ()).2.1.tick idleEngine (inAutumn 29700 0) ()).2.1

/-- The next firing is still counted from the last one. -/
theorem backwardRunner_counts_from_firing :
    ∃ lives, Reached Unit lives backwardRunner ∧
      lives ⟨7⟩ = some ⟨inAutumn 29700 0, [inAutumn 34200 0]⟩ ∧
      backwardRunner.next? ⟨7⟩ = (Schedule.daily 9 30).next? (inAutumn 34200 0) ∧
      (backwardRunner.next? ⟨7⟩).isSome = true := by
  have created : ScheduledRule.create idleRule (.daily 9 30) (inAutumn 29700 0) = .ok dailyRule := rfl
  have isBuilt : dailyRule.BuiltAt (inAutumn 29700 0) := .created created
  have afterFiring := (Reached.empty (σ := Unit)).added isBuilt rfl |>.ticked idleEngine () (inAutumn 34200 0)
  have reached := afterFiring.ticked idleEngine () (inAutumn 29700 0)
  refine ⟨_, reached, rfl, ?_⟩
  obtain ⟨life, isLife, _, _, next, told⟩ := (reached.bookkeeping_exact.1 ⟨7⟩ _ rfl).2.2.2
  have firedOnce : some (RuleLife.mk (inAutumn 29700 0) [inAutumn 34200 0]) = some life := isLife
  obtain rfl := Option.some.inj firedOnce
  have counted := told.trans next
  exact ⟨counted, counted ▸ by decide⟩

end Runner

end ContactRules
