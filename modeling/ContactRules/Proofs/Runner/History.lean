/-
This file defines histories of runners and proves what they mean for one rule.
-/

import ContactRules.Proofs.Engine.Log
import ContactRules.Proofs.Runner.Marking

namespace ContactRules

open ContactRules.Calendar

variable {σ : Type}

/-- A step of a history. At each tick the engine finds the outside in any state. -/
inductive RunnerStep (σ : Type) where
  | tick (engine : Engine σ) (outside : σ) (now : Instant)
  | add (scheduled : ScheduledRule)
  | remove (id : Uuid)

/-- The step neither adds a rule with an identifier nor removes it. -/
def RunnerStep.Spares (id : Uuid) : RunnerStep σ → Prop
  | tick _ _ _ => True
  | add scheduled => identity scheduled ≠ id
  | remove removed => removed ≠ id

/-- This is the instant of a step that is a tick. -/
def RunnerStep.instant? : RunnerStep σ → Option Instant
  | tick _ _ now => some now
  | add _ => none
  | remove _ => none

/-- A tick leaves a record of its outcomes. -/
structure TickRecord where
  now : Instant
  outcomes : List Outcome

/-- An outcome of the tick names a rule. -/
def TickRecord.fires (id : Uuid) (tick : TickRecord) : Bool :=
  tick.outcomes.any fun outcome => outcome.rule = id

/-- A rule that is refused is not added. -/
def Runner.step (runner : Runner) : RunnerStep σ → Option TickRecord × Runner
  | .tick engine outside now =>
      let (outcomes, runner, _) := runner.tick engine now outside
      (some ⟨now, outcomes⟩, runner)
  | .add scheduled => (none, (runner.add scheduled).toOption.getD runner)
  | .remove id => (none, runner.remove id)

/-- This replays a history and collects the records of its ticks. -/
def Runner.replay : Runner → List (RunnerStep σ) → List TickRecord × Runner
  | runner, [] => ([], runner)
  | runner, step :: steps =>
      let (tick, runner) := runner.step step
      let (ticks, runner) := replay runner steps
      (tick.toList ++ ticks, runner)

namespace ScheduledRule

/-- This is what a tick leaves of a rule, if anything. -/
def afterTick (scheduled : ScheduledRule) (now : Instant) : Option ScheduledRule :=
  (some (Runner.markDue now scheduled)).filter fun marked => !marked.isExhausted now

/-- These are the instants of ticks at which a rule is due, one tick after the other. -/
def firings : Option ScheduledRule → List Instant → List Instant
  | none, _ => []
  | some _, [] => []
  | some scheduled, now :: later =>
      (if scheduled.isDue now then [now] else []) ++ firings (scheduled.afterTick now) later

/-- A rule that is not held is not fired. -/
theorem firings_none (instants : List Instant) : firings none instants = [] := by
  cases instants <;> rfl

end ScheduledRule

namespace Runner

/-- Each rule that is fired has one outcome, in the order in which the rules are fired. -/
theorem fireAll_rules (engine : Engine σ) (now : Instant) (due : List ScheduledRule) (state : σ) :
    (fireAll engine now due state).1.map Outcome.rule = due.map identity := by
  induction due generalizing state with
  | nil => rfl
  | cons scheduled rest inductionHypothesis =>
      simp only [fireAll, List.map_cons, inductionHypothesis]
      rw [fire, Engine.runRule_rule]
      rfl

/-- A tick tells of a rule exactly when the rule is held and due. -/
theorem tick_fires (runner : Runner) (engine : Engine σ) (now : Instant) (state : σ) (id : Uuid) :
    TickRecord.fires id ⟨now, (runner.tick engine now state).1⟩ =
      (runner.rules.find? id).any fun scheduled => scheduled.isDue now := by
  have rules := fireAll_rules engine now (runner.due now) state
  rw [Bool.eq_iff_iff]
  simp only [TickRecord.fires, tick_eq, List.any_eq_true, Option.any_eq_true, decide_eq_true_eq]
  constructor
  · rintro ⟨outcome, isOutcome, named⟩
    have listed : id ∈ (runner.due now).map identity := by
      rw [← rules, ← named]
      exact List.mem_map_of_mem isOutcome
    obtain ⟨scheduled, isDue, same⟩ := List.mem_map.mp listed
    obtain ⟨member, due⟩ := List.mem_filter.mp isDue
    exact ⟨scheduled, Roster.find?_eq_some_iff.mpr ⟨member, same⟩, due⟩
  · rintro ⟨scheduled, found, due⟩
    obtain ⟨member, same⟩ := Roster.find?_eq_some_iff.mp found
    have listed : id ∈ (runner.due now).map identity := by
      rw [← same]
      exact List.mem_map_of_mem (List.mem_filter.mpr ⟨member, due⟩)
    rw [← rules] at listed
    obtain ⟨outcome, isOutcome, named⟩ := List.mem_map.mp listed
    exact ⟨outcome, isOutcome, named⟩

/-- After the sweep a rule is found as the tick leaves it, or not at all. -/
theorem find?_settle (runner : Runner) (now : Instant) (id : Uuid) :
    (runner.settle now).rules.find? id =
      (runner.rules.find? id).bind fun scheduled => scheduled.afterTick now := by
  rw [settle, Roster.find?_filter, Roster.find?_map]
  cases runner.rules.find? id <;> rfl

/-- Adding another rule, or trying to, does not concern a rule. -/
theorem find?_add (runner : Runner) {scheduled : ScheduledRule} {id : Uuid}
    (different : identity scheduled ≠ id) :
    ((runner.add scheduled).toOption.getD runner).rules.find? id = runner.rules.find? id := by
  unfold add
  cases scheduled.schedule.ensureSupported with
  | error _ => rfl
  | ok _ => exact (Roster.find?_put _ _ _).trans (if_neg different)

/-- A removal does not touch the other rules. -/
theorem find?_remove (runner : Runner) {removed id : Uuid} (different : removed ≠ id) :
    (runner.remove removed).rules.find? id = runner.rules.find? id :=
  (Roster.find?_remove _ _ _).trans (if_neg different.symm)

/-- The ticks of a history that tell of a rule are those at which the rule is due, as long as the rule is
neither added nor removed. -/
theorem replay_firings (runner : Runner) {id : Uuid} (steps : List (RunnerStep σ))
    (spared : ∀ step ∈ steps, step.Spares id) :
    (((runner.replay steps).1.filter (TickRecord.fires id)).map TickRecord.now) =
      ScheduledRule.firings (runner.rules.find? id) (steps.filterMap RunnerStep.instant?) := by
  induction steps generalizing runner with
  | nil => cases runner.rules.find? id <;> rfl
  | cons step steps inductionHypothesis =>
      obtain ⟨first, rest⟩ := List.forall_mem_cons.mp spared
      cases step with
      | tick engine outside now =>
          have told := runner.tick_fires engine now outside id
          have remains := inductionHypothesis (runner.settle now) rest
          rw [find?_settle] at remains
          simp only [replay, Runner.step, tick_eq, Option.toList_some, List.singleton_append,
            List.filter_cons, RunnerStep.instant?, List.filterMap_cons] at told remains ⊢
          rw [told]
          cases held : runner.rules.find? id with
          | none =>
              rw [held] at remains
              simpa only [held, Option.any_none, Bool.false_eq_true, if_false, Option.bind_none,
                ScheduledRule.firings_none] using remains
          | some scheduled =>
              rw [held] at remains
              simp only [Option.any_some, Option.bind_some, ScheduledRule.firings] at remains ⊢
              rw [← remains]
              split <;> rfl
      | add scheduled =>
          have unchanged := runner.find?_add first
          have remains := inductionHypothesis ((runner.add scheduled).toOption.getD runner) rest
          rw [unchanged] at remains
          exact remains
      | remove removed =>
          have unchanged := runner.find?_remove first
          have remains := inductionHypothesis (runner.remove removed) rest
          rw [unchanged] at remains
          exact remains

/-- The records of a history stand in the order of its ticks. -/
theorem replay_instants (runner : Runner) (steps : List (RunnerStep σ)) :
    (runner.replay steps).1.map TickRecord.now = steps.filterMap RunnerStep.instant? := by
  induction steps generalizing runner with
  | nil => rfl
  | cons step steps inductionHypothesis =>
      cases step with
      | tick engine outside now => exact congrArg (now :: ·) (inductionHypothesis _)
      | add scheduled => exact inductionHypothesis _
      | remove removed => exact inductionHypothesis _

end Runner

end ContactRules
