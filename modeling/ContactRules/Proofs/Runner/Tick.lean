/-
This file proves what one tick does: which rules it fires, with what, and what it leaves.
-/

import ContactRules.Proofs.Engine.Isolation
import ContactRules.Proofs.Runner.Marking

namespace ContactRules

open ContactRules.Calendar
open ContactRules.Json

variable {σ τ : Type}

namespace ScheduledRule

variable (scheduled : ScheduledRule) (now : Instant)

/-- The facts of a firing are the kind of its schedule and the instant, and no others. -/
theorem get?_facts (name : String) :
    (scheduled.facts now).get? name =
      if name = "schedule_type" then some (.text scheduled.schedule.recurrence.name)
      else if name = "scheduled_at" then some (.text now.offsetText)
      else none := by
  simp only [facts, Fields.get?_insert, Fields.get?_empty]

/-- This is what a rule does when it is fired alone. -/
def outcomeAlone (engine : Engine σ) (outside : σ) : Outcome :=
  (engine.runRule (scheduled.facts now) scheduled.context scheduled.rule outside).1

end ScheduledRule

namespace Runner

/-- Rules are fired in turn when each of them runs with its own facts and in its own context, and finds the outside
as the one before it has left it. -/
inductive FiredInTurn (engine : Engine σ) (now : Instant) :
    List ScheduledRule → σ → List Outcome → σ → Prop
  | none (state : σ) : FiredInTurn engine now [] state [] state
  | next {scheduled : ScheduledRule} {rest : List ScheduledRule} {before between after : σ} {outcome : Outcome}
      {outcomes : List Outcome}
      (first : engine.runRule (scheduled.facts now) scheduled.context scheduled.rule before = (outcome, between))
      (later : FiredInTurn engine now rest between outcomes after) :
      FiredInTurn engine now (scheduled :: rest) before (outcome :: outcomes) after

/-- Rules that are fired one after the other are fired in turn. -/
theorem fireAll_firedInTurn (engine : Engine σ) (now : Instant) (due : List ScheduledRule) (state : σ) :
    FiredInTurn engine now due state (fireAll engine now due state).1 (fireAll engine now due state).2 := by
  induction due generalizing state with
  | nil => exact .none state
  | cons scheduled rest inductionHypothesis =>
      apply FiredInTurn.next
      · rfl
      · exact inductionHypothesis (fire engine now scheduled state).2

/-- Whatever the engine answers, a tick leaves the outside as the rules leave it that are due. -/
theorem tick_firedInTurn (runner : Runner) (engine : Engine σ) (now : Instant) (state : σ) :
    FiredInTurn engine now (runner.due now) state (runner.tick engine now state).1
      (runner.tick engine now state).2.2 := by
  rw [tick_eq]
  exact fireAll_firedInTurn engine now (runner.due now) state

/-- Steady engines let each rule do what it does alone, whatever was fired before. -/
theorem fireAll_steady {engine : Engine σ} (steady : engine.Steady) (now : Instant) (due : List ScheduledRule)
    (state alone : σ) :
    (fireAll engine now due state).1 = due.map fun scheduled => scheduled.outcomeAlone now engine alone := by
  induction due generalizing state with
  | nil => rfl
  | cons scheduled rest inductionHypothesis =>
      have first := ((steady.answersAlike scheduled.rule.state.actions
        (scheduled.rule.stamp scheduled.context)).alone (scheduled.facts now) state alone).1
      rw [List.map_cons, ← inductionHypothesis (fire engine now scheduled state).2]
      exact congrArg (· :: _) first

/-- The rules that are due under an identifier are the one that is found under it, if that one is due. -/
theorem filter_due (runner : Runner) (now : Instant) (id : Uuid) :
    (runner.due now).filter (fun scheduled => identity scheduled = id) =
      ((runner.rules.find? id).filter fun scheduled => scheduled.isDue now).toList := by
  have swapped := List.filter_comm (fun scheduled => identity scheduled = id)
    (fun scheduled => scheduled.isDue now) runner.rules.members
  rw [due, swapped, Roster.filter_identity]
  cases runner.rules.find? id with
  | none => rfl
  | some scheduled => cases due : scheduled.isDue now <;> simp [Option.filter, due]

/-- A tick fires each rule that is due, and no other rule, with the facts of the tick and in the context of
the rule. The rules are fired one after the other, and nothing else is done outside. Then the tick marks the rules
that were due and keeps the others as they are, and of both it drops those that never fire again. How the rules are
marked depends neither on what they do nor on the engine. Where the engine is steady, nothing depends on the order
in which the runner holds its rules. -/
theorem tick_step {engine : Engine σ} (steady : engine.Steady) (runner : Runner) (now : Instant)
    (state alone : σ) :
    let (outcomes, after, outside) := runner.tick engine now state
    outcomes = (runner.due now).map (fun scheduled => scheduled.outcomeAlone now engine alone) ∧
      FiredInTurn engine now (runner.due now) state outcomes outside ∧
      (∀ id, outcomes.filter (fun outcome => outcome.rule = id) =
        ((runner.rules.find? id).filter fun scheduled => scheduled.isDue now).toList.map fun scheduled =>
          scheduled.outcomeAlone now engine alone) ∧
      (∀ scheduled ∈ runner.due now,
        (∀ name, (scheduled.facts now).get? name =
          if name = "schedule_type" then some (.text scheduled.schedule.recurrence.name)
          else if name = "scheduled_at" then some (.text now.offsetText)
          else none) ∧
        scheduled.context = ⟨scheduled.rule.state.tenant, none, none, none, scheduled.rule.state.pipeline,
          none, some .scheduled, Fields.empty⟩) ∧
      (after.running = runner.running ∧
        after.rules.members = (runner.rules.members.map fun scheduled =>
          if scheduled.isDue now then
            { scheduled with
              last := some now
              next := if scheduled.schedule.recurrence = .once then none else scheduled.schedule.next? now }
          else scheduled).filter fun scheduled => !scheduled.isExhausted now) ∧
      (∀ (τ : Type) (other : Engine τ) (outside : τ), (runner.tick other now outside).2.1 = after) ∧
      ∀ (reordered : Runner) (elsewhere : σ), reordered.rules.members.Perm runner.rules.members →
        (reordered.tick engine now elsewhere).1.Perm outcomes ∧
        (reordered.tick engine now elsewhere).2.1.rules.members.Perm after.rules.members ∧
        ∀ id, (reordered.tick engine now elsewhere).2.1.rules.find? id = after.rules.find? id := by
  have inTurn := tick_firedInTurn runner engine now state
  simp only [tick_eq] at inTurn ⊢
  have outcomes (runner : Runner) (state : σ) := fireAll_steady steady now (runner.due now) state alone
  refine ⟨outcomes runner state, inTurn, fun id => ?_, fun scheduled _ => ⟨scheduled.get?_facts now, rfl⟩,
    ⟨rfl, rfl⟩, fun _ _ _ => trivial, fun reordered elsewhere same => ?_⟩
  · rw [outcomes, ← filter_due, List.filter_map]
    refine congrArg (List.map _) (List.filter_congr fun scheduled _ => ?_)
    exact congrArg (fun rule => decide (rule = id)) (engine.runRule_rule _ _ scheduled.rule alone)
  · have settled : (reordered.settle now).rules.members.Perm (runner.settle now).rules.members :=
      (same.map (markDue now)).filter _
    rw [outcomes, outcomes]
    exact ⟨(same.filter _).map _, settled, Roster.find?_of_perm settled⟩

/-- A rule with one action. -/
def scheduledFor (id : Uuid) (kind : ActionKind) (schedule : Schedule) : ScheduledRule :=
  ⟨Rule.ofState ⟨id, .scheduled, none, "tenant", "rule", "", .scheduled, [], [.ofKind kind], 0, true, .epoch,
    .epoch⟩, schedule, none, none⟩

/-- Of these rules one is daily, one is for the first midnight only, and one is not due at midnight. -/
def midnightRunner : Runner :=
  ⟨⟨[scheduledFor ⟨1⟩ .addTag (.daily 0 0), scheduledFor ⟨2⟩ .sendWebhook (.once .epoch),
    scheduledFor ⟨3⟩ .sendWebhook (.daily 1 0)], by decide⟩, true⟩

/-- The daily rule fails and is marked like any other. The rule that does not fail is dropped, because it was
for once. -/
theorem midnightRunner_tick :
    let (outcomes, after, _) := midnightRunner.tick Engine.tagRefuser .epoch 0
    outcomes.map (fun outcome => (outcome.rule, outcome.verdict.isFailed)) = [(⟨1⟩, true), (⟨2⟩, false)] ∧
      after.rules.members.map (fun scheduled => (identity scheduled, scheduled.last)) =
        [(⟨1⟩, some .epoch), (⟨3⟩, none)] := by
  obtain ⟨outcomes, _, _, _, ⟨_, members⟩, _⟩ :=
    tick_step Engine.tagRefuser_steady midnightRunner .epoch 0 0
  exact ⟨(congrArg (List.map _) outcomes).trans (by decide), (congrArg (List.map _) members).trans (by decide)⟩

end Runner

end ContactRules
