/-
This file proves that a threshold on the length of a session is met exactly when the session is as long.
-/

import ContactRules.Engine.Occasion
import ContactRules.Proofs.Calendar.Span
import ContactRules.Proofs.Engine.Verdict
import ContactRules.Proofs.Rule.Comparison

namespace ContactRules

open ContactRules.Calendar
open ContactRules.Json

namespace Condition

variable {facts : Facts} {field : String} {number : Nat}

/-- A whole number below the limit meets a lower bound exactly, however great the bound is. -/
theorem holds_atLeast_iff (found : facts.get? field = some (Value.ofNat number))
    (small : number < 0x20000000000000) (count : Nat) :
    Condition.holds ⟨field, .greaterThanOrEqual, Value.ofNat count⟩ facts = true ↔ count ≤ number := by
  simp only [holds, found, Value.ofNat]
  rw [Operator.greaterThanOrEqual_iff, Number.toDouble_ofNat, Number.toDouble_ofNat,
    Double.ofNat_le_ofNat_iff small]

/-- A fact is below a count exactly when its number is, if the number is small enough to be exact. -/
theorem holds_below_iff (found : facts.get? field = some (Value.ofNat number))
    (small : number < 0x20000000000000) (count : Nat) :
    Condition.holds ⟨field, .lessThan, Value.ofNat count⟩ facts = true ↔ number < count := by
  simp only [holds, found, Value.ofNat]
  rw [Operator.lessThan_iff, Number.toDouble_ofNat, Number.toDouble_ofNat, ← Int.not_le,
    Double.ofNat_le_ofNat_iff small, Nat.not_le]

end Condition

/-- The engine judges a rule on an occasion: it always reports on the rule, and calls its conditions met exactly when
something is the case. -/
def Engine.Judges {σ : Type} (engine : Engine σ) (store : Store) (occasion : Occasion) (state : σ) (rule : Uuid)
    (isCase : Prop) : Prop :=
  ∃ report outcome holds, (engine.runOccasion store.source occasion state).1 = .ok report ∧
    report.outcome? rule = some outcome ∧ outcome.verdict.met? = some holds ∧ (holds = true ↔ isCase)

/-- This rule was saved last, is enabled, listens to a trigger in a pipeline and has one condition. -/
structure RuleState.Listens (saved : RuleState) (store : Store) (pipeline : Uuid) (trigger : Trigger)
    (condition : Condition) : Prop where
  stored : ∃ history, store.Reached history ∧ lastSaved history saved.id = some saved
  enabled : saved.enabled = true
  ofPipeline : saved.pipeline = some pipeline
  onTrigger : saved.trigger = trigger
  only : saved.conditions = [condition]

/-- The engine judges a rule with one condition by that condition. -/
theorem RuleState.Listens.judges {saved : RuleState} {store : Store} {occasion : Occasion} {condition : Condition}
    (listens : saved.Listens store occasion.pipeline occasion.trigger condition) {σ : Type} (engine : Engine σ)
    (state : σ) {isCase : Prop} (decides : condition.holds occasion.facts = true ↔ isCase) :
    engine.Judges store occasion state saved.id isCase := by
  obtain ⟨⟨history, reached, isSaved⟩, enabled, ofPipeline, onTrigger, only⟩ := listens
  obtain ⟨report, outcome, reported, isOutcome, verdict⟩ :=
    engine.exists_verdict reached isSaved enabled ofPipeline occasion.facts occasion.context state
  rw [onTrigger] at reported
  refine ⟨report, outcome, _, reported, isOutcome, verdict, ?_⟩
  rw [only, ← decides]
  simp only [Condition.allHold, List.all_cons, List.all_nil, Bool.and_true]

/-- Occasions have as a fact the whole units of the span from a start, and thresholds on that fact are met by the
span itself. -/
structure Occasion.Measures (occasions : Instant → Occasion) (pipeline : Uuid) (trigger : Trigger)
    (field : String) (start : Instant) (unit : Nat) : Prop where
  fact : ∀ finish, (occasions finish).facts.get? field = some (Value.ofNat (start.unitsUntil unit finish))
  atLeast : ∀ {σ : Type} (engine : Engine σ) (state : σ) (store : Store) (saved : RuleState) (count : Nat)
    (finish : Instant), 1 ≤ count →
    saved.Listens store pipeline trigger ⟨field, .greaterThanOrEqual, Value.ofNat count⟩ →
      engine.Judges store (occasions finish) state saved.id (count * unit ≤ start.nanosecondsUntil finish)
  below : ∀ {σ : Type} (engine : Engine σ) (state : σ) (store : Store) (saved : RuleState) (count : Nat)
    (finish : Instant), 1 ≤ count →
    saved.Listens store pipeline trigger ⟨field, .lessThan, Value.ofNat count⟩ →
      engine.Judges store (occasions finish) state saved.id (start.nanosecondsUntil finish < count * unit)
  inRange : ∀ finish, (start.nanosecondsUntil finish).natAbs ≤ 0x7fffffffffffffff * 1000000 ∧
    start.unitsUntil unit finish < 0x20000000000000
  ordinary : ∀ finish, ¬ start.InLeapSecond → ¬ finish.InLeapSecond →
    start.nanosecondsUntil finish = finish.clock - start.clock
  backwards : ∀ finish, finish ≤ start → start.unitsUntil unit finish = 0
  monotone : ∀ first second,
    (1000000000 ≤ first.nanosecondsUntil second ∨
      first ≤ second ∧ ¬ start.InLeapSecond ∧ ¬ first.InLeapSecond ∧ ¬ second.InLeapSecond) →
        start.unitsUntil unit first ≤ start.unitsUntil unit second

namespace Session

/-- An occasion of a session tells its own fact under its own name. -/
theorem get?_occasion (session : Session) (trigger : Trigger) (field : String) (value : Value) :
    (session.occasion trigger field value).facts.get? field = some value := by
  rw [occasion, Fields.get?_insert, if_pos rfl]

/-- The occasions of a session measure the span from a start of the session to any end. -/
theorem measures (session : Session) (trigger : Trigger) (field : String) (start : Instant) {unit : Nat}
    (long : 60000000000 ≤ unit) :
    Occasion.Measures
      (fun finish => session.occasion trigger field (Value.ofNat (start.unitsUntil unit finish)))
      session.pipeline trigger field start unit where
  fact finish := session.get?_occasion trigger field _
  atLeast engine state store saved count finish someUnits listens := by
    refine listens.judges engine state ?_
    rw [Condition.holds_atLeast_iff (session.get?_occasion trigger field _)
      (Instant.unitsUntil_lt long start finish), Instant.le_unitsUntil_iff (by omega) someUnits]
  below engine state store saved count finish someUnits listens := by
    refine listens.judges engine state ?_
    rw [Condition.holds_below_iff (session.get?_occasion trigger field _)
      (Instant.unitsUntil_lt long start finish), ← Nat.not_le, Instant.le_unitsUntil_iff (by omega) someUnits,
      Int.not_le]
  inRange finish := ⟨start.nanosecondsUntil_bounds finish, Instant.unitsUntil_lt long start finish⟩
  ordinary finish := Instant.nanosecondsUntil_of_ordinary
  backwards finish := Instant.unitsUntil_eq_zero (by omega)
  monotone first second spaced := by
    refine Instant.unitsUntil_mono (by omega) ?_
    rcases spaced with apart | ⟨ordered, ordinary, ordinaryFirst, ordinarySecond⟩
    · exact Instant.nanosecondsUntil_mono_of_apart start apart
    · exact Instant.nanosecondsUntil_mono_of_ordinary ordinary ordinaryFirst ordinarySecond ordered

/-- The length of a session is counted in whole minutes when it ends or is closed, and the silence of its contact in
whole hours. Thresholds on both are exact. -/
theorem thresholds_measure_spans (session : Session) (lastMessageAt : Instant) :
    Occasion.Measures session.ended session.pipeline .sessionEnded "session_duration_minutes" session.startedAt
        60000000000 ∧
      Occasion.Measures session.timedOut session.pipeline .sessionTimeout "session_duration_minutes"
        session.startedAt 60000000000 ∧
      Occasion.Measures (session.noResponse lastMessageAt) session.pipeline .noResponseTimeout
        "hours_since_last_message" lastMessageAt 3600000000000 :=
  ⟨session.measures _ _ _ (by decide), session.measures _ _ _ (by decide), session.measures _ _ _ (by decide)⟩

/-- This session starts in the last minute before a leap second. -/
def lateSession : Session :=
  ⟨"tenant", ⟨9⟩, ⟨3⟩, ⟨4⟩, none, ⟨17166, 86340, 500000000, by decide, by decide, .inl (by decide)⟩, 1⟩

def inLeapSecond : Instant := ⟨17166, 86399, 1500000000, by decide, by decide, .inr (by decide)⟩

def afterLeapSecond : Instant := { Instant.epoch with day := 17167, dayRange := by decide }

def minuteRule : RuleState :=
  ⟨⟨1⟩, .pipelineAutomation, some ⟨9⟩, "tenant", "rule", "", .sessionEnded,
    [⟨"session_duration_minutes", .greaterThanOrEqual, Value.ofNat 1⟩], [], 0, true, .epoch, .epoch⟩

/-- A rule that asks for a minute is met when the session ends in the leap second, just a minute after its start. -/
theorem minuteRule_is_met :
    let store := Store.replay [.save (Rule.ofState minuteRule)]
    let engine : Engine Unit := ⟨fun _ _ outside => (.ok (), outside), none, .inOrder⟩
    minuteRule.Listens store lateSession.pipeline .sessionEnded
        ⟨"session_duration_minutes", .greaterThanOrEqual, Value.ofNat 1⟩ ∧
      ∃ report outcome, (engine.runOccasion store.source (lateSession.ended inLeapSecond) ()).1 = .ok report ∧
        report.outcome? ⟨1⟩ = some outcome ∧ outcome.verdict.met? = some true := by
  intro store engine
  have listens : minuteRule.Listens store lateSession.pipeline .sessionEnded
      ⟨"session_duration_minutes", .greaterThanOrEqual, Value.ofNat 1⟩ :=
    ⟨⟨_, Store.reached_replay _, rfl⟩, rfl, rfl, rfl, rfl⟩
  obtain ⟨report, outcome, holds, reported, isOutcome, verdict, decides⟩ :=
    (thresholds_measure_spans lateSession .epoch).1.atLeast engine () store minuteRule 1 inLeapSecond
      (Nat.le_refl 1) listens
  obtain rfl : holds = true := decides.mpr (by decide)
  exact ⟨listens, report, outcome, reported, isOutcome, verdict⟩

/-- A session that ends after the leap second counts as shorter than one that ends in it. -/
theorem leap_second_shortens_session :
    inLeapSecond < afterLeapSecond ∧
      (lateSession.ended inLeapSecond).facts.get? "session_duration_minutes" = some (Value.ofNat 1) ∧
      (lateSession.ended afterLeapSecond).facts.get? "session_duration_minutes" = some (Value.ofNat 0) :=
  ⟨by decide, rfl, rfl⟩

end Session

end ContactRules
