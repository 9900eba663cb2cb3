/-
This file proves that the conditions of a rule alone decide whether a report calls them met.
-/

import ContactRules.Proofs.Engine.Isolation

namespace ContactRules

/-- A verdict says whether the conditions of a rule were met, unless the rule was skipped. -/
def Verdict.met? : Verdict → Option Bool
  | executed => some true
  | conditionsNotMet => some false
  | skipped => none
  | failed _ _ => some true

/-- This is the rule of an outcome, and whether its conditions were met. -/
def Outcome.judgement (outcome : Outcome) : Uuid × Option Bool :=
  (outcome.rule, outcome.verdict.met?)

namespace Engine

variable {σ : Type} {engine : Engine σ}

/-- A run that has begun with actions is the run of a rule whose conditions were met. -/
def Progress.judgement : Progress → Uuid × Option Bool
  | running rule _ _ _ _ => (rule.state.id, some true)
  | finished outcome => outcome.judgement

/-- What is said of the conditions is settled when a run begins. -/
theorem begin_judgement (facts : Facts) (context : Context) (rule : Rule) :
    (begin facts context rule).judgement = (rule.state.id, some (rule.conditionsHold facts)) := by
  unfold begin
  cases rule.conditionsHold facts <;> rfl

/-- A turn does not change what is said of the conditions. -/
theorem Turn.judgement {run next : Progress} {state after : σ} (turn : engine.Turn run state next after) :
    next.judgement = run.judgement := by
  cases turn <;> rfl

/-- Actions are attempted only where the conditions hold, whatever becomes of them. -/
theorem runActions_met (context : Context) (index : Nat) (tally : Tally) (actions : List Action) (state : σ) :
    (engine.runActions context index tally actions state).1.1.met? = some true := by
  induction actions generalizing index tally state with
  | nil => rfl
  | cons action rest inductionHypothesis =>
      rcases answered : engine.attempt action context state with ⟨⟨error⟩ | ⟨⟩, next⟩
      · rw [runActions_cons_error answered]
        rfl
      · rw [runActions_cons_ok answered]
        exact inductionHypothesis _ _ next

/-- The outcome says of the conditions what the run has said. -/
theorem finish_judgement (run : Progress) (state : σ) :
    (engine.finish run state).1.judgement = run.judgement := by
  cases run with
  | finished outcome => rfl
  | running rule context index tally rest =>
      simp only [finish, Outcome.judgement, runActions_met, Progress.judgement]

/-- Turns do not change what is said of the conditions. -/
theorem takeTurns_judgement (turns : List Nat) (runs : List Progress) (state : σ) :
    (engine.takeTurns turns runs state).1.map Progress.judgement = runs.map Progress.judgement := by
  induction turns generalizing runs state with
  | nil => rfl
  | cons turn turns inductionHypothesis =>
      rw [takeTurns]
      cases found : runs[turn]? with
      | none => exact inductionHypothesis runs state
      | some run =>
          obtain ⟨front, back, rfl, replaced⟩ := exists_place found
          rcases advanced : engine.advance run state with ⟨next, later⟩
          simp only [advanced, replaced]
          rw [inductionHypothesis]
          simp only [List.map_append, List.map_cons, (turn_iff.mpr advanced).judgement]

/-- So do the outcomes of runs that are finished one after the other. -/
theorem finishAll_judgement (runs : List Progress) (state : σ) :
    (engine.finishAll runs state).1.map Outcome.judgement = runs.map Progress.judgement := by
  induction runs generalizing state with
  | nil => rfl
  | cons run rest inductionHypothesis =>
      simp only [finishAll, List.map_cons, finish_judgement, inductionHypothesis]

/-- Rules that run together are judged by their own conditions, whatever turns they take and however their actions
are answered. -/
theorem runTogether_judgement (turns : List Nat) (facts : Facts) (context : Context) (rules : List Rule)
    (state : σ) :
    (engine.runTogether turns facts context rules state).1.map Outcome.judgement =
      rules.map fun rule => (rule.state.id, some (rule.conditionsHold facts)) := by
  simp only [runTogether, finishAll_judgement, takeTurns_judgement, List.map_map, Function.comp_def,
    begin_judgement]

/-- A rule that was saved last, is enabled and listens is judged by its conditions. -/
theorem exists_verdict (engine : Engine σ) {history : List StoreStep} {store : Store}
    (reached : store.Reached history) {saved : RuleState} (isSaved : lastSaved history saved.id = some saved)
    (enabled : saved.enabled = true) {pipeline : Uuid} (ofPipeline : saved.pipeline = some pipeline)
    (facts : Facts) (context : Context) (state : σ) :
    ∃ report outcome,
      (engine.runTrigger store.source pipeline saved.trigger facts context state).1 = .ok report ∧
        report.outcome? saved.id = some outcome ∧
        outcome.verdict.met? = some (Condition.allHold saved.conditions facts) := by
  have listed : store.source.listening pipeline saved.trigger = .ok (store.listening pipeline saved.trigger) := rfl
  have found : (store.enabledListeners pipeline saved.trigger).find? (fun rule => rule.state.id = saved.id) =
      some (Rule.ofState saved) := by
    rw [Store.find?_saved_listener reached isSaved ofPipeline, if_pos enabled]
  have judged := congrArg (List.find? fun judgement => judgement.1 = saved.id)
    (engine.runTogether_judgement engine.turns facts context (store.enabledListeners pipeline saved.trigger) state)
  simp only [List.find?_map, Function.comp_def, found, Option.map_some] at judged
  obtain ⟨outcome, isOutcome, judgement⟩ := Option.map_eq_some_iff.mp judged
  refine ⟨⟨saved.trigger, pipeline, _⟩, outcome, ?_, isOutcome, congrArg Prod.snd judgement⟩
  rw [runTrigger_listening _ listed]
  rfl

end Engine

end ContactRules
