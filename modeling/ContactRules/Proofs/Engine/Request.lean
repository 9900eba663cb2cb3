/-
This file proves that a rule that is asked for runs as it does when its trigger fires.
-/

import ContactRules.Proofs.Engine.Isolation
import ContactRules.Proofs.Store.Listing

namespace ContactRules

namespace Store

variable {history : List StoreStep} {store : Store} {id : Uuid}

/-- A store finds the rule whose state was saved last. -/
theorem Reached.find_saved (reached : Reached history store) {saved : RuleState}
    (isSaved : lastSaved history id = some saved) : store.source.find id = .ok (Rule.ofState saved) := by
  refine (reached.find id).trans ?_
  rw [isSaved]

/-- A rule that was never saved, or deleted since, is not found. -/
theorem Reached.find_unsaved (reached : Reached history store) (unsaved : lastSaved history id = none) :
    store.source.find id = .error (.notFound id) := by
  refine (reached.find id).trans ?_
  rw [unsaved]

end Store

namespace Engine

variable {σ : Type}

/-- These are the calls that the engine makes when it is asked for one rule. -/
def callsOfRequest (engine : Engine σ) (source : RuleSource) (id : Uuid) (facts : Facts) (context : Context)
    (state : σ) : List EngineCall :=
  (engine.logged.runById source id facts context ⟨state, []⟩).2.calls

section Cases

variable {source : RuleSource} {id : Uuid}

/-- A rule that cannot be read is not run, and the reason is told. -/
theorem runById_unread (engine : Engine σ) {error : StoreError} (unread : source.find id = .error error)
    (facts : Facts) (context : Context) (state : σ) :
    engine.runById source id facts context state = (.error (.ofStore id error), state) := by
  simp only [runById, unread]

/-- A rule that is disabled is skipped, and nothing happens outside. -/
theorem runById_disabled (engine : Engine σ) {rule : Rule} (found : source.find id = .ok rule)
    (disabled : rule.state.enabled = false) (facts : Facts) (context : Context) (state : σ) :
    engine.runById source id facts context state = (.ok (Outcome.untouched rule .skipped), state) := by
  simp only [runById, found, disabled, Bool.false_eq_true, if_false]

/-- A rule that is enabled is run, whatever it listens to. -/
theorem runById_enabled (engine : Engine σ) {rule : Rule} (found : source.find id = .ok rule)
    (enabled : rule.state.enabled = true) (facts : Facts) (context : Context) (state : σ) :
    engine.runById source id facts context state =
      (.ok (engine.runRule facts context rule state).1, (engine.runRule facts context rule state).2) := by
  simp only [runById, found, enabled, if_true]

/-- Nobody is called for a rule that cannot be read. -/
theorem callsOfRequest_unread (engine : Engine σ) {error : StoreError} (unread : source.find id = .error error)
    (facts : Facts) (context : Context) (state : σ) :
    engine.callsOfRequest source id facts context state = [] := by
  rw [callsOfRequest, engine.logged.runById_unread unread]

/-- Nobody is called for a rule that is disabled. -/
theorem callsOfRequest_disabled (engine : Engine σ) {rule : Rule} (found : source.find id = .ok rule)
    (disabled : rule.state.enabled = false) (facts : Facts) (context : Context) (state : σ) :
    engine.callsOfRequest source id facts context state = [] := by
  rw [callsOfRequest, engine.logged.runById_disabled found disabled]

/-- The calls for a rule that is asked for are those of the rule. -/
theorem callsOfRequest_enabled (engine : Engine σ) {rule : Rule} (found : source.find id = .ok rule)
    (enabled : rule.state.enabled = true) (facts : Facts) (context : Context) (state : σ) :
    engine.callsOfRequest source id facts context state = engine.callsOfRule facts context rule state := by
  rw [callsOfRequest, engine.logged.runById_enabled found enabled, callsOfRule]

end Cases

/-- These are the calls of the very run that the engine makes without a log. -/
theorem logged_runById (engine : Engine σ) (source : RuleSource) (id : Uuid) (facts : Facts) (context : Context)
    (state : σ) :
    engine.logged.runById source id facts context ⟨state, []⟩ =
      ((engine.runById source id facts context state).1,
        ⟨(engine.runById source id facts context state).2,
          engine.callsOfRequest source id facts context state⟩) := by
  cases found : source.find id with
  | error error =>
      rw [callsOfRequest_unread _ found, runById_unread _ found, runById_unread _ found]
  | ok rule =>
      cases enabled : rule.state.enabled with
      | false =>
          rw [callsOfRequest_disabled _ found enabled, runById_disabled _ found enabled,
            runById_disabled _ found enabled]
      | true =>
          rw [callsOfRequest_enabled _ found enabled, runById_enabled _ found enabled,
            runById_enabled _ found enabled, callsOfRule, logged_runRule]

section Stored

variable {engine : Engine σ} {history : List StoreStep} {store : Store}

/-- The report of a trigger and its log have for a saved rule what the rule does alone, if it is enabled. -/
theorem Steady.exists_report (steady : engine.Steady) (reached : Store.Reached history store)
    {saved : RuleState} (isSaved : lastSaved history saved.id = some saved) {pipeline : Uuid}
    (ofPipeline : saved.pipeline = some pipeline) (facts : Facts) (context : Context) (state alone : σ) :
    ∃ report, (engine.runTrigger store.source pipeline saved.trigger facts context state).1 = .ok report ∧
      report.outcome? saved.id = (if saved.enabled then
        some (engine.runRule facts context (Rule.ofState saved) alone).1 else none) ∧
      EngineCall.onBehalfOf saved.id
          (engine.callsOfTrigger store.source pipeline saved.trigger facts context state) =
        if saved.enabled then engine.callsOfRule facts context (Rule.ofState saved) alone else [] := by
  have isReport := (steady.runTrigger alone store pipeline saved.trigger facts context state).1
  obtain ⟨outcome, calls⟩ := steady.runTrigger_rule alone store pipeline saved.trigger facts context state saved.id
  rw [outcomeOfTrigger, isReport] at outcome
  refine ⟨_, isReport, Eq.trans outcome ?_, calls.trans ?_⟩
  · rw [Store.find?_saved_listener reached isSaved ofPipeline]
    split <;> rfl
  · rw [Store.find?_saved_listener reached isSaved ofPipeline]
    split <;> rfl

/-- A rule that is asked for has the outcome and makes the calls that it has in the report of its own pipeline and
trigger, whenever either is run. A disabled rule is skipped, and the report has nothing of it. Nobody is
called when the rule cannot be read, and a rule that is not stored is told apart from a store that
fails. -/
theorem requested_run_agrees_with_trigger (steady : engine.Steady) (reached : Store.Reached history store)
    (facts : Facts) (context : Context) (state later : σ) :
    (∀ source id, engine.logged.runById source id facts context ⟨later, []⟩ =
      ((engine.runById source id facts context later).1,
        ⟨(engine.runById source id facts context later).2,
          engine.callsOfRequest source id facts context later⟩)) ∧
    (∀ saved pipeline, lastSaved history saved.id = some saved → saved.pipeline = some pipeline →
      ∃ report, (engine.runTrigger store.source pipeline saved.trigger facts context state).1 = .ok report ∧
        (saved.enabled = true → ∃ outcome,
          (engine.runById store.source saved.id facts context later).1 = .ok outcome ∧
            report.outcome? saved.id = some outcome ∧
            engine.callsOfRequest store.source saved.id facts context later =
              EngineCall.onBehalfOf saved.id
                (engine.callsOfTrigger store.source pipeline saved.trigger facts context state)) ∧
        (saved.enabled = false →
          engine.runById store.source saved.id facts context later =
              (.ok ⟨saved.id, saved.name, .skipped, ⟨0, 0⟩⟩, later) ∧
            engine.callsOfRequest store.source saved.id facts context later = [] ∧
            report.outcome? saved.id = none ∧
            EngineCall.onBehalfOf saved.id
              (engine.callsOfTrigger store.source pipeline saved.trigger facts context state) = [])) ∧
    (∀ id, lastSaved history id = none →
      engine.runById store.source id facts context later = (.error (.ruleNotFound id), later) ∧
        engine.callsOfRequest store.source id facts context later = []) ∧
    ∀ (source : RuleSource) (id : Uuid) (error : StoreError), source.find id = .error error →
      engine.runById source id facts context later =
          (.error (if error.isNotFound then .ruleNotFound id else .store error), later) ∧
        engine.callsOfRequest source id facts context later = [] := by
  refine ⟨fun source id => engine.logged_runById source id facts context later, ?_, ?_, ?_⟩
  · intro saved pipeline isSaved ofPipeline
    have found := reached.find_saved isSaved
    obtain ⟨report, isReport, outcome, calls⟩ :=
      steady.exists_report reached isSaved ofPipeline facts context state later
    refine ⟨report, isReport, fun enabled => ?_, fun disabled => ?_⟩
    · rw [if_pos enabled] at outcome calls
      refine ⟨_, ?_, outcome, ?_⟩
      · rw [runById_enabled _ found enabled]
      · rw [callsOfRequest_enabled _ found enabled, calls]
    · have isDisabled : ¬saved.enabled = true := Bool.eq_false_iff.mp disabled
      rw [if_neg isDisabled] at outcome calls
      exact ⟨runById_disabled _ found disabled facts context later,
        callsOfRequest_disabled _ found disabled facts context later, outcome, calls⟩
  · intro id unsaved
    have unread := reached.find_unsaved unsaved
    exact ⟨runById_unread _ unread facts context later, callsOfRequest_unread _ unread facts context later⟩
  · intro source id error unread
    exact ⟨runById_unread _ unread facts context later, callsOfRequest_unread _ unread facts context later⟩

/-- The first rule of this history fails, the second one is disabled, and the third one is deleted. -/
def requestHistory : List StoreStep :=
  [.save (.ofState (tagListener ⟨1⟩ .addTag)),
    .save (.ofState { tagListener ⟨2⟩ .sendWebhook with enabled := false }),
    .save (.ofState (tagListener ⟨3⟩ .sendWebhook)), .delete ⟨3⟩]

/-- The rule that fails does so too when it is asked for. The disabled rule is skipped, and the deleted one is not
found. -/
theorem tagRefuser_answers_requests :
    let store := Store.replay requestHistory
    let context := Context.ofTenant "tenant"
    (∃ report outcome,
      (tagRefuser.runTrigger store.source ⟨9⟩ .tagAdded Fields.empty context 0).1 = .ok report ∧
        (tagRefuser.runById store.source ⟨1⟩ Fields.empty context 7).1 = .ok outcome ∧
        report.outcome? ⟨1⟩ = some outcome ∧ outcome.isFailed = true ∧ report.outcome? ⟨2⟩ = none) ∧
    tagRefuser.runById store.source ⟨2⟩ Fields.empty context 7 = (.ok ⟨⟨2⟩, "rule", .skipped, ⟨0, 0⟩⟩, 7) ∧
    tagRefuser.runById store.source ⟨3⟩ Fields.empty context 7 = (.error (.ruleNotFound ⟨3⟩), 7) := by
  obtain ⟨_, saved, unsaved, _⟩ := requested_run_agrees_with_trigger tagRefuser_steady
    (Store.reached_replay requestHistory) Fields.empty (.ofTenant "tenant") 0 7
  obtain ⟨report, isReport, agrees, _⟩ := saved (tagListener ⟨1⟩ .addTag) ⟨9⟩ rfl rfl
  obtain ⟨outcome, isOutcome, reported, _⟩ := agrees rfl
  obtain ⟨sameReport, isSameReport, _, skips⟩ :=
    saved { tagListener ⟨2⟩ .sendWebhook with enabled := false } ⟨9⟩ rfl rfl
  obtain ⟨skipped, _, unreported, _⟩ := skips rfl
  obtain rfl := Except.ok.inj (isReport.symm.trans isSameReport)
  have failed : outcome.isFailed = true := by
    obtain rfl := Except.ok.inj isOutcome
    rfl
  exact ⟨⟨report, outcome, isReport, isOutcome, reported, failed, unreported⟩, skipped, (unsaved ⟨3⟩ rfl).1⟩

end Stored

end Engine

end ContactRules
