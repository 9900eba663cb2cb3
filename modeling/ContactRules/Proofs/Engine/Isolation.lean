/-
This file proves that the engine runs each rule of a trigger as if the rule were alone.
-/

import ContactRules.Proofs.Engine.Progress
import ContactRules.Proofs.Store.History

namespace ContactRules

namespace EngineCall

theorem onBehalfOf_append (id : Uuid) (first second : List EngineCall) :
    onBehalfOf id (first ++ second) = onBehalfOf id first ++ onBehalfOf id second :=
  List.filter_append ..

/-- All calls of a rule are made on its own behalf. -/
theorem onBehalfOf_self {owner : Uuid} {calls : List EngineCall}
    (own : ∀ call ∈ calls, call.context.rule = some owner) : onBehalfOf owner calls = calls :=
  List.filter_eq_self.mpr fun call isCall => decide_eq_true (own call isCall)

/-- None of the calls of a rule is made on behalf of another one. -/
theorem onBehalfOf_other {owner id : Uuid} (different : owner ≠ id) {calls : List EngineCall}
    (own : ∀ call ∈ calls, call.context.rule = some owner) : onBehalfOf id calls = [] := by
  apply List.filter_eq_nil_iff.mpr
  intro call isCall
  simpa [own call isCall] using different

/-- No calls are made on behalf of a rule that is not among the callers. -/
theorem onBehalfOf_flatMap_absent {α : Type} {callers : List α} {owner : α → Uuid}
    {calls : α → List EngineCall} {id : Uuid} (absent : id ∉ callers.map owner)
    (own : ∀ caller ∈ callers, ∀ call ∈ calls caller, call.context.rule = some (owner caller)) :
    onBehalfOf id (callers.flatMap calls) = [] := by
  rw [onBehalfOf, List.filter_flatMap, List.flatMap_eq_nil_iff]
  intro caller isCaller
  exact onBehalfOf_other (fun same => absent (List.mem_map.mpr ⟨caller, isCaller, same⟩))
    (own caller isCaller)

/-- When each of several callers calls on its own behalf, one caller that is alone with its identifier makes
all calls on its behalf. -/
theorem onBehalfOf_flatMap {α : Type} {callers : List α} {owner : α → Uuid} {calls : α → List EngineCall}
    (distinct : (callers.map owner).Nodup)
    (own : ∀ caller ∈ callers, ∀ call ∈ calls caller, call.context.rule = some (owner caller))
    {caller : α} (isCaller : caller ∈ callers) :
    onBehalfOf (owner caller) (callers.flatMap calls) = calls caller := by
  induction callers with
  | nil => cases isCaller
  | cons first rest inductionHypothesis =>
      obtain ⟨ownFirst, ownRest⟩ := List.forall_mem_cons.mp own
      obtain ⟨fresh, distinctRest⟩ := List.nodup_cons.mp distinct
      rw [List.flatMap_cons, onBehalfOf_append]
      rcases List.mem_cons.mp isCaller with rfl | below
      · rw [onBehalfOf_self ownFirst, onBehalfOf_flatMap_absent fresh ownRest, List.append_nil]
      · have different : owner first ≠ owner caller := by
          intro same
          exact fresh (same ▸ List.mem_map_of_mem below)
        rw [onBehalfOf_other different ownFirst, List.nil_append]
        exact inductionHypothesis distinctRest ownRest below

end EngineCall

/-- The conditions of the rule did not hold. -/
def Outcome.isUnmet (outcome : Outcome) : Bool :=
  match outcome.verdict with
  | .conditionsNotMet => true
  | _ => false

/-- When no rule was skipped, each one was executed, failed or did not have its conditions met. -/
theorem Report.evaluated_eq {report : Report}
    (considered : ∀ outcome ∈ report.outcomes, outcome.verdict ≠ .skipped) :
    report.executed + report.failures.length + report.outcomes.countP Outcome.isUnmet =
      report.evaluated := by
  obtain ⟨trigger, pipeline, outcomes⟩ := report
  simp only [executed, failures, evaluated, ← List.countP_eq_length_filter] at considered ⊢
  induction outcomes with
  | nil => rfl
  | cons outcome rest inductionHypothesis =>
      obtain ⟨here, below⟩ := List.forall_mem_cons.mp considered
      have counted := inductionHypothesis below
      obtain ⟨rule, name, verdict, tally⟩ := outcome
      simp only [List.countP_cons, List.length_cons]
      cases verdict with
      | skipped => exact absurd rfl here
      | executed | conditionsNotMet | failed =>
          simp only [Outcome.isExecuted, Outcome.isFailed, Outcome.isUnmet, Verdict.isExecuted,
            Verdict.isFailed, Bool.false_eq_true, if_true, if_false]
          omega

namespace Engine

variable {σ τ : Type}

/-- Two engines answer alike to actions in a context, whatever has happened outside. -/
def AnswersAlike (first : Engine σ) (second : Engine τ) (actions : List Action) (context : Context) : Prop :=
  ∀ action ∈ actions, first.reaches action = second.reaches action ∧
    ∀ before after, (first.attempt action context before).1 = (second.attempt action context after).1

namespace AnswersAlike

variable {first : Engine σ} {second : Engine τ} {actions : List Action} {context : Context}

/-- The first attempts of both engines have one answer. -/
theorem exists_answer {action : Action} {rest : List Action}
    (alike : first.AnswersAlike second (action :: rest) context) (before : σ) (after : τ) :
    ∃ answer next otherNext, first.attempt action context before = (answer, next) ∧
      second.attempt action context after = (answer, otherNext) := by
  have same := (alike action List.mem_cons_self).2 before after
  exact ⟨_, _, (second.attempt action context after).2, rfl, Prod.ext same.symm rfl⟩

/-- Engines that answer alike attempt the same actions with the same answers. -/
theorem attempts (alike : first.AnswersAlike second actions context) (before : σ) (after : τ) :
    first.attempts context actions before = second.attempts context actions after := by
  induction actions generalizing before after with
  | nil => rfl
  | cons action rest inductionHypothesis =>
      have below := (List.forall_mem_cons.mp alike).2
      obtain ⟨⟨error⟩ | ⟨⟩, next, otherNext, one, other⟩ := alike.exists_answer before after
      · rw [attempts_cons_error one, attempts_cons_error other]
      · rw [attempts_cons_ok one, attempts_cons_ok other, inductionHypothesis below next otherNext]

/-- Engines that answer alike make the same calls. -/
theorem calls (alike : first.AnswersAlike second actions context) (before : σ) (after : τ) :
    first.calls context actions before = second.calls context actions after := by
  unfold Engine.calls
  rw [← alike.attempts before after]
  apply List.filter_congr
  intro attempt made
  have attempted := (first.attempts_isPrefix context actions before).subset (List.mem_map_of_mem made)
  exact (alike _ attempted).1

/-- Engines that answer alike come to the same verdict and counts. -/
theorem runActions (alike : first.AnswersAlike second actions context) (index : Nat) (tally : Tally)
    (before : σ) (after : τ) :
    (first.runActions context index tally actions before).1 =
      (second.runActions context index tally actions after).1 := by
  induction actions generalizing index tally before after with
  | nil => rfl
  | cons action rest inductionHypothesis =>
      have below := (List.forall_mem_cons.mp alike).2
      obtain ⟨⟨error⟩ | ⟨⟩, next, otherNext, one, other⟩ := alike.exists_answer before after
      · rw [runActions_cons_error one, runActions_cons_error other]
      · rw [runActions_cons_ok one, runActions_cons_ok other]
        exact inductionHypothesis below _ _ next otherNext

end AnswersAlike

/-- An engine is steady when the answer to each call depends on the action and the context only. -/
structure Steady (engine : Engine σ) : Prop where
  perform : ∀ action context before after,
    (engine.perform action context before).1 = (engine.perform action context after).1
  handOff : ∀ handOff, engine.handOff = some handOff → ∀ action context before after,
    (handOff action context before).1 = (handOff action context after).1

/-- These are the calls of a rule that is run alone. -/
def callsOfRule (engine : Engine σ) (facts : Facts) (context : Context) (rule : Rule) (state : σ) :
    List EngineCall :=
  (engine.logged.runRule facts context rule ⟨state, []⟩).2.calls

/-- These are the calls of all rules of a trigger, in the order in which they are made. -/
def callsOfTrigger (engine : Engine σ) (source : RuleSource) (pipeline : Uuid) (trigger : Trigger)
    (facts : Facts) (context : Context) (state : σ) : List EngineCall :=
  (engine.logged.runTrigger source pipeline trigger facts context ⟨state, []⟩).2.calls

/-- These are the calls of the very run that the engine makes without a log. -/
theorem logged_runTrigger_eq (engine : Engine σ) (source : RuleSource) (pipeline : Uuid) (trigger : Trigger)
    (facts : Facts) (context : Context) (state : σ) :
    engine.logged.runTrigger source pipeline trigger facts context ⟨state, []⟩ =
      ((engine.runTrigger source pipeline trigger facts context state).1,
        ⟨(engine.runTrigger source pipeline trigger facts context state).2,
          engine.callsOfTrigger source pipeline trigger facts context state⟩) := by
  obtain ⟨after, ran⟩ := engine.logged_runTrigger source pipeline trigger facts context state []
  rw [callsOfTrigger, ran]

/-- The calls of a rule are those that its run has left when it begins. -/
theorem callsOfRule_eq (engine : Engine σ) (facts : Facts) (context : Context) (rule : Rule) (state : σ) :
    engine.callsOfRule facts context rule state =
      engine.callsLeft (begin facts context rule) state := by
  rw [callsOfRule, logged_runRule, List.nil_append]
  unfold begin
  split <;> rfl

/-- Each call of a rule is made in a context with the identifier of the rule. -/
theorem callsOfRule_rule {engine : Engine σ} {facts : Facts} {context : Context} {rule : Rule} {state : σ}
    {call : EngineCall} (isCall : call ∈ engine.callsOfRule facts context rule state) :
    call.context.rule = some rule.state.id := by
  rw [callsOfRule_eq] at isCall
  have named := callsLeft_rule (begin_ownContext facts context rule) isCall
  rwa [begin_owner] at named

/-- A list falls into the member in a place and what stands before and after it. -/
theorem exists_place {α : Type} {members : List α} {place : Nat} {member : α}
    (found : members[place]? = some member) :
    ∃ front back, members = front ++ member :: back ∧
      ∀ other, members.set place other = front ++ other :: back := by
  induction members generalizing place with
  | nil => cases found
  | cons first rest inductionHypothesis =>
      cases place with
      | zero =>
          obtain rfl := Option.some.inj found
          exact ⟨[], rest, rfl, fun _ => rfl⟩
      | succ place =>
          obtain ⟨front, back, rfl, replaced⟩ := inductionHypothesis found
          exact ⟨first :: front, back, rfl, fun other => congrArg (first :: ·) (replaced other)⟩

/-- What a rule does alone depends only on how its own actions are answered. -/
theorem AnswersAlike.alone {first : Engine σ} {second : Engine τ} {context : Context} {rule : Rule}
    (alike : first.AnswersAlike second rule.state.actions (rule.stamp context)) (facts : Facts)
    (before : σ) (after : τ) :
    (first.runRule facts context rule before).1 = (second.runRule facts context rule after).1 ∧
      first.callsOfRule facts context rule before = second.callsOfRule facts context rule after := by
  simp only [callsOfRule, logged_runRule, alike.calls before after, and_true]
  have same := alike.runActions 0 Tally.zero before after
  unfold runRule
  split
  · simp only [same]
  · rfl

namespace Steady

variable {engine : Engine σ}

/-- A steady engine answers alike at any time. -/
theorem answersAlike (steady : engine.Steady) (actions : List Action) (context : Context) :
    engine.AnswersAlike engine actions context := by
  intro action _
  refine ⟨rfl, fun before after => ?_⟩
  unfold attempt
  split
  · cases scheduler : engine.handOff with
    | none => rfl
    | some handOff => exact steady.handOff handOff scheduler action context before after
  · simp only [steady.perform action context before after]

/-- What a run has left to call does not depend on the state of the outside, if the engine is steady. -/
theorem callsLeft (steady : engine.Steady) (run : Progress) (before after : σ) :
    engine.callsLeft run before = engine.callsLeft run after := by
  cases run with
  | finished outcome => rfl
  | running rule context index tally rest => exact (steady.answersAlike rest context).calls before after

/-- How a run ends does not depend on the state of the outside, if the engine is steady. -/
theorem finish (steady : engine.Steady) (run : Progress) (before after : σ) :
    (engine.finish run before).1 = (engine.finish run after).1 := by
  cases run with
  | finished outcome => rfl
  | running rule context index tally rest =>
      have same := (steady.answersAlike rest context).runActions index tally before after
      simp only [Engine.finish, same]

/-- Runs that are brought to their ends one after the other end and call as each of them does alone. -/
theorem finishAll (steady : engine.Steady) (alone : σ) (runs : List Progress) (state : σ)
    (before : List EngineCall) :
    (engine.logged.finishAll runs ⟨state, before⟩).1 = runs.map (fun run => (engine.finish run alone).1) ∧
      (engine.logged.finishAll runs ⟨state, before⟩).2.calls =
        before ++ runs.flatMap fun run => engine.callsLeft run alone := by
  induction runs generalizing state before with
  | nil => exact ⟨rfl, (List.append_nil before).symm⟩
  | cons run rest inductionHypothesis =>
      obtain ⟨sameOutcomes, sameCalls⟩ := inductionHypothesis (engine.finish run state).2
        (before ++ engine.callsLeft run state)
      simp only [Engine.finishAll, logged_finish]
      rw [sameOutcomes, sameCalls, List.append_assoc, steady.finish run state alone,
        steady.callsLeft run state alone]
      exact ⟨rfl, rfl⟩

/-- A turn moves calls of one run into the log. Rule by rule nothing is added and nothing is lost. -/
theorem onBehalfOf_turn {left : Progress → List EngineCall} {front back : List Progress}
    {run moved : Progress} {before made : List EngineCall}
    (distinct : ((front ++ run :: back).map Progress.owner).Nodup)
    (own : ∀ other ∈ front ++ run :: back, ∀ call ∈ left other, call.context.rule = some other.owner)
    (split : made ++ left moved = left run) (id : Uuid) :
    EngineCall.onBehalfOf id (before ++ made ++ (front ++ moved :: back).flatMap left) =
      EngineCall.onBehalfOf id (before ++ (front ++ run :: back).flatMap left) := by
  obtain ⟨ownFront, ownRun, _⟩ := by
    simpa only [List.forall_mem_append, List.forall_mem_cons] using own
  rw [← split] at ownRun
  obtain ⟨ownMade, ownMoved⟩ := List.forall_mem_append.mp ownRun
  simp only [List.flatMap_append, List.flatMap_cons, EngineCall.onBehalfOf_append, ← split,
    List.append_assoc]
  by_cases same : run.owner = id
  · -- No run before this one has the same owner, so that the calls made now come first.
    have absent : id ∉ front.map Progress.owner := by
      rw [← same]
      intro found
      rw [List.map_append, List.map_cons] at distinct
      exact (List.nodup_append.mp distinct).2.2 _ found _ List.mem_cons_self rfl
    rw [EngineCall.onBehalfOf_flatMap_absent absent ownFront, List.nil_append, List.nil_append]
  · rw [EngineCall.onBehalfOf_other same ownMade, EngineCall.onBehalfOf_other same ownMoved]
    rfl

/-- Turns change neither how the runs end nor, rule by rule, what they call in all. -/
theorem takeTurns (steady : engine.Steady) (alone : σ) (turns : List Nat) (runs : List Progress) (state : σ)
    (before : List EngineCall) (distinct : (runs.map Progress.owner).Nodup)
    (own : ∀ run ∈ runs, run.OwnContext) :
    let (after, final) := engine.logged.takeTurns turns runs ⟨state, before⟩
    after.map (fun run => (engine.finish run alone).1) =
        runs.map (fun run => (engine.finish run alone).1) ∧
      ∀ id, EngineCall.onBehalfOf id
          (final.calls ++ after.flatMap fun run => engine.callsLeft run alone) =
        EngineCall.onBehalfOf id (before ++ runs.flatMap fun run => engine.callsLeft run alone) := by
  induction turns generalizing runs state before with
  | nil => exact ⟨rfl, fun id => rfl⟩
  | cons turn turns inductionHypothesis =>
      rw [Engine.takeTurns]
      cases found : runs[turn]? with
      | none => exact inductionHypothesis runs state before distinct own
      | some run =>
          obtain ⟨front, back, rfl, replaced⟩ := exists_place found
          rcases advanced : engine.advance run state with ⟨next, later⟩
          have turn := turn_iff.mpr advanced
          obtain ⟨made, moved, split⟩ := turn.logged before
          simp only [moved, replaced]
          have sameEnd := congrArg Prod.fst turn.finish
          rw [steady.finish next later alone, steady.finish run state alone] at sameEnd
          rw [steady.callsLeft next later alone, steady.callsLeft run state alone] at split
          have kept : (front ++ next :: back).map Progress.owner =
              (front ++ run :: back).map Progress.owner := by
            simp only [List.map_append, List.map_cons, turn.owner]
          have ownNext : ∀ other ∈ front ++ next :: back, other.OwnContext := by
            simp only [List.forall_mem_append, List.forall_mem_cons] at own ⊢
            exact ⟨own.1, turn.ownContext own.2.1, own.2.2⟩
          obtain ⟨sameOutcomes, sameCalls⟩ := inductionHypothesis (front ++ next :: back) later
            (before ++ made) (kept ▸ distinct) ownNext
          refine ⟨sameOutcomes.trans ?_, fun id => (sameCalls id).trans ?_⟩
          · simp only [List.map_append, List.map_cons, sameEnd]
          · exact onBehalfOf_turn distinct (fun other isRun call => callsLeft_rule (own other isRun)) split id

/-- Rules that run together end and call as each of them does alone, whatever turns they take. -/
theorem runTogether (steady : engine.Steady) (alone : σ) (turns : List Nat) (facts : Facts)
    (context : Context) {rules : List Rule} (distinct : (rules.map fun rule => rule.state.id).Nodup)
    (state : σ) :
    (engine.runTogether turns facts context rules state).1 =
        rules.map (fun rule => (engine.runRule facts context rule alone).1) ∧
      ∀ id, EngineCall.onBehalfOf id
          (engine.logged.runTogether turns facts context rules ⟨state, []⟩).2.calls =
        EngineCall.onBehalfOf id
          (rules.flatMap fun rule => engine.callsOfRule facts context rule alone) := by
  let runs := rules.map (begin facts context)
  have owners : runs.map Progress.owner = rules.map fun rule => rule.state.id := by
    simp only [runs, List.map_map, Function.comp_def, begin_owner]
  have own : ∀ run ∈ runs, run.OwnContext := by
    simp only [runs, List.forall_mem_map, begin_ownContext, implies_true]
  have outcomesAlone : runs.map (fun run => (engine.finish run alone).1) =
      rules.map fun rule => (engine.runRule facts context rule alone).1 := by
    simp only [runs, List.map_map, Function.comp_def, finish_begin]
  have callsAlone : (runs.flatMap fun run => engine.callsLeft run alone) =
      rules.flatMap fun rule => engine.callsOfRule facts context rule alone := by
    simp only [runs, List.flatMap_map, callsOfRule_eq]
  obtain ⟨turnOutcomes, turnCalls⟩ := steady.takeTurns alone turns runs state [] (owners ▸ distinct) own
  obtain ⟨endOutcomes, endCalls⟩ := steady.finishAll alone
    (engine.logged.takeTurns turns runs ⟨state, []⟩).1
    (engine.logged.takeTurns turns runs ⟨state, []⟩).2.outside
    (engine.logged.takeTurns turns runs ⟨state, []⟩).2.calls
  obtain ⟨after, same⟩ := engine.logged_runTogether turns facts context rules state []
  refine ⟨?_, fun id => ?_⟩
  · have outcomes := congrArg Prod.fst same
    rw [← outcomesAlone, ← turnOutcomes, ← endOutcomes]
    exact outcomes.symm
  · rw [← callsAlone, ← List.nil_append (runs.flatMap _), ← turnCalls id, ← endCalls]
    rfl

end Steady

/-- This is the outcome that the report of a trigger has for a rule. -/
def outcomeOfTrigger (engine : Engine σ) (source : RuleSource) (pipeline : Uuid) (trigger : Trigger)
    (facts : Facts) (context : Context) (state : σ) (id : Uuid) : Option Outcome :=
  (engine.runTrigger source pipeline trigger facts context state).1.toOption.bind fun report =>
    report.outcome? id

/-- A run of actions is never skipped. -/
theorem runActions_not_skipped (engine : Engine σ) (context : Context) (index : Nat) (tally : Tally)
    (actions : List Action) (state : σ) :
    (engine.runActions context index tally actions state).1.1 ≠ .skipped := by
  induction actions generalizing index tally state with
  | nil => simp [runActions]
  | cons action rest inductionHypothesis =>
      rcases answered : engine.attempt action context state with ⟨⟨error⟩ | ⟨⟩, next⟩
      · simp [runActions_cons_error answered]
      · rw [runActions_cons_ok answered]
        exact inductionHypothesis _ _ next

/-- A rule that is run is never skipped. Only a rule that is asked for and disabled is. -/
theorem runRule_not_skipped (engine : Engine σ) (facts : Facts) (context : Context) (rule : Rule)
    (state : σ) : (engine.runRule facts context rule state).1.verdict ≠ .skipped := by
  unfold runRule
  split
  · exact engine.runActions_not_skipped (rule.stamp context) 0 Tally.zero rule.state.actions state
  · simp [Outcome.untouched]

section Stored

variable {engine : Engine σ} {history : List StoreStep} {store : Store} {pipeline : Uuid} {trigger : Trigger}

/-- The report of a trigger has what each enabled listener does alone, and so has the log. -/
theorem Steady.runTrigger (steady : engine.Steady) (alone : σ) (store : Store) (pipeline : Uuid)
    (trigger : Trigger) (facts : Facts) (context : Context) (state : σ) :
    (engine.runTrigger store.source pipeline trigger facts context state).1 =
        .ok ⟨trigger, pipeline, (store.enabledListeners pipeline trigger).map fun rule =>
          (engine.runRule facts context rule alone).1⟩ ∧
      ∀ id, EngineCall.onBehalfOf id
          (engine.callsOfTrigger store.source pipeline trigger facts context state) =
        EngineCall.onBehalfOf id ((store.enabledListeners pipeline trigger).flatMap fun rule =>
          engine.callsOfRule facts context rule alone) := by
  have listed : store.source.listening pipeline trigger = .ok (store.listening pipeline trigger) := rfl
  obtain ⟨sameOutcomes, sameCalls⟩ := steady.runTogether alone engine.turns facts context
    (store.enabledListeners_distinct pipeline trigger) state
  have sameTurns : engine.logged.turns = engine.turns := rfl
  rw [callsOfTrigger, runTrigger_listening _ listed, runTrigger_listening _ listed, sameTurns]
  rw [← sameOutcomes]
  exact ⟨rfl, sameCalls⟩

/-- For one rule the report and the log tell what the rule does alone, if it is an enabled listener. -/
theorem Steady.runTrigger_rule (steady : engine.Steady) (alone : σ) (store : Store) (pipeline : Uuid)
    (trigger : Trigger) (facts : Facts) (context : Context) (state : σ) (id : Uuid) :
    let listener := (store.enabledListeners pipeline trigger).find? fun rule => rule.state.id = id
    engine.outcomeOfTrigger store.source pipeline trigger facts context state id =
        listener.map (fun rule => (engine.runRule facts context rule alone).1) ∧
      EngineCall.onBehalfOf id
          (engine.callsOfTrigger store.source pipeline trigger facts context state) =
        (listener.map fun rule => engine.callsOfRule facts context rule alone).getD [] := by
  obtain ⟨report, calls⟩ := steady.runTrigger alone store pipeline trigger facts context state
  refine ⟨?_, (calls id).trans ?_⟩
  · rw [outcomeOfTrigger, report]
    simp only [Except.toOption, Option.bind_some, Report.outcome?, List.find?_map, Function.comp_def,
      runRule_rule]
  · cases found : (store.enabledListeners pipeline trigger).find? fun rule => rule.state.id = id with
    | none =>
        refine EngineCall.onBehalfOf_flatMap_absent ?_ fun _ _ _ isCall => callsOfRule_rule isCall
        rw [List.mem_map]
        rintro ⟨rule, isListener, named⟩
        exact List.find?_eq_none.mp found rule isListener (decide_eq_true named)
    | some rule =>
        have passed := List.find?_some found
        obtain rfl : rule.state.id = id := of_decide_eq_true passed
        exact EngineCall.onBehalfOf_flatMap (store.enabledListeners_distinct pipeline trigger)
          (fun _ _ _ isCall => callsOfRule_rule isCall) (List.mem_of_find?_eq_some found)

/-- In two stores that keep the same state of a rule, engines that answer to its actions alike report the
same outcome of the rule and make the same calls for it. -/
theorem Steady.runTrigger_elsewhere {other : Engine τ} (steady : engine.Steady)
    (otherSteady : other.Steady) (reached : Store.Reached history store) {otherHistory : List StoreStep}
    {otherStore : Store} (otherReached : Store.Reached otherHistory otherStore) {saved : RuleState}
    (isSaved : lastSaved history saved.id = some saved)
    (isSavedThere : lastSaved otherHistory saved.id = some saved) (pipeline : Uuid) (trigger : Trigger)
    (facts : Facts) {context : Context} {rule : Rule} (isRule : rule = Rule.ofState saved)
    (alike : engine.AnswersAlike other rule.state.actions (rule.stamp context)) (state : σ)
    (otherState : τ) :
    engine.outcomeOfTrigger store.source pipeline trigger facts context state saved.id =
        other.outcomeOfTrigger otherStore.source pipeline trigger facts context otherState saved.id ∧
      EngineCall.onBehalfOf saved.id
          (engine.callsOfTrigger store.source pipeline trigger facts context state) =
        EngineCall.onBehalfOf saved.id
          (other.callsOfTrigger otherStore.source pipeline trigger facts context otherState) := by
  have here := steady.runTrigger_rule state store pipeline trigger facts context state saved.id
  have there := otherSteady.runTrigger_rule otherState otherStore pipeline trigger facts context
    otherState saved.id
  obtain ⟨sameOutcome, sameCalls⟩ := alike.alone facts state otherState
  rw [Store.find?_enabledListeners reached, isSaved] at here
  rw [Store.find?_enabledListeners otherReached, isSavedThere] at there
  rw [here.1, here.2, there.1, there.2, Option.filter_some]
  split
  · simp only [Option.map_some, ← isRule, sameOutcome, sameCalls, and_self]
  · exact ⟨rfl, rfl⟩

/-- The report of a trigger has one outcome for each rule whose last saved state is enabled and listens to
the trigger. The outcomes stand in the order of the store and are, like the calls, those of each rule alone.
They do not depend on the other rules, on their failures or on the turns. When the rules cannot be
read, nothing is called. -/
theorem runTrigger_isolates_rules (steady : engine.Steady) (reached : Store.Reached history store)
    (pipeline : Uuid) (trigger : Trigger) (facts : Facts) (context : Context) (state : σ) :
    engine.logged.runTrigger store.source pipeline trigger facts context ⟨state, []⟩ =
      ((engine.runTrigger store.source pipeline trigger facts context state).1,
        ⟨(engine.runTrigger store.source pipeline trigger facts context state).2,
          engine.callsOfTrigger store.source pipeline trigger facts context state⟩) ∧
    (∃ report, (engine.runTrigger store.source pipeline trigger facts context state).1 = .ok report ∧
      report.trigger = trigger ∧ report.pipeline = pipeline ∧
      (∀ alone, report.outcomes = (store.enabledListeners pipeline trigger).map fun rule =>
        (engine.runRule facts context rule alone).1) ∧
      (report.outcomes.map Outcome.rule).Nodup ∧
      (∀ id, id ∈ report.outcomes.map Outcome.rule ↔ ∃ saved, lastSaved history id = some saved ∧
        saved.enabled = true ∧ saved.pipeline = some pipeline ∧ saved.trigger = trigger) ∧
      report.evaluated = report.outcomes.length ∧
      report.executed + report.failures.length + report.outcomes.countP Outcome.isUnmet =
        report.evaluated ∧
      ∀ outcome ∈ report.outcomes, outcome.verdict ≠ .skipped) ∧
    (∀ rule ∈ store.enabledListeners pipeline trigger, ∀ alone,
      EngineCall.onBehalfOf rule.state.id
          (engine.callsOfTrigger store.source pipeline trigger facts context state) =
        engine.callsOfRule facts context rule alone) ∧
    (∀ {τ : Type} (other : Engine τ) (otherHistory : List StoreStep) (otherStore : Store)
      (otherState : τ) (saved : RuleState), other.Steady → Store.Reached otherHistory otherStore →
      lastSaved history saved.id = some saved → lastSaved otherHistory saved.id = some saved →
      engine.AnswersAlike other saved.actions ((Rule.ofState saved).stamp context) →
      engine.outcomeOfTrigger store.source pipeline trigger facts context state saved.id =
          other.outcomeOfTrigger otherStore.source pipeline trigger facts context otherState saved.id ∧
        EngineCall.onBehalfOf saved.id
            (engine.callsOfTrigger store.source pipeline trigger facts context state) =
          EngineCall.onBehalfOf saved.id
            (other.callsOfTrigger otherStore.source pipeline trigger facts context otherState)) ∧
    ∀ (source : RuleSource) (error : StoreError), source.listening pipeline trigger = .error error →
      engine.runTrigger source pipeline trigger facts context state = (.error (.store error), state) ∧
        engine.callsOfTrigger source pipeline trigger facts context state = [] := by
  have considered : ∀ outcome ∈ (store.enabledListeners pipeline trigger).map (fun rule =>
      (engine.runRule facts context rule state).1), outcome.verdict ≠ .skipped := by
    rw [List.forall_mem_map]
    exact fun rule _ => engine.runRule_not_skipped facts context rule state
  have named : ((store.enabledListeners pipeline trigger).map fun rule =>
      (engine.runRule facts context rule state).1).map Outcome.rule =
        (store.enabledListeners pipeline trigger).map fun rule => rule.state.id := by
    simp only [List.map_map, Function.comp_def, runRule_rule]
  have steadyRun := steady.runTrigger state store pipeline trigger facts context state
  refine ⟨engine.logged_runTrigger_eq .., ⟨_, steadyRun.1, rfl, rfl, ?_, ?_, ?_, rfl,
    Report.evaluated_eq considered, considered⟩, ?_, ?_, ?_⟩
  · intro alone
    apply List.map_congr_left
    intro rule _
    exact ((steady.answersAlike rule.state.actions (rule.stamp context)).alone facts state alone).1
  · rw [named]
    exact store.enabledListeners_distinct pipeline trigger
  · intro id
    rw [named]
    exact Store.mem_map_enabledListeners reached
  · intro rule isListener alone
    rw [(steady.runTrigger alone store pipeline trigger facts context state).2]
    exact EngineCall.onBehalfOf_flatMap (store.enabledListeners_distinct pipeline trigger)
      (fun _ _ _ isCall => callsOfRule_rule isCall) isListener
  · intro τ other otherHistory otherStore otherState saved otherSteady otherReached isSaved isSavedThere
      alike
    exact steady.runTrigger_elsewhere otherSteady reached otherReached isSaved isSavedThere pipeline trigger
      facts rfl alike state otherState
  · intro source error unread
    exact ⟨by simp only [Engine.runTrigger, unread], by simp only [callsOfTrigger, Engine.runTrigger, unread]⟩

end Stored

/-- This engine lets rules take turns. Its collaborator counts the actions and refuses to add tags. -/
def tagRefuser : Engine Nat where
  perform action _ asked :=
    (if action.kind = .addTag then .error (.noHandler .addTag) else .ok (), asked + 1)
  handOff := none
  mode := .together [1, 0, 1]

theorem tagRefuser_steady : tagRefuser.Steady where
  perform _ _ _ _ := rfl
  handOff _ isSome := nomatch isSome

/-- A rule of one pipeline that listens to new tags. -/
def tagListener (id : Uuid) (kind : ActionKind) : RuleState :=
  ⟨id, .pipelineAutomation, some ⟨9⟩, "tenant", "rule", "", .tagAdded, [], [.ofKind kind, .ofKind .sendWebhook],
    0, true, .epoch, .epoch⟩

/-- The first rule of this history fails, the second one does not, and the third one is deleted. -/
def tagHistory : List StoreStep :=
  [.save (.ofState (tagListener ⟨1⟩ .addTag)), .save (.ofState (tagListener ⟨2⟩ .sendWebhook)),
    .save (.ofState (tagListener ⟨3⟩ .sendWebhook)), .delete ⟨3⟩]

/-- The rule that does not fail is as it is alone in a store, where the rules are run in order. -/
theorem tagRefuser_isolates :
    (∃ report, (tagRefuser.runTrigger (Store.replay tagHistory).source ⟨9⟩ .tagAdded Fields.empty
        (.ofTenant "tenant") 0).1 = .ok report ∧
      ⟨1⟩ ∈ report.outcomes.map Outcome.rule ∧ ⟨2⟩ ∈ report.outcomes.map Outcome.rule ∧
      ⟨3⟩ ∉ report.outcomes.map Outcome.rule) ∧
    tagRefuser.outcomeOfTrigger (Store.replay tagHistory).source ⟨9⟩ .tagAdded Fields.empty
        (.ofTenant "tenant") 0 ⟨2⟩ =
      { tagRefuser with mode := .inOrder }.outcomeOfTrigger
        (Store.replay [.save (.ofState (tagListener ⟨2⟩ .sendWebhook))]).source ⟨9⟩ .tagAdded Fields.empty
        (.ofTenant "tenant") 5 ⟨2⟩ := by
  obtain ⟨_, ⟨report, isReport, _, _, _, _, listed, _⟩, _, elsewhere, _⟩ :=
    runTrigger_isolates_rules tagRefuser_steady (Store.reached_replay tagHistory) ⟨9⟩ .tagAdded
      Fields.empty (.ofTenant "tenant") 0
  refine ⟨⟨report, isReport, (listed ⟨1⟩).mpr ⟨_, rfl, rfl, rfl, rfl⟩,
    (listed ⟨2⟩).mpr ⟨_, rfl, rfl, rfl, rfl⟩, fun found => ?_⟩, ?_⟩
  · obtain ⟨saved, isSaved, _⟩ := (listed ⟨3⟩).mp found
    cases isSaved
  · exact (elsewhere { tagRefuser with mode := .inOrder } _ _ 5 (tagListener ⟨2⟩ .sendWebhook)
      ⟨tagRefuser_steady.perform, tagRefuser_steady.handOff⟩ (Store.reached_replay _) rfl rfl
      (tagRefuser_steady.answersAlike _ _)).1

end Engine

end ContactRules
