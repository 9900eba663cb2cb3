/-
This file defines the engine, which runs the actions of rules whose conditions hold.
-/

import ContactRules.Dispatch.Registry
import ContactRules.Engine.Report
import ContactRules.Settings.Basic

namespace ContactRules

/-- The rules of one trigger are run one after the other, or together. Rules that run together take
turns, each of which names a rule by its place. -/
inductive RunMode where
  | inOrder
  | together (turns : List Nat)

/-- The settings say whether rules run together, and the outside says in which turns. -/
def RunMode.ofSettings (settings : EngineSettings) (turns : List Nat) : RunMode :=
  if settings.parallelRules then .together turns else .inOrder

/-- The engine performs an action at once, or hands it off to a scheduler when it has a delay. Without
a scheduler an action with a delay fails. -/
structure Engine (σ : Type) where
  perform : Action → Context → Attempt σ ActionError
  handOff : Option (Action → Context → Attempt σ EngineError)
  mode : RunMode := .inOrder

/-- This stamps a context with the identity of a rule. The caller may name a trigger of its own. -/
def Rule.stamp (rule : Rule) (context : Context) : Context :=
  { context with
    rule := some rule.state.id
    tenant := rule.state.tenant
    pipeline := rule.state.pipeline.or context.pipeline
    trigger := context.trigger.or (some rule.state.trigger) }

namespace Engine

variable {σ : Type}

/-- This performs one action or hands it off. -/
def attempt (engine : Engine σ) (action : Action) (context : Context) : Attempt σ EngineError :=
  fun state =>
    if action.isDelayed then
      match engine.handOff with
      | some handOff => handOff action context state
      | none => (.error .noScheduler, state)
    else
      let (result, state) := engine.perform action context state
      (result.mapError .action, state)

/-- This attempts actions in their order. The first one that fails stops the rest. -/
def runActions (engine : Engine σ) (context : Context) (index : Nat) (tally : Tally) :
    List Action → σ → (Verdict × Tally) × σ
  | [], state => ((.executed, tally), state)
  | action :: rest, state =>
      match engine.attempt action context state with
      | (.ok (), state) => runActions engine context (index + 1) (tally.count action) rest state
      | (.error error, state) => ((.failed index error, tally), state)

/-- This runs a rule, whether it is enabled or not. Nothing is attempted unless its conditions hold. -/
def runRule (engine : Engine σ) (facts : Facts) (context : Context) (rule : Rule) (state : σ) :
    Outcome × σ :=
  if rule.conditionsHold facts then
    let ((verdict, tally), state) :=
      engine.runActions (rule.stamp context) 0 Tally.zero rule.state.actions state
    (⟨rule.state.id, rule.state.name, verdict, tally⟩, state)
  else (Outcome.untouched rule .conditionsNotMet, state)

/-- This runs rules one after the other. A failure in one of them does not concern the others. -/
def runRules (engine : Engine σ) (facts : Facts) (context : Context) :
    List Rule → σ → List Outcome × σ
  | [], state => ([], state)
  | rule :: rest, state =>
      let (outcome, state) := engine.runRule facts context rule state
      let (outcomes, state) := runRules engine facts context rest state
      (outcome :: outcomes, state)

/-- The run of a rule goes on while it has actions left, and ends with an outcome. -/
inductive Progress where
  | running (rule : Rule) (context : Context) (index : Nat) (tally : Tally) (rest : List Action)
  | finished (outcome : Outcome)

/-- A run begins with the conditions of the rule. -/
def begin (facts : Facts) (context : Context) (rule : Rule) : Progress :=
  if rule.conditionsHold facts then
    .running rule (rule.stamp context) 0 Tally.zero rule.state.actions
  else .finished (Outcome.untouched rule .conditionsNotMet)

/-- In its turn a run attempts one action, or ends when it has none left. -/
def advance (engine : Engine σ) : Progress → σ → Progress × σ
  | .finished outcome, state => (.finished outcome, state)
  | .running rule _ _ tally [], state =>
      (.finished ⟨rule.state.id, rule.state.name, .executed, tally⟩, state)
  | .running rule context index tally (action :: rest), state =>
      match engine.attempt action context state with
      | (.ok (), state) => (.running rule context (index + 1) (tally.count action) rest, state)
      | (.error error, state) =>
          (.finished ⟨rule.state.id, rule.state.name, .failed index error, tally⟩, state)

/-- This brings a run to its end. -/
def finish (engine : Engine σ) : Progress → σ → Outcome × σ
  | .finished outcome, state => (outcome, state)
  | .running rule context index tally rest, state =>
      let ((verdict, tally), state) := engine.runActions context index tally rest state
      (⟨rule.state.id, rule.state.name, verdict, tally⟩, state)

def finishAll (engine : Engine σ) : List Progress → σ → List Outcome × σ
  | [], state => ([], state)
  | run :: rest, state =>
      let (outcome, state) := engine.finish run state
      let (outcomes, state) := finishAll engine rest state
      (outcome :: outcomes, state)

/-- Runs take turns. A turn of a run that does not exist is lost. -/
def takeTurns (engine : Engine σ) : List Nat → List Progress → σ → List Progress × σ
  | [], runs, state => (runs, state)
  | turn :: turns, runs, state =>
      match runs[turn]? with
      | some run =>
          let (run, state) := engine.advance run state
          takeTurns engine turns (runs.set turn run) state
      | none => takeTurns engine turns runs state

/-- This runs rules together. What is left after the turns is done in the order of the rules, and so are
the outcomes. -/
def runTogether (engine : Engine σ) (turns : List Nat) (facts : Facts) (context : Context)
    (rules : List Rule) (state : σ) : List Outcome × σ :=
  let (runs, state) := engine.takeTurns turns (rules.map (begin facts context)) state
  engine.finishAll runs state

/-- This runs the enabled rules of a pipeline that listen to a trigger. It fails only when the rules
cannot be read. -/
def runTrigger (engine : Engine σ) (source : RuleSource) (pipeline : Uuid) (trigger : Trigger)
    (facts : Facts) (context : Context) (state : σ) : Except EngineError Report × σ :=
  match source.listening pipeline trigger with
  | .error error => (.error (.store error), state)
  | .ok rules =>
      let enabled := rules.filter fun rule => rule.state.enabled
      let (outcomes, state) :=
        match engine.mode with
        | .inOrder => engine.runRules facts context enabled state
        | .together turns => engine.runTogether turns facts context enabled state
      (.ok ⟨trigger, pipeline, outcomes⟩, state)

/-- This runs one rule, whatever it listens to. A rule that is disabled is skipped. -/
def runById (engine : Engine σ) (source : RuleSource) (id : Uuid) (facts : Facts)
    (context : Context) (state : σ) : Except EngineError Outcome × σ :=
  match source.find id with
  | .error error => (.error (.ofStore id error), state)
  | .ok rule =>
      if rule.state.enabled then
        let (outcome, state) := engine.runRule facts context rule state
        (.ok outcome, state)
      else (.ok (Outcome.untouched rule .skipped), state)

end Engine

end ContactRules
