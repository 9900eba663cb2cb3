/-
This file proves what a turn of one run does and how a log grows while many runs take turns.
-/

import ContactRules.Proofs.Engine.Log

namespace ContactRules.Engine

variable {σ : Type}

/-- This is the rule that a run belongs to. -/
def Progress.owner : Progress → Uuid
  | running rule _ _ _ _ => rule.state.id
  | finished outcome => outcome.rule

/-- A run attempts actions in a context that names its own rule. -/
def Progress.OwnContext : Progress → Prop
  | running rule context _ _ _ => context.rule = some rule.state.id
  | finished _ => True

/-- These are the calls that a run still makes until its end. -/
def callsLeft (engine : Engine σ) : Progress → σ → List EngineCall
  | .running _ context _ _ rest, state => engine.calls context rest state
  | .finished _, _ => []

/-- A run that begins belongs to its rule. -/
theorem begin_owner (facts : Facts) (context : Context) (rule : Rule) :
    (begin facts context rule).owner = rule.state.id := by
  unfold begin
  split <;> rfl

/-- A run that begins is made in a context that its own rule has stamped. -/
theorem begin_ownContext (facts : Facts) (context : Context) (rule : Rule) :
    (begin facts context rule).OwnContext := by
  unfold begin
  split
  · exact rfl
  · trivial

/-- A run from its beginning to its end is the run of its rule. -/
theorem finish_begin (engine : Engine σ) (facts : Facts) (context : Context) (rule : Rule) (state : σ) :
    engine.finish (begin facts context rule) state = engine.runRule facts context rule state := by
  unfold begin runRule
  split <;> rfl

/-- These are the ways in which a turn of a run may go. -/
inductive Turn (engine : Engine σ) : Progress → σ → Progress → σ → Prop
  | idle {state : σ} (outcome : Outcome) :
      Turn engine (.finished outcome) state (.finished outcome) state
  | ends {state : σ} (rule : Rule) (context : Context) (index : Nat) (tally : Tally) :
      Turn engine (.running rule context index tally []) state
        (.finished ⟨rule.state.id, rule.state.name, .executed, tally⟩) state
  | succeeds {action : Action} {context : Context} {state next : σ}
      (answered : engine.attempt action context state = (.ok (), next)) (rule : Rule) (index : Nat)
      (tally : Tally) (rest : List Action) :
      Turn engine (.running rule context index tally (action :: rest)) state
        (.running rule context (index + 1) (tally.count action) rest) next
  | fails {action : Action} {context : Context} {state next : σ} {error : EngineError}
      (answered : engine.attempt action context state = (.error error, next)) (rule : Rule) (index : Nat)
      (tally : Tally) (rest : List Action) :
      Turn engine (.running rule context index tally (action :: rest)) state
        (.finished ⟨rule.state.id, rule.state.name, .failed index error, tally⟩) next

/-- A turn goes in one of these ways, and in no other one. -/
theorem turn_iff {engine : Engine σ} {run next : Progress} {state after : σ} :
    engine.Turn run state next after ↔ engine.advance run state = (next, after) := by
  constructor
  · intro turn
    cases turn with
    | idle | ends => rfl
    | succeeds answered | fails answered => simp only [advance, answered]
  · intro advanced
    have turn : engine.Turn run state (engine.advance run state).1 (engine.advance run state).2 := by
      cases run with
      | finished outcome => exact .idle outcome
      | running rule context index tally rest =>
          cases rest with
          | nil => exact .ends rule context index tally
          | cons action rest =>
              rcases answered : engine.attempt action context state with ⟨⟨error⟩ | ⟨⟩, later⟩
              · simpa only [advance, answered] using Turn.fails answered rule index tally rest
              · simpa only [advance, answered] using Turn.succeeds answered rule index tally rest
    rwa [advanced] at turn

namespace Turn

variable {engine : Engine σ} {run next : Progress} {state after : σ}

/-- A turn does not change whose run it is. -/
theorem owner (turn : engine.Turn run state next after) : next.owner = run.owner := by
  cases turn <;> rfl

/-- A turn does not change the context of a run. -/
theorem ownContext (turn : engine.Turn run state next after) (own : run.OwnContext) : next.OwnContext := by
  cases turn with
  | idle | ends | fails => trivial
  | succeeds => exact own

/-- A turn brings a run closer to the end that it would have had. -/
theorem finish (turn : engine.Turn run state next after) :
    engine.finish next after = engine.finish run state := by
  cases turn with
  | idle | ends => rfl
  | succeeds answered => simp only [Engine.finish, runActions_cons_ok answered]
  | fails answered => simp only [Engine.finish, runActions_cons_error answered]

/-- What a turn adds to the log is what the run has left less to call. -/
theorem logged (turn : engine.Turn run state next after) (before : List EngineCall) :
    ∃ made, engine.logged.advance run ⟨state, before⟩ = (next, ⟨after, before ++ made⟩) ∧
      made ++ engine.callsLeft next after = engine.callsLeft run state := by
  simp only [← turn_iff]
  cases turn with
  | idle outcome => exact ⟨[], (List.append_nil before).symm ▸ .idle outcome, rfl⟩
  | ends rule context index tally =>
      exact ⟨[], (List.append_nil before).symm ▸ .ends rule context index tally, rfl⟩
  | @succeeds action context _ _ answered rule index tally rest =>
      have noted := engine.logged_attempt action context state before
      rw [answered] at noted
      refine ⟨_, .succeeds noted rule index tally rest, ?_⟩
      rw [callsLeft, callsLeft, calls_cons_ok answered]
  | @fails action context _ _ _ answered rule index tally rest =>
      have noted := engine.logged_attempt action context state before
      rw [answered] at noted
      refine ⟨_, .fails noted rule index tally rest, ?_⟩
      rw [callsLeft, callsLeft, calls_cons_error answered, List.append_nil]

end Turn

/-- What is left of a run makes the calls that it has left. The log changes nothing. -/
theorem logged_finish (engine : Engine σ) (run : Progress) (state : σ) (before : List EngineCall) :
    engine.logged.finish run ⟨state, before⟩ =
      ((engine.finish run state).1, ⟨(engine.finish run state).2, before ++ engine.callsLeft run state⟩) := by
  cases run with
  | finished outcome => simp only [finish, callsLeft, List.append_nil]
  | running rule context index tally rest => simp only [finish, logged_runActions, callsLeft]

/-- The calls that a run has left are made in its own context. -/
theorem callsLeft_rule {engine : Engine σ} {run : Progress} (own : run.OwnContext) {state : σ}
    {call : EngineCall} (isLeft : call ∈ engine.callsLeft run state) :
    call.context.rule = some run.owner := by
  cases run with
  | finished outcome => cases isLeft
  | running rule context index tally rest =>
      have inContext := (mem_attempts (List.mem_filter.mp isLeft).1).1
      rw [inContext]
      exact own

/-- Rules that run in order are runs that take no turns. -/
theorem runRules_eq_finishAll (engine : Engine σ) (facts : Facts) (context : Context) (rules : List Rule)
    (state : σ) :
    engine.runRules facts context rules state =
      engine.finishAll (rules.map (begin facts context)) state := by
  induction rules generalizing state with
  | nil => rfl
  | cons rule rest inductionHypothesis =>
      simp only [runRules, List.map_cons, finishAll, finish_begin, inductionHypothesis]

/-- These are the turns that an engine gives to rules that run together. -/
def turns (engine : Engine σ) : List Nat :=
  match engine.mode with
  | .inOrder => []
  | .together turns => turns

/-- In both modes the rules of a trigger run together, in order when there are no turns. -/
theorem runTrigger_listening (engine : Engine σ) {source : RuleSource} {pipeline : Uuid} {trigger : Trigger}
    {rules : List Rule} (listed : source.listening pipeline trigger = .ok rules) (facts : Facts)
    (context : Context) (state : σ) :
    engine.runTrigger source pipeline trigger facts context state =
      let (outcomes, state) := engine.runTogether engine.turns facts context
        (rules.filter fun rule => rule.state.enabled) state
      (.ok ⟨trigger, pipeline, outcomes⟩, state) := by
  unfold runTrigger turns
  rw [listed]
  cases engine.mode with
  | inOrder => simp only [runRules_eq_finishAll, runTogether, takeTurns]
  | together turns => rfl

/-- A log changes nothing else while runs take turns. -/
theorem logged_takeTurns (engine : Engine σ) (turns : List Nat) (runs : List Progress) (state : σ)
    (before : List EngineCall) :
    ∃ after, engine.logged.takeTurns turns runs ⟨state, before⟩ =
      ((engine.takeTurns turns runs state).1, ⟨(engine.takeTurns turns runs state).2, after⟩) := by
  induction turns generalizing runs state before with
  | nil => exact ⟨before, rfl⟩
  | cons turn turns inductionHypothesis =>
      simp only [takeTurns]
      cases runs[turn]? with
      | none => exact inductionHypothesis runs state before
      | some run =>
          obtain ⟨made, moved, _⟩ := (turn_iff.mpr rfl : engine.Turn run state _ _).logged before
          simp only [moved]
          exact inductionHypothesis _ _ _

/-- The log of runs that are finished changes nothing. -/
theorem logged_finishAll (engine : Engine σ) (runs : List Progress) (state : σ)
    (before : List EngineCall) :
    ∃ after, engine.logged.finishAll runs ⟨state, before⟩ =
      ((engine.finishAll runs state).1, ⟨(engine.finishAll runs state).2, after⟩) := by
  induction runs generalizing state before with
  | nil => exact ⟨before, rfl⟩
  | cons run rest inductionHypothesis =>
      obtain ⟨after, ended⟩ := inductionHypothesis (engine.finish run state).2
        (before ++ engine.callsLeft run state)
      exact ⟨after, by simp only [finishAll, logged_finish, ended]⟩

/-- The log of rules that run together changes nothing, in any turns. -/
theorem logged_runTogether (engine : Engine σ) (turns : List Nat) (facts : Facts) (context : Context)
    (rules : List Rule) (state : σ) (before : List EngineCall) :
    ∃ after, engine.logged.runTogether turns facts context rules ⟨state, before⟩ =
      ((engine.runTogether turns facts context rules state).1,
        ⟨(engine.runTogether turns facts context rules state).2, after⟩) := by
  let runs := rules.map (begin facts context)
  obtain ⟨between, took⟩ := engine.logged_takeTurns turns runs state before
  obtain ⟨after, ended⟩ := engine.logged_finishAll (engine.takeTurns turns runs state).1
    (engine.takeTurns turns runs state).2 between
  exact ⟨after, by simp only [runTogether, took, ended, runs]⟩

/-- The engine with a log answers as the engine itself, and leaves the outside as it does. -/
theorem logged_runTrigger (engine : Engine σ) (source : RuleSource) (pipeline : Uuid) (trigger : Trigger)
    (facts : Facts) (context : Context) (state : σ) (before : List EngineCall) :
    ∃ after, engine.logged.runTrigger source pipeline trigger facts context ⟨state, before⟩ =
      ((engine.runTrigger source pipeline trigger facts context state).1,
        ⟨(engine.runTrigger source pipeline trigger facts context state).2, after⟩) := by
  cases listed : source.listening pipeline trigger with
  | error error => exact ⟨before, by simp only [runTrigger, listed]⟩
  | ok rules =>
      have sameTurns : engine.logged.turns = engine.turns := rfl
      obtain ⟨after, ran⟩ := engine.logged_runTogether engine.turns facts context
        (rules.filter fun rule => rule.state.enabled) state before
      exact ⟨after, by simp only [runTrigger_listening _ listed, sameTurns, ran]⟩

end ContactRules.Engine
