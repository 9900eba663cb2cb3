/-
This file records the calls that an engine makes and proves which actions of a rule are attempted.
-/

import ContactRules.Engine.Basic
import Mathlib.Data.List.Basic

namespace ContactRules

/-- An engine calls the collaborators that perform actions and the scheduler that takes hand-offs. -/
inductive Channel where
  | perform
  | handOff
deriving DecidableEq

/-- An action with a delay is handed off, and any other one is performed. -/
def Channel.ofAction (action : Action) : Channel :=
  if action.isDelayed then .handOff else .perform

/-- A call takes an action and the context of its rule, and is answered. -/
structure EngineCall where
  channel : Channel
  action : Action
  context : Context
  answer : Except EngineError Unit

namespace EngineCall

def ofAction (action : Action) (context : Context) (answer : Except EngineError Unit) : EngineCall :=
  ⟨Channel.ofAction action, action, context, answer⟩

def succeeded (call : EngineCall) : Bool := call.answer.isOk

/-- This is the number of calls of a channel that succeeded. -/
def countSucceeded (channel : Channel) (calls : List EngineCall) : Nat :=
  calls.countP fun call => call.channel = channel && call.succeeded

/-- These are the calls that are made on behalf of a rule. -/
def onBehalfOf (id : Uuid) (calls : List EngineCall) : List EngineCall :=
  calls.filter fun call => call.context.rule = some id

end EngineCall

/-- A log of the calls is kept beside the outside. -/
structure Logged (σ : Type) where
  outside : σ
  calls : List EngineCall

/-- This notes a call on the channel together with its answer. -/
def Logged.note {σ ε : Type} (channel : Channel) (wrap : ε → EngineError)
    (collaborator : Action → Context → Attempt σ ε) (action : Action) (context : Context) :
    Attempt (Logged σ) ε := fun logged =>
  let (answer, outside) := collaborator action context logged.outside
  (answer, ⟨outside, logged.calls ++ [⟨channel, action, context, answer.mapError wrap⟩]⟩)

namespace Engine

variable {σ : Type}

/-- The engine with a log calls the same collaborators. -/
def logged (engine : Engine σ) : Engine (Logged σ) where
  perform := Logged.note .perform .action engine.perform
  handOff := engine.handOff.map (Logged.note .handOff id)
  mode := engine.mode

/-- Only a hand-off without a scheduler reaches nobody. -/
def reaches (engine : Engine σ) (action : Action) : Bool :=
  !action.isDelayed || engine.handOff.isSome

/-- These are the attempts that a run makes, with their answers. -/
def attempts (engine : Engine σ) (context : Context) : List Action → σ → List EngineCall
  | [], _ => []
  | action :: rest, state =>
      match engine.attempt action context state with
      | (.ok (), state) => EngineCall.ofAction action context (.ok ()) :: attempts engine context rest state
      | (.error error, _) => [EngineCall.ofAction action context (.error error)]

/-- These are the attempts that reach a collaborator. -/
def calls (engine : Engine σ) (context : Context) (actions : List Action) (state : σ) : List EngineCall :=
  (engine.attempts context actions state).filter fun attempt => engine.reaches attempt.action

/-- Without a scheduler an action with a delay fails, and nobody is called. -/
theorem attempt_unreached {engine : Engine σ} {action : Action} (unreached : engine.reaches action = false)
    (context : Context) (state : σ) : engine.attempt action context state = (.error .noScheduler, state) := by
  simp only [reaches, Bool.or_eq_false_iff, Bool.not_eq_eq_eq_not, Bool.not_false,
    Option.isSome_eq_false_iff, Option.isNone_iff_eq_none] at unreached
  simp only [attempt, unreached.1, unreached.2, if_true]

/-- An attempt that reaches nobody is not answered. -/
theorem answer_of_unreached {engine : Engine σ} {action : Action} {context : Context} {state next : σ}
    {answer : Except EngineError Unit} (answered : engine.attempt action context state = (answer, next))
    (unreached : engine.reaches action = false) : answer = .error .noScheduler := by
  rw [attempt_unreached unreached] at answered
  exact (congrArg Prod.fst answered).symm

/-- An attempt is noted when it reaches a collaborator, and the log changes nothing else. -/
theorem logged_attempt (engine : Engine σ) (action : Action) (context : Context) (state : σ)
    (before : List EngineCall) :
    engine.logged.attempt action context ⟨state, before⟩ =
      ((engine.attempt action context state).1, ⟨(engine.attempt action context state).2,
        before ++ if engine.reaches action then
          [EngineCall.ofAction action context (engine.attempt action context state).1] else []⟩) := by
  cases delayed : action.isDelayed with
  | false =>
      simp [attempt, logged, Logged.note, reaches, EngineCall.ofAction, Channel.ofAction, delayed]
  | true =>
      cases scheduler : engine.handOff with
      | none => simp [attempt, logged, reaches, delayed, scheduler]
      | some handOff =>
          have same (answer : Except EngineError Unit) : answer.mapError id = answer := by
            cases answer <;> rfl
          simp [attempt, logged, Logged.note, reaches, EngineCall.ofAction, Channel.ofAction, delayed,
            scheduler, same]

section Steps

variable {engine : Engine σ} {context : Context} {action : Action} {state next : σ} {error : EngineError}

/-- An action that succeeds is counted, and the others follow. -/
theorem runActions_cons_ok (answered : engine.attempt action context state = (.ok (), next)) (index : Nat)
    (tally : Tally) (rest : List Action) :
    engine.runActions context index tally (action :: rest) state =
      engine.runActions context (index + 1) (tally.count action) rest next := by
  simp only [runActions, answered]

/-- An action that fails ends the run, with what was counted before. -/
theorem runActions_cons_error (answered : engine.attempt action context state = (.error error, next))
    (index : Nat) (tally : Tally) (rest : List Action) :
    engine.runActions context index tally (action :: rest) state = ((.failed index error, tally), next) := by
  simp only [runActions, answered]

/-- The attempt of an action that succeeds comes before those of the others. -/
theorem attempts_cons_ok (answered : engine.attempt action context state = (.ok (), next))
    (rest : List Action) :
    engine.attempts context (action :: rest) state =
      EngineCall.ofAction action context (.ok ()) :: engine.attempts context rest next := by
  simp only [attempts, answered]

/-- The attempt of an action that fails is the last one. -/
theorem attempts_cons_error (answered : engine.attempt action context state = (.error error, next))
    (rest : List Action) :
    engine.attempts context (action :: rest) state =
      [EngineCall.ofAction action context (.error error)] := by
  simp only [attempts, answered]

/-- An action that succeeds makes its call, if it makes any, before the others make theirs. -/
theorem calls_cons_ok (answered : engine.attempt action context state = (.ok (), next))
    (rest : List Action) :
    engine.calls context (action :: rest) state =
      (if engine.reaches action then [EngineCall.ofAction action context (.ok ())] else []) ++
        engine.calls context rest next := by
  rw [calls, attempts_cons_ok answered, List.filter_cons]
  cases reached : engine.reaches action <;> simp [EngineCall.ofAction, calls, reached]

/-- An action that fails makes the last call, if it makes any. -/
theorem calls_cons_error (answered : engine.attempt action context state = (.error error, next))
    (rest : List Action) :
    engine.calls context (action :: rest) state =
      if engine.reaches action then [EngineCall.ofAction action context (.error error)] else [] := by
  rw [calls, attempts_cons_error answered, List.filter_cons]
  rfl

end Steps

/-- The log of a run grows by the calls of its attempts. -/
theorem logged_runActions (engine : Engine σ) (context : Context) (index : Nat) (tally : Tally)
    (actions : List Action) (state : σ) (before : List EngineCall) :
    engine.logged.runActions context index tally actions ⟨state, before⟩ =
      ((engine.runActions context index tally actions state).1,
        ⟨(engine.runActions context index tally actions state).2,
          before ++ engine.calls context actions state⟩) := by
  induction actions generalizing index tally state before with
  | nil => simp only [runActions, calls, attempts, List.filter_nil, List.append_nil]
  | cons action rest inductionHypothesis =>
      have noted := engine.logged_attempt action context state before
      rcases answered : engine.attempt action context state with ⟨⟨error⟩ | ⟨⟩, next⟩
      · rw [answered] at noted
        rw [runActions_cons_error noted, runActions_cons_error answered, calls_cons_error answered]
      · rw [answered] at noted
        rw [runActions_cons_ok noted, runActions_cons_ok answered, calls_cons_ok answered,
          inductionHypothesis, List.append_assoc]

/-- Attempts are made of the first actions, in their order. -/
theorem attempts_isPrefix (engine : Engine σ) (context : Context) (actions : List Action) (state : σ) :
    (engine.attempts context actions state).map EngineCall.action <+: actions := by
  induction actions generalizing state with
  | nil => exact List.prefix_refl []
  | cons action rest inductionHypothesis =>
      rcases answered : engine.attempt action context state with ⟨⟨error⟩ | ⟨⟩, next⟩
      · rw [attempts_cons_error answered]
        exact ⟨rest, rfl⟩
      · rw [attempts_cons_ok answered]
        exact List.cons_prefix_cons.mpr ⟨rfl, inductionHypothesis next⟩

/-- The place of an attempt is the place of its action. -/
theorem getElem?_of_attempts {engine : Engine σ} {context : Context} {actions : List Action} {state : σ}
    {index : Nat} {attempt : EngineCall}
    (made : (engine.attempts context actions state)[index]? = some attempt) :
    actions[index]? = some attempt.action := by
  obtain ⟨rest, whole⟩ := engine.attempts_isPrefix context actions state
  have within := (List.getElem?_eq_some_iff.mp made).1
  rw [← whole, List.getElem?_append_left (by simpa using within), List.getElem?_map, made, Option.map_some]

/-- Each attempt is answered by the engine in some state of the outside. -/
theorem exists_state_of_mem_attempts {engine : Engine σ} {context : Context} {actions : List Action}
    {state : σ} {attempt : EngineCall} (made : attempt ∈ engine.attempts context actions state) :
    ∃ before, attempt =
      EngineCall.ofAction attempt.action context (engine.attempt attempt.action context before).1 := by
  induction actions generalizing state with
  | nil => cases made
  | cons action rest inductionHypothesis =>
      rcases answered : engine.attempt action context state with ⟨⟨error⟩ | ⟨⟩, next⟩
      · rw [attempts_cons_error answered] at made
        obtain rfl := List.mem_singleton.mp made
        exact ⟨state, congrArg (fun turn => EngineCall.ofAction action context turn.1) answered.symm⟩
      · rw [attempts_cons_ok answered] at made
        rcases List.mem_cons.mp made with rfl | below
        · exact ⟨state, congrArg (fun turn => EngineCall.ofAction action context turn.1) answered.symm⟩
        · exact inductionHypothesis below

/-- Each attempt is made in the context of the rule, and fails when it reaches nobody. -/
theorem mem_attempts {engine : Engine σ} {context : Context} {actions : List Action} {state : σ}
    {attempt : EngineCall} (made : attempt ∈ engine.attempts context actions state) :
    attempt.context = context ∧ attempt.channel = Channel.ofAction attempt.action ∧
      (engine.reaches attempt.action = false → attempt.answer = .error .noScheduler) := by
  obtain ⟨before, same⟩ := exists_state_of_mem_attempts made
  have answer := congrArg EngineCall.answer same
  exact ⟨congrArg EngineCall.context same, congrArg EngineCall.channel same,
    fun unreached => answer.trans (answer_of_unreached rfl unreached)⟩

/-- A run in which no attempt fails attempts all actions. -/
theorem runActions_executed {engine : Engine σ} {context : Context} {actions : List Action} {state : σ}
    (index : Nat) (tally : Tally)
    (succeed : ∀ attempt ∈ engine.attempts context actions state, attempt.succeeded = true) :
    (engine.attempts context actions state).map EngineCall.action = actions ∧
      (engine.runActions context index tally actions state).1.1 = .executed := by
  induction actions generalizing index tally state with
  | nil => exact ⟨rfl, rfl⟩
  | cons action rest inductionHypothesis =>
      rcases answered : engine.attempt action context state with ⟨⟨error⟩ | ⟨⟩, next⟩
      · rw [attempts_cons_error answered] at succeed
        cases succeed _ (List.mem_singleton.mpr rfl)
      · rw [attempts_cons_ok answered] at succeed ⊢
        obtain ⟨all, executed⟩ := inductionHypothesis (index + 1) (tally.count action)
          (List.forall_mem_cons.mp succeed).2
        rw [runActions_cons_ok answered, List.map_cons, all]
        exact ⟨rfl, executed⟩

/-- An attempt that fails is the last one, and the verdict names its place and its error. -/
theorem runActions_failed {engine : Engine σ} {context : Context} {actions : List Action} {state : σ}
    (index : Nat) (tally : Tally) {place : Nat} {attempt : EngineCall} {error : EngineError}
    (made : (engine.attempts context actions state)[place]? = some attempt)
    (fails : attempt.answer = .error error) :
    place + 1 = (engine.attempts context actions state).length ∧
      (engine.runActions context index tally actions state).1.1 = .failed (index + place) error := by
  induction actions generalizing index tally state place with
  | nil => cases made
  | cons action rest inductionHypothesis =>
      rcases answered : engine.attempt action context state with ⟨⟨reason⟩ | ⟨⟩, next⟩
      · rw [attempts_cons_error answered] at made ⊢
        rw [runActions_cons_error answered]
        cases place with
        | zero =>
            obtain rfl := Option.some.inj made
            cases fails
            exact ⟨rfl, rfl⟩
        | succ place => cases made
      · rw [attempts_cons_ok answered] at made ⊢
        rw [runActions_cons_ok answered]
        cases place with
        | zero =>
            obtain rfl := Option.some.inj made
            cases fails
        | succ place =>
            obtain ⟨isLast, failed⟩ := inductionHypothesis (index + 1) (tally.count action) made
            have shifted : index + 1 + place = index + (place + 1) := by omega
            rw [List.length_cons, ← isLast, failed, shifted]
            exact ⟨rfl, rfl⟩

/-- A run counts the attempts that succeeded, by their channels. -/
theorem runActions_tally (engine : Engine σ) (context : Context) (index : Nat) (tally : Tally)
    (actions : List Action) (state : σ) :
    (engine.runActions context index tally actions state).1.2 =
      ⟨tally.performed + EngineCall.countSucceeded .perform (engine.attempts context actions state),
        tally.delayed + EngineCall.countSucceeded .handOff (engine.attempts context actions state)⟩ := by
  induction actions generalizing index tally state with
  | nil => rfl
  | cons action rest inductionHypothesis =>
      rcases answered : engine.attempt action context state with ⟨⟨error⟩ | ⟨⟩, next⟩
      · rw [runActions_cons_error answered, attempts_cons_error answered]
        simp [EngineCall.countSucceeded, EngineCall.ofAction, EngineCall.succeeded, Except.isOk,
          Except.toBool]
      · rw [runActions_cons_ok answered, attempts_cons_ok answered, inductionHypothesis]
        simp only [Tally.count, EngineCall.countSucceeded, EngineCall.ofAction, Channel.ofAction,
          EngineCall.succeeded, Except.isOk, Except.toBool, List.countP_cons]
        split <;> simp [Nat.add_assoc, Nat.add_comm 1]

/-- The outcome of a rule has its identifier. -/
theorem runRule_rule (engine : Engine σ) (facts : Facts) (context : Context) (rule : Rule) (state : σ) :
    (engine.runRule facts context rule state).1.rule = rule.state.id := by
  unfold runRule
  split <;> rfl

/-- A rule makes the calls of its actions when its conditions hold, and no calls otherwise. The log changes
nothing. -/
theorem logged_runRule (engine : Engine σ) (facts : Facts) (context : Context) (rule : Rule) (state : σ)
    (before : List EngineCall) :
    engine.logged.runRule facts context rule ⟨state, before⟩ =
      ((engine.runRule facts context rule state).1, ⟨(engine.runRule facts context rule state).2,
        before ++ if rule.conditionsHold facts then
          engine.calls (rule.stamp context) rule.state.actions state else []⟩) := by
  unfold runRule
  split
  · rw [logged_runActions]
  · rw [List.append_nil]

/-- The attempts of a run explain its verdict and its tally. -/
structure Explains (engine : Engine σ) (context : Context) (actions : List Action)
    (attempts : List EngineCall) (verdict : Verdict) (tally : Tally) : Prop where
  inOrder : attempts.map EngineCall.action <+: actions
  inContext : ∀ attempt ∈ attempts, attempt.context = context
  onChannel : ∀ attempt ∈ attempts, attempt.channel = Channel.ofAction attempt.action
  unreached : ∀ attempt ∈ attempts, engine.reaches attempt.action = false →
    attempt.answer = .error .noScheduler
  executed : (∀ attempt ∈ attempts, attempt.succeeded = true) →
    attempts.map EngineCall.action = actions ∧ verdict = .executed
  failed : ∀ index attempt error, attempts[index]? = some attempt → attempt.answer = .error error →
    index + 1 = attempts.length ∧ verdict = .failed index error ∧
      ∀ earlier ∈ attempts.take index, earlier.succeeded = true
  performed : tally.performed = EngineCall.countSucceeded .perform attempts
  delayed : tally.delayed = EngineCall.countSucceeded .handOff attempts

/-- The attempts of a run explain its verdict and its counts. -/
theorem attempts_explain (engine : Engine σ) (context : Context) (actions : List Action) (state : σ) :
    engine.Explains context actions (engine.attempts context actions state)
      (engine.runActions context 0 Tally.zero actions state).1.1
      (engine.runActions context 0 Tally.zero actions state).1.2 where
  inOrder := engine.attempts_isPrefix context actions state
  inContext _ made := (mem_attempts made).1
  onChannel _ made := (mem_attempts made).2.1
  unreached _ made := (mem_attempts made).2.2
  executed succeed := runActions_executed 0 Tally.zero succeed
  failed index attempt error made fails := by
    obtain ⟨isLast, failed⟩ := runActions_failed 0 Tally.zero made fails
    rw [Nat.zero_add] at failed
    refine ⟨isLast, failed, fun earlier before => ?_⟩
    -- An earlier attempt that failed would be the last one too.
    obtain ⟨place, within, same⟩ := List.mem_take_iff_getElem.mp before
    cases answered : earlier.answer with
    | ok _ => simp only [EngineCall.succeeded, answered, Except.isOk, Except.toBool]
    | error reason =>
        have found := List.getElem?_eq_some_iff.mpr ⟨by omega, same⟩
        have alsoLast := (runActions_failed 0 Tally.zero found answered).1
        omega
  performed := by simp [runActions_tally, Tally.zero]
  delayed := by simp [runActions_tally, Tally.zero]

/-- A rule whose conditions do not hold calls nobody. Otherwise its first actions are attempted in their
order, each once and in the context of the rule, until they are all done or one fails. The log of the calls
has those attempts that reach a collaborator, and the outcome tells how they went. -/
theorem runRule_attempts (engine : Engine σ) (facts : Facts) (context : Context) (rule : Rule)
    (state : σ) :
    let (outcome, final) := engine.runRule facts context rule state
    let (sameOutcome, log) := engine.logged.runRule facts context rule ⟨state, []⟩
    sameOutcome = outcome ∧ log.outside = final ∧
      outcome.rule = rule.state.id ∧ outcome.name = rule.state.name ∧
      (rule.conditionsHold facts = false →
        log.calls = [] ∧ final = state ∧ outcome.verdict = .conditionsNotMet ∧
          outcome.tally = Tally.zero) ∧
      (rule.conditionsHold facts = true → ∃ attempts,
        engine.Explains (rule.stamp context) rule.state.actions attempts outcome.verdict outcome.tally ∧
          log.calls = attempts.filter fun attempt => engine.reaches attempt.action) := by
  rw [logged_runRule]
  cases holds : rule.conditionsHold facts with
  | false => simp [runRule, holds, Outcome.untouched]
  | true =>
      have explained := engine.attempts_explain (rule.stamp context) rule.state.actions state
      simp only [runRule, holds, if_true, List.nil_append, true_and, reduceCtorEq, false_implies]
      exact fun _ => ⟨_, explained, rfl⟩

end Engine

end ContactRules
