/-
This file proves that the delays of a rule change when its actions are performed, and nothing else.
-/

import ContactRules.Engine.Delay
import ContactRules.Proofs.Engine.Provenance
import Mathlib.Data.List.Flatten

namespace ContactRules

open ContactRules.Calendar

variable {σ : Type}

/-- This is the call of a delivery, with the role of the member who takes it. -/
def Delivery.call? : Delivery → Option (Role × Call)
  | .call _ _ role made => some (role, made)
  | .handOff _ _ => none

/-- This is the action that a delivery hands off, with its context. -/
def Delivery.handOff? : Delivery → Option (Action × Context)
  | .call _ _ _ _ => none
  | .handOff action context => some (action, context)

/-- This is a rule that does the same without any delay. -/
def Rule.undelayed (rule : Rule) : Rule :=
  { rule with state := { rule.state with actions := rule.state.actions.map fun action => action.withDelay 0 } }

/-- Delays have no part in what a rule stamps. -/
theorem Rule.stamp_undelayed (rule : Rule) (caller : Context) : rule.undelayed.stamp caller = rule.stamp caller :=
  rfl

/-- In a rule without delays each action is performed at once. -/
theorem Rule.prompt_of_undelayed {rule : Rule} {action : Action} (listed : action ∈ rule.undelayed.state.actions) :
    action.isDelayed = false := by
  obtain ⟨original, _, rfl⟩ := List.mem_map.mp listed
  rfl

/-- This is what an action that waits was handed off with. -/
def PostponedAction.handOff (delayed : PostponedAction) : Action × Context := (delayed.action, delayed.context)

/-- Nothing that is handed off changes while it waits. -/
theorem PostponedAction.handOff_of_after? {action : Action} {context : Context} {now : Instant}
    {delayed : PostponedAction} (waits : after? action context now = some delayed) :
    delayed.handOff = (action, context) := by
  obtain ⟨runAt, _, rfl⟩ := Option.map_eq_some_iff.mp waits
  rfl

namespace Crew

variable {crew : Crew σ} {action : Action} {context : Context}

/-- The members of a crew never fail. -/
def Willing (crew : Crew σ) : Prop :=
  ∀ kind perform, crew kind = some perform → ∀ call before, (perform call before).1 = .ok ()

/-- This is what a run delivers for an action: a hand-off if it has a delay, and otherwise its call. -/
def deliveries (crew : Crew σ) (action : Action) (context : Context) : List Delivery :=
  if action.isDelayed then [.handOff action context]
  else (crew.calls action context).map fun (role, call) => .call action context role call

/-- A call does not depend on the delay of its action. -/
theorem calls_withDelay (crew : Crew σ) (action : Action) (minutes : UInt32) (context : Context) :
    crew.calls (action.withDelay minutes) context = crew.calls action context := by
  obtain ⟨kind, params, delay⟩ := action
  cases kind <;> rfl

/-- An action with a delay is not called at once. -/
theorem filterMap_call?_deliveries (crew : Crew σ) (action : Action) (context : Context) :
    (crew.deliveries action context).filterMap Delivery.call? =
      if action.isDelayed then [] else crew.calls action context := by
  unfold deliveries
  split
  · rfl
  · simp [List.filterMap_map, Function.comp_def, Delivery.call?]

/-- An action without a delay is not handed off. -/
theorem filterMap_handOff?_deliveries (crew : Crew σ) (action : Action) (context : Context) :
    (crew.deliveries action context).filterMap Delivery.handOff? =
      if action.isDelayed then [(action, context)] else [] := by
  unfold deliveries
  split
  · rfl
  · simp [List.filterMap_map, Function.comp_def, Delivery.handOff?]

/-- The calls at once are those of the actions without a delay. -/
theorem calls_of_deliveries (crew : Crew σ) (actions : List Action) (context : Context) :
    (actions.flatMap fun action => crew.deliveries action context).filterMap Delivery.call? =
      (actions.filter fun action => !action.isDelayed).flatMap fun action => crew.calls action context := by
  induction actions with
  | nil => rfl
  | cons action rest inductionHypothesis =>
      rw [List.flatMap_cons, List.filterMap_append, inductionHypothesis, filterMap_call?_deliveries,
        List.filter_cons]
      cases action.isDelayed <;> rfl

/-- The hand-offs are those of the actions with a delay. -/
theorem handOffs_of_deliveries (crew : Crew σ) (actions : List Action) (context : Context) :
    (actions.flatMap fun action => crew.deliveries action context).filterMap Delivery.handOff? =
      (actions.filter Action.isDelayed).map fun action => (action, context) := by
  induction actions with
  | nil => rfl
  | cons action rest inductionHypothesis =>
      rw [List.flatMap_cons, List.filterMap_append, inductionHypothesis, filterMap_handOff?_deliveries,
        List.filter_cons]
      cases action.isDelayed <;> rfl

/-- A crew that is willing performs an action whenever the action makes a call. -/
theorem Willing.execute_eq_ok (willing : crew.Willing) (action : Action) (context : Context) (state : σ) :
    (crew.registry.execute action context state).1 = .ok () ↔ crew.calls action context ≠ [] := by
  cases member : crew action.kind with
  | none => simp [execute_vacant member, calls, member]
  | some perform =>
      cases made : action.kind.call action context with
      | error error => simp [execute_error member made, calls, member, made]
      | ok call => simp [execute_ok member made, calls, member, made, willing _ perform member]

end Crew

namespace DelayQueue

/-- These are the answers to actions that are performed in their order. -/
def answers (perform : Action → Context → Attempt σ ActionError) :
    List PostponedAction → σ → List (Except ActionError Unit)
  | [], _ => []
  | delayed :: rest, state =>
      let (answer, state) := perform delayed.action delayed.context state
      answer :: answers perform rest state

/-- Actions that are performed in their order make their calls in this order, and the notes change nothing else. -/
theorem performAll_eq (crew : Crew σ) (waiting : List PostponedAction) (noted : Noted σ (Role × Call)) :
    performAll (crew.noted Prod.mk).registry.execute waiting noted =
      ⟨performAll crew.registry.execute waiting noted.outside,
        noted.notes ++ waiting.flatMap fun delayed => crew.calls delayed.action delayed.context⟩ := by
  induction waiting generalizing noted with
  | nil =>
      rw [List.flatMap_nil, List.append_nil]
      rfl
  | cons delayed rest inductionHypothesis =>
      rw [performAll, inductionHypothesis, Crew.execute_noted]
      simp only [Noted.extend, List.map_id', List.append_assoc, List.flatMap_cons]
      rfl

/-- When all answers of a willing crew are good, each action has made a call. -/
theorem calls_of_answers {crew : Crew σ} (willing : crew.Willing) {waiting : List PostponedAction} {state : σ}
    (succeed : ∀ answer ∈ answers crew.registry.execute waiting state, answer = .ok ()) :
    ∀ delayed ∈ waiting, crew.calls delayed.action delayed.context ≠ [] := by
  induction waiting generalizing state with
  | nil => exact fun _ isWaiting => nomatch isWaiting
  | cons delayed rest inductionHypothesis =>
      obtain ⟨here, below⟩ := List.forall_mem_cons.mp succeed
      refine List.forall_mem_cons.mpr ⟨?_, inductionHypothesis below⟩
      exact (willing.execute_eq_ok delayed.action delayed.context state).mp here

end DelayQueue

namespace Engine

section Executed

variable {engine : Engine σ} {context : Context} {actions : List Action} {state : σ} {index : Nat} {tally : Tally}

/-- In a run that is executed, all actions are attempted and none of them fails. -/
theorem attempts_of_executed
    (executed : (engine.runActions context index tally actions state).1.1 = .executed) :
    (engine.attempts context actions state).map EngineCall.action = actions ∧
      ∀ attempt ∈ engine.attempts context actions state, attempt.answer = .ok () := by
  have answered : ∀ attempt ∈ engine.attempts context actions state, attempt.answer = .ok () := by
    intro attempt made
    obtain ⟨place, found⟩ := List.mem_iff_getElem?.mp made
    cases fails : attempt.answer with
    | ok _ => rfl
    | error error =>
        have failed := (runActions_failed index tally found fails).2
        rw [executed] at failed
        cases failed
  refine ⟨(runActions_executed index tally fun attempt made => ?_).1, answered⟩
  rw [EngineCall.succeeded, answered attempt made]
  rfl

/-- Each action of such a run succeeds in some state. -/
theorem exists_success (executed : (engine.runActions context index tally actions state).1.1 = .executed)
    {action : Action} (listed : action ∈ actions) : ∃ before, (engine.attempt action context before).1 = .ok () := by
  obtain ⟨all, answered⟩ := attempts_of_executed executed
  rw [← all] at listed
  obtain ⟨attempt, made, rfl⟩ := List.mem_map.mp listed
  obtain ⟨before, same⟩ := exists_state_of_mem_attempts made
  refine ⟨before, ?_⟩
  rw [← answered attempt made, same]
  rfl

/-- A run is executed when its actions succeed in every state. -/
theorem executed_of_success (succeeds : ∀ action ∈ actions, ∀ before,
      (engine.attempt action context before).1 = .ok ()) :
    (engine.runActions context index tally actions state).1.1 = .executed := by
  refine (runActions_executed index tally fun attempt made => ?_).2
  obtain ⟨before, same⟩ := exists_state_of_mem_attempts made
  have listed := (engine.attempts_isPrefix context actions state).subset (List.mem_map_of_mem made)
  have answer := congrArg EngineCall.answer same
  rw [EngineCall.succeeded, answer, EngineCall.ofAction, succeeds _ listed before]
  rfl

/-- A rule is executed when its conditions hold and so are its actions. -/
theorem runRule_executed {facts : Facts} {caller : Context} {rule : Rule} :
    (engine.runRule facts caller rule state).1.verdict = .executed ↔
      rule.conditionsHold facts = true ∧
        (engine.runActions (rule.stamp caller) 0 Tally.zero rule.state.actions state).1.1 = .executed := by
  unfold runRule
  cases rule.conditionsHold facts <;> simp [Outcome.untouched]

end Executed

section Recorded

variable (crew : Crew σ) (schedule : Scheduler σ) (mode : RunMode)

/-- An attempt notes what its action delivers, and changes nothing else. -/
theorem recorded_attempt (action : Action) (context : Context) (state : σ) (notes : List Delivery) :
    (crew.recorded (some schedule) mode).attempt action context ⟨state, notes⟩ =
      Noted.extend notes (crew.deliveries action context)
        ((crew.engine (some schedule) mode).attempt action context state) := by
  unfold attempt Crew.deliveries
  split
  · rfl
  · simp only [Crew.recorded, Crew.engine, Crew.execute_noted]
    rfl

/-- The notes of a run grow by what its attempts deliver. -/
theorem recorded_runActions (context : Context) (index : Nat) (tally : Tally) (actions : List Action) (state : σ)
    (notes : List Delivery) :
    (crew.recorded (some schedule) mode).runActions context index tally actions ⟨state, notes⟩ =
      (((crew.engine (some schedule) mode).runActions context index tally actions state).1,
        ⟨((crew.engine (some schedule) mode).runActions context index tally actions state).2,
          notes ++ (((crew.engine (some schedule) mode).attempts context actions state).map
            EngineCall.action).flatMap fun action => crew.deliveries action context⟩) := by
  induction actions generalizing index tally state notes with
  | nil => simp [runActions, attempts]
  | cons action rest inductionHypothesis =>
      have noted := recorded_attempt crew schedule mode action context state notes
      rcases answered : (crew.engine (some schedule) mode).attempt action context state with
        ⟨⟨error⟩ | ⟨⟩, next⟩
      · rw [answered] at noted
        rw [runActions_cons_error noted, runActions_cons_error answered, attempts_cons_error answered]
        simp [EngineCall.ofAction]
      · rw [answered] at noted
        rw [runActions_cons_ok noted, runActions_cons_ok answered, attempts_cons_ok answered,
          inductionHypothesis, List.append_assoc]
        rfl

/-- A rule that is executed delivers what all its actions deliver, in their order. -/
theorem recorded_runRule {facts : Facts} {caller : Context} {rule : Rule} {state : σ}
    (executed : ((crew.engine (some schedule) mode).runRule facts caller rule state).1.verdict = .executed) :
    (crew.recorded (some schedule) mode).runRule facts caller rule ⟨state, []⟩ =
      (((crew.engine (some schedule) mode).runRule facts caller rule state).1,
        ⟨((crew.engine (some schedule) mode).runRule facts caller rule state).2,
          rule.state.actions.flatMap fun action => crew.deliveries action (rule.stamp caller)⟩) := by
  obtain ⟨holds, ran⟩ := runRule_executed.mp executed
  simp only [runRule, if_pos holds]
  rw [recorded_runActions, (attempts_of_executed ran).1, List.nil_append]

end Recorded

/-- The calls of a rule without delays are those that the rule makes at once and those that wait, and both keep
their order. -/
structure Merges (prompt postponed calls : List (Role × Call)) : Prop where
  together : (prompt ++ postponed).Perm calls
  prompt : prompt.Sublist calls
  postponed : postponed.Sublist calls

/-- What a list of actions calls comes from the actions without a delay and from those with one. -/
theorem merges_calls (crew : Crew σ) (actions : List Action) (context : Context) :
    Merges ((actions.filter fun action => !action.isDelayed).flatMap fun action => crew.calls action context)
      ((actions.filter Action.isDelayed).flatMap fun action => crew.calls action context)
      (actions.flatMap fun action => crew.calls action context) where
  together := by
    rw [← List.flatMap_append]
    exact (List.perm_append_comm.trans (List.filter_append_perm Action.isDelayed actions)).flatMap_right _
  prompt := List.filter_sublist.flatMap _
  postponed := List.filter_sublist.flatMap _

/-- Without its delays a rule is executed in every state, hands nothing off, and makes the calls of two lists, each
in its order. -/
def UndelayedMerges (crew : Crew σ) (schedule : Scheduler σ) (mode : RunMode) (facts : Facts) (caller : Context)
    (rule : Rule) (prompt postponed : List (Role × Call)) : Prop :=
  ∀ state, ∃ deliveries,
    (crew.recorded (some schedule) mode).runRule facts caller rule.undelayed ⟨state, []⟩ =
      (((crew.engine (some schedule) mode).runRule facts caller rule.undelayed state).1,
        ⟨((crew.engine (some schedule) mode).runRule facts caller rule.undelayed state).2, deliveries⟩) ∧
    ((crew.engine (some schedule) mode).runRule facts caller rule.undelayed state).1.verdict = .executed ∧
    deliveries.filterMap Delivery.handOff? = [] ∧
    Merges prompt postponed (deliveries.filterMap Delivery.call?)

section Undelayed

variable {crew : Crew σ} {schedule : Scheduler σ} {mode : RunMode} {facts : Facts} {caller : Context} {rule : Rule}
  {state : σ}

/-- An action that is performed at once succeeds when it makes a call, and only then. -/
theorem attempt_eq_ok (willing : crew.Willing) {action : Action} (prompt : action.isDelayed = false)
    (context : Context) (before : σ) :
    ((crew.engine (some schedule) mode).attempt action context before).1 = .ok () ↔
      crew.calls action context ≠ [] := by
  rw [← willing.execute_eq_ok action context before]
  simp only [attempt, prompt, Crew.engine]
  cases (crew.registry.execute action context before).1 <;> simp [Except.mapError]

/-- When each action of a rule makes a call, the rule is executed without its delays, and makes all these calls. -/
theorem undelayedMerges (willing : crew.Willing) (holds : rule.conditionsHold facts = true)
    (ready : ∀ action ∈ rule.state.actions, crew.calls action (rule.stamp caller) ≠ []) :
    UndelayedMerges crew schedule mode facts caller rule
      ((rule.state.actions.filter fun action => !action.isDelayed).flatMap fun action =>
        crew.calls action (rule.stamp caller))
      ((rule.state.actions.filter Action.isDelayed).flatMap fun action =>
        crew.calls action (rule.stamp caller)) := by
  intro state
  have executed :
      ((crew.engine (some schedule) mode).runRule facts caller rule.undelayed state).1.verdict = .executed := by
    refine runRule_executed.mpr ⟨holds, executed_of_success fun action listed before => ?_⟩
    rw [attempt_eq_ok willing (Rule.prompt_of_undelayed listed)]
    obtain ⟨original, isOriginal, rfl⟩ := List.mem_map.mp listed
    rw [crew.calls_withDelay, rule.stamp_undelayed]
    exact ready original isOriginal
  refine ⟨_, recorded_runRule crew schedule mode executed, executed, ?_, ?_⟩
  · rw [crew.handOffs_of_deliveries, List.map_eq_nil_iff, List.filter_eq_nil_iff]
    intro action listed
    simp [Rule.prompt_of_undelayed listed]
  · have prompt : rule.undelayed.state.actions.filter (fun action => !action.isDelayed) =
        rule.undelayed.state.actions := by
      refine List.filter_eq_self.mpr fun action listed => ?_
      rw [Rule.prompt_of_undelayed listed, Bool.not_false]
    rw [crew.calls_of_deliveries, prompt, Rule.undelayed, List.flatMap_map]
    simp only [crew.calls_withDelay]
    exact merges_calls crew rule.state.actions (rule.stamp caller)

end Undelayed

/-- The delays of a rule only postpone its actions. Where a rule is executed, it has handed off its own actions
with a delay, each in the context that the rule stamps. Where performing these actions succeeds too, the calls
that are made at once and the calls that are made later are those of the rule without its delays. -/
theorem delays_only_postpone {crew : Crew σ} (willing : crew.Willing) (schedule : Scheduler σ) (mode : RunMode)
    (facts : Facts) (caller : Context) (rule : Rule) (state : σ)
    (executed : ((crew.engine (some schedule) mode).runRule facts caller rule state).1.verdict = .executed) :
    ∃ deliveries, (crew.recorded (some schedule) mode).runRule facts caller rule ⟨state, []⟩ =
        (((crew.engine (some schedule) mode).runRule facts caller rule state).1,
          ⟨((crew.engine (some schedule) mode).runRule facts caller rule state).2, deliveries⟩) ∧
      deliveries.filterMap Delivery.handOff? =
        (rule.state.actions.filter Action.isDelayed).map (fun action => (action, rule.stamp caller)) ∧
      (∀ action context now delayed, PostponedAction.after? action context now = some delayed →
        delayed.handOff = (action, context)) ∧
      ∀ waiting : List PostponedAction,
        waiting.map PostponedAction.handOff = deliveries.filterMap Delivery.handOff? →
        ∀ later, (∀ answer ∈ DelayQueue.answers crew.registry.execute waiting later, answer = .ok ()) →
          ∃ postponed, DelayQueue.performAll (crew.noted Prod.mk).registry.execute waiting ⟨later, []⟩ =
              ⟨DelayQueue.performAll crew.registry.execute waiting later, postponed⟩ ∧
            UndelayedMerges crew schedule mode facts caller rule (deliveries.filterMap Delivery.call?) postponed := by
  obtain ⟨holds, ran⟩ := runRule_executed.mp executed
  have handedOff := crew.handOffs_of_deliveries rule.state.actions (rule.stamp caller)
  refine ⟨_, recorded_runRule crew schedule mode executed, handedOff,
    fun _ _ _ _ => PostponedAction.handOff_of_after?, fun waiting isWaiting later succeed => ?_⟩
  rw [handedOff] at isWaiting
  refine ⟨_, DelayQueue.performAll_eq crew waiting ⟨later, []⟩, ?_⟩
  -- What waits are the actions with a delay, each in the context that the rule stamps.
  have calledLater : (waiting.flatMap fun delayed => crew.calls delayed.action delayed.context) =
      (rule.state.actions.filter Action.isDelayed).flatMap fun action => crew.calls action (rule.stamp caller) := by
    have perHandOff := congrArg (List.flatMap fun (action, context) => crew.calls action context) isWaiting
    rw [List.flatMap_map, List.flatMap_map] at perHandOff
    exact perHandOff
  have ready : ∀ action ∈ rule.state.actions, crew.calls action (rule.stamp caller) ≠ [] := by
    intro action listed
    cases delayed : action.isDelayed with
    | false =>
        obtain ⟨before, succeeded⟩ := exists_success ran listed
        exact (attempt_eq_ok willing delayed (rule.stamp caller) before).mp succeeded
    | true =>
        have isHandedOff : (action, rule.stamp caller) ∈ waiting.map PostponedAction.handOff := by
          rw [isWaiting]
          exact List.mem_map_of_mem (List.mem_filter.mpr ⟨listed, delayed⟩)
        obtain ⟨postponed, isPostponed, same⟩ := List.mem_map.mp isHandedOff
        obtain ⟨sameAction, sameContext⟩ := Prod.mk.inj same
        rw [← sameAction, ← sameContext]
        exact DelayQueue.calls_of_answers willing succeed postponed isPostponed
  rw [List.nil_append, calledLater, crew.calls_of_deliveries]
  exact undelayedMerges willing holds ready

/-- This crew adds tags and calls webhooks, and counts what it does. -/
def countingCrew : Crew Nat
  | .addTag | .sendWebhook => some fun _ done => (.ok (), done + 1)
  | _ => none

def countingScheduler : Scheduler Nat := fun _ _ done => (.ok (), done + 1)

/-- This rule adds a tag later, calls a webhook at once, adds a tag at once and calls the webhook later. -/
def reminderRule : Rule :=
  let addTag (tag : String) := (Action.ofKind .addTag).withParam "tag" (.text tag)
  let post := (Action.ofKind .sendWebhook).withParam "url" (.text "http://r1")
  Rule.ofState ⟨⟨1⟩, .pipelineAutomation, some ⟨9⟩, "tenant", "rule", "", .tagAdded, [],
    [(addTag "late").withDelay 5, post, addTag "soon", post.withDelay 1], 0, true, .epoch, .epoch⟩

/-- Two calls are made at once and two later. Without its delays the rule makes all four of them. -/
theorem reminderRule_makes_all_calls :
    let caller := { Context.ofTenant "tenant" with contact := some ⟨1⟩ }
    let waiting := (reminderRule.state.actions.filter Action.isDelayed).map fun action =>
      PostponedAction.mk action (reminderRule.stamp caller) .epoch
    ∃ deliveries postponed,
      ((countingCrew.recorded countingScheduler .inOrder).runRule Fields.empty caller reminderRule ⟨0, []⟩).2 =
        ⟨4, deliveries⟩ ∧
      DelayQueue.performAll (countingCrew.noted Prod.mk).registry.execute waiting ⟨0, []⟩ = ⟨2, postponed⟩ ∧
      (deliveries.filterMap Delivery.call?).length = 2 ∧ postponed.length = 2 ∧
      UndelayedMerges countingCrew countingScheduler .inOrder Fields.empty caller reminderRule
        (deliveries.filterMap Delivery.call?) postponed := by
  intro caller waiting
  have willing : countingCrew.Willing := by
    intro kind perform member call done
    cases kind <;> cases member <;> rfl
  obtain ⟨deliveries, ran, handedOff, _, later⟩ :=
    delays_only_postpone willing countingScheduler .inOrder Fields.empty caller reminderRule 0 rfl
  have isWaiting : waiting.map PostponedAction.handOff = deliveries.filterMap Delivery.handOff? := by
    rw [handedOff]
    rfl
  have succeed : DelayQueue.answers countingCrew.registry.execute waiting 0 = [.ok (), .ok ()] := rfl
  obtain ⟨postponed, performed, merges⟩ := later waiting isWaiting 0 (by simp [succeed])
  have prompt : (deliveries.filterMap Delivery.call?).length = 2 :=
    congrArg (fun run => (run.2.notes.filterMap Delivery.call?).length) ran.symm
  exact ⟨deliveries, postponed, congrArg Prod.snd ran, performed, prompt,
    congrArg (fun run => run.notes.length) performed.symm, merges⟩

end Engine

end ContactRules
