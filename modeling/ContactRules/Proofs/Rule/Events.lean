/-
This file proves that the events of a rule tell its history.
-/

import ContactRules.Proofs.Rule.History
import ContactRules.Rule.Document
import Mathlib.Data.List.Chain

namespace ContactRules

open ContactRules.Json

/-- The event names a rule and its tenant, in its head and in its payload. -/
structure Event.Names (event : Event) (id : Uuid) (tenant : String) : Prop where
  aggregate : event.aggregate = id.text
  tenant : event.tenant = tenant
  payload : event.payload.field? "automation_id" = some id.encode

/-- The event of a change names the rule and its tenant. -/
theorem RuleChange.toEvent_names (change : RuleChange) (stamp : Stamp) (id : Uuid) (tenant : String) :
    (change.toEvent stamp id tenant).Names id tenant where
  aggregate := rfl
  tenant := rfl
  payload := rfl

namespace RuleStep

/-- The event of a step names the rule and its tenant. -/
theorem names_of_event? {state : RuleState} {step : RuleStep} {event : Event}
    (told : step.event? state = some event) : event.Names state.id state.tenant := by
  unfold event? at told
  split at told
  · obtain ⟨⟨stamp, change⟩, _, rfl⟩ := Option.map_eq_some_iff.mp told
    exact change.toEvent_names stamp state.id state.tenant
  · cases told

/-- The events of a history name the rule and its tenant, since no step changes either. -/
theorem names_of_mem_events {state : RuleState} {steps : List RuleStep} {event : Event}
    (told : event ∈ events state steps) : event.Names state.id state.tenant := by
  induction steps generalizing state with
  | nil => cases told
  | cons step steps inductionHypothesis =>
      rcases List.mem_append.mp told with now | later
      · exact names_of_event? (Option.mem_toList.mp now)
      · obtain ⟨sameId, sameTenant⟩ := next_identity state step
        have named := inductionHypothesis later
        rwa [sameId, sameTenant] at named

end RuleStep

namespace Event

/-- These are the old priority and the new one, if the event tells of them. -/
def priorities? (event : Event) : Option (Value × Value) :=
  if event.type = "automation.priority_changed" then
    some (event.payload.get "old_priority", event.payload.get "new_priority")
  else none

/-- The event may tell that the rule is enabled from now on, or that it is disabled. -/
def enabled? (event : Event) : Option Bool :=
  if event.type = "automation.enabled" then some true
  else if event.type = "automation.disabled" then some false
  else none

end Event

/-- This is what the events of a rule let one know of its state. Numbers stand as they are written. -/
structure RuleSummary where
  priority : Value
  enabled : Bool
  conditionCount : Value
  actionCount : Value

namespace RuleSummary

def ofState (state : RuleState) : RuleSummary :=
  ⟨Value.ofNat state.priority.toNat, state.enabled, Value.ofNat state.conditions.length,
    Value.ofNat state.actions.length⟩

/-- This takes over what an event tells. -/
def update (summary : RuleSummary) (event : Event) : RuleSummary where
  priority := (event.priorities?.map Prod.snd).getD summary.priority
  enabled := event.enabled?.getD summary.enabled
  conditionCount :=
    if event.type = "automation.conditions_updated" then event.payload.get "condition_count"
    else summary.conditionCount
  actionCount :=
    if event.type = "automation.actions_updated" then event.payload.get "action_count"
    else summary.actionCount

end RuleSummary

namespace RuleChange

variable (change : RuleChange) (stamp : Stamp) (id : Uuid) (tenant : String)

/-- Only a change of the priority tells priorities. -/
theorem priorities?_toEvent :
    (change.toEvent stamp id tenant).priorities? =
      match change with
      | .priorityChanged old new => some (Value.ofNat old.toNat, Value.ofNat new.toNat)
      | _ => none := by
  cases change <;> rfl

/-- Only switching a rule on or off tells whether it is enabled. -/
theorem enabled?_toEvent :
    (change.toEvent stamp id tenant).enabled? =
      match change with
      | .enabled => some true
      | .disabled => some false
      | _ => none := by
  cases change <;> rfl

/-- What an event says of a rule is what was changed. -/
theorem update_toEvent (summary : RuleSummary) :
    summary.update (change.toEvent stamp id tenant) =
      match change with
      | .conditionsUpdated count => { summary with conditionCount := Value.ofNat count }
      | .actionsUpdated count => { summary with actionCount := Value.ofNat count }
      | .priorityChanged _ new => { summary with priority := Value.ofNat new.toNat }
      | .enabled => { summary with enabled := true }
      | .disabled => { summary with enabled := false }
      | _ => summary := by
  cases change <;> rfl

end RuleChange

namespace RuleStep

/-- An event that tells of priorities tells of the one before the step and the one after it. Other steps keep
the priority. -/
theorem priorities_step (state : RuleState) (step : RuleStep) :
    ((step.event? state).bind Event.priorities? = none ∧ (step.next state).priority = state.priority) ∨
      (step.event? state).bind Event.priorities? = some (Value.ofNat state.priority.toNat,
        Value.ofNat (step.next state).priority.toNat) := by
  cases alters : step.alters state with
  | false => simp [event?_of_unaltered alters, next_of_unaltered alters]
  | true =>
      rw [event?_of_altered alters, next_of_altered alters]
      cases step <;> simp [change?, assign, RuleChange.priorities?_toEvent]

/-- An event that tells that the rule is enabled or disabled tells of a step that makes it so. -/
theorem enabled_step (state : RuleState) (step : RuleStep) :
    ((step.event? state).bind Event.enabled? = none ∧ (step.next state).enabled = state.enabled) ∨
      ((step.event? state).bind Event.enabled? = some (step.next state).enabled ∧
        (step.next state).enabled ≠ state.enabled) := by
  cases alters : step.alters state with
  | false => simp [event?_of_unaltered alters, next_of_unaltered alters]
  | true =>
      rw [event?_of_altered alters, next_of_altered alters]
      cases step <;> simp_all [RuleStep.alters, change?, assign, RuleChange.enabled?_toEvent]

/-- Whoever reads the event of a step keeps up with the state. -/
theorem summary_step (state : RuleState) (step : RuleStep) :
    (step.event? state).toList.foldl RuleSummary.update (RuleSummary.ofState state) =
      RuleSummary.ofState (step.next state) := by
  cases alters : step.alters state with
  | false => simp [event?_of_unaltered alters, next_of_unaltered alters]
  | true =>
      rw [event?_of_altered alters, next_of_altered alters]
      cases step <;> simp [change?, assign, RuleChange.update_toEvent, RuleSummary.ofState]

/-- What is read from the events of a history begins with the event of the first step. -/
theorem filterMap_events_cons {α : Type} (read : Event → Option α) (state : RuleState) (step : RuleStep)
    (steps : List RuleStep) :
    (events state (step :: steps)).filterMap read =
      ((step.event? state).bind read).toList ++ (events (step.next state) steps).filterMap read := by
  rw [events, List.filterMap_append]
  cases step.event? state with
  | none => rfl
  | some event => cases told : read event <;> simp [told]

/-- Each old priority is the new one of the event before. -/
theorem priorities_chain (state : RuleState) (steps : List RuleStep) (before : Value) :
    ((before, Value.ofNat state.priority.toNat) :: (events state steps).filterMap Event.priorities?).IsChain
      fun earlier later => later.1 = earlier.2 := by
  induction steps generalizing state before with
  | nil => exact .singleton _
  | cons step steps inductionHypothesis =>
      rw [filterMap_events_cons]
      rcases priorities_step state step with ⟨silent, same⟩ | told
      · rw [silent, ← same]
        exact inductionHypothesis (step.next state) before
      · rw [told]
        exact .cons_cons rfl (inductionHypothesis (step.next state) _)

/-- A rule is enabled and disabled by turns. -/
theorem enabled_chain (state : RuleState) (steps : List RuleStep) :
    (state.enabled :: (events state steps).filterMap Event.enabled?).IsChain (· ≠ ·) := by
  induction steps generalizing state with
  | nil => exact .singleton _
  | cons step steps inductionHypothesis =>
      rw [filterMap_events_cons]
      rcases enabled_step state step with ⟨silent, same⟩ | ⟨told, different⟩
      · rw [silent, ← same]
        exact inductionHypothesis (step.next state)
      · rw [told]
        exact .cons_cons different.symm (inductionHypothesis (step.next state))

/-- Whoever reads all events of a history keeps up with the state. -/
theorem summary_events (state : RuleState) (steps : List RuleStep) :
    (events state steps).foldl RuleSummary.update (RuleSummary.ofState state) =
      RuleSummary.ofState (steps.foldl next state) := by
  induction steps generalizing state with
  | nil => rfl
  | cons step steps inductionHypothesis =>
      rw [events, List.foldl_append, summary_step, List.foldl_cons]
      exact inductionHypothesis (step.next state)

end RuleStep

/-- A rule is created, made of a document, or taken from a store. -/
inductive RuleOrigin where
  | created (id : Uuid) (stamp : Stamp) (kind : RuleKind) (pipeline : Option Uuid) (tenant name : String)
      (trigger : Trigger)
  | imported (document : RuleDocument) (id : Uuid) (stamp : Stamp) (kind : RuleKind)
      (pipeline : Option Uuid) (tenant : String)
  | stored (state : RuleState)

/-- This is the state of a new rule before anything is set. -/
def RuleState.blank (id : Uuid) (stamp : Stamp) (kind : RuleKind) (pipeline : Option Uuid)
    (tenant name : String) (trigger : Trigger) : RuleState :=
  ⟨id, kind, pipeline, tenant, name, "", trigger, [], [], 0, true, stamp.now, stamp.now⟩

namespace RuleOrigin

def rule : RuleOrigin → Except RuleError Rule
  | created id stamp kind pipeline tenant name trigger =>
      Rule.create id stamp kind pipeline tenant name trigger
  | imported document id stamp kind pipeline tenant => document.toRule id stamp kind pipeline tenant
  | stored state => .ok (Rule.ofState state)

/-- This is the state in which the history of a rule starts. -/
def start : RuleOrigin → RuleState
  | created id stamp kind pipeline tenant name trigger =>
      RuleState.blank id stamp kind pipeline tenant name trigger
  | imported document id stamp kind pipeline tenant =>
      RuleState.blank id stamp kind pipeline tenant document.name document.trigger
  | stored state => state

/-- This is the event that tells of the creation of a rule. A rule from a store is not created again. -/
def opening : RuleOrigin → List Event
  | created id stamp kind pipeline tenant name trigger =>
      [(RuleChange.created kind pipeline name trigger).toEvent stamp id tenant]
  | imported document id stamp kind pipeline tenant =>
      [(RuleChange.created kind pipeline document.name document.trigger).toEvent stamp id tenant]
  | stored _ => []

/-- These are the steps that an import takes by itself. -/
def steps : RuleOrigin → List RuleStep
  | created _ _ _ _ _ _ _ => []
  | imported document _ stamp _ _ _ =>
      [.setDescription document.description (stamp.later 1),
        .setConditions document.conditions (stamp.later 2), .setActions document.actions (stamp.later 3),
        .setPriority document.priority (stamp.later 4)]
  | stored _ => []

variable {origin : RuleOrigin} {rule : Rule}

/-- A rule that is created is blank, and its creation is pending. -/
theorem create_eq_ok {id : Uuid} {stamp : Stamp} {kind : RuleKind} {pipeline : Option Uuid}
    {tenant name : String} {trigger : Trigger}
    (isRule : Rule.create id stamp kind pipeline tenant name trigger = .ok rule) :
    rule = ⟨RuleState.blank id stamp kind pipeline tenant name trigger,
      ⟨[(RuleChange.created kind pipeline name trigger).toEvent stamp id tenant]⟩⟩ := by
  unfold Rule.create at isRule
  cases checked : Rule.check kind pipeline tenant name with
  | error error =>
      rw [checked] at isRule
      cases isRule
  | ok _ =>
      rw [checked] at isRule
      exact (Except.ok.inj isRule).symm

/-- A rule begins with the steps of its import, if it has any, and nobody has taken its events yet. -/
theorem rule_eq_ok (isRule : origin.rule = .ok rule) :
    let (taken, made) := Rule.replay ⟨origin.start, ⟨origin.opening⟩⟩ origin.steps
    taken.flatten = [] ∧ rule = made := by
  cases origin with
  | created id stamp kind pipeline tenant name trigger => exact ⟨rfl, create_eq_ok isRule⟩
  | imported document id stamp kind pipeline tenant =>
      refine ⟨rfl, ?_⟩
      simp only [RuleOrigin.rule, RuleDocument.toRule] at isRule
      cases created : Rule.create id stamp kind pipeline tenant document.name document.trigger with
      | error error =>
          rw [created] at isRule
          cases isRule
      | ok fresh =>
          rw [created] at isRule
          obtain rfl := create_eq_ok created
          exact (Except.ok.inj isRule).symm
  | stored state => exact ⟨rfl, (Except.ok.inj isRule).symm⟩

/-- A new rule has the events of its creation and of the steps of its import, all of them pending. -/
theorem rule_events (isRule : origin.rule = .ok rule) :
    rule.state = origin.steps.foldl RuleStep.next origin.start ∧
      rule.pendingEvents = origin.opening ++ RuleStep.events origin.start origin.steps := by
  obtain ⟨untaken, rfl⟩ := rule_eq_ok isRule
  refine ⟨Rule.replay_state _ _, ?_⟩
  have told := Rule.replay_events ⟨origin.start, ⟨origin.opening⟩⟩ origin.steps
  rw [untaken] at told
  exact told

/-- The creation of a rule tells neither priorities nor switches, and updates no summary. -/
theorem opening_silent (origin : RuleOrigin) :
    origin.opening.filterMap Event.priorities? = [] ∧ origin.opening.filterMap Event.enabled? = [] ∧
      ∀ summary, origin.opening.foldl RuleSummary.update summary = summary := by
  cases origin <;> exact ⟨rfl, rfl, fun _ => rfl⟩

/-- The creation of a rule names the rule and its tenant. -/
theorem names_of_mem_opening {event : Event} (told : event ∈ origin.opening) :
    event.Names origin.start.id origin.start.tenant := by
  cases origin with
  | created | imported =>
      obtain rfl := List.mem_singleton.mp told
      exact RuleChange.toEvent_names ..
  | stored => cases told

end RuleOrigin

namespace Rule

/-- The events of a rule tell its history, however often they are taken meanwhile: first the creation, if the
rule is new, then one event for each step that alters something, and nothing for any other step. Each event
names the rule and its tenant. Whoever takes the events gets all that nobody has taken yet, and leaves none. The
priorities form a chain, the rule is enabled and disabled by turns, and whoever follows the events from the start
knows the state. -/
theorem events_tell_history {origin : RuleOrigin} {rule : Rule} (isRule : origin.rule = .ok rule)
    (steps : List RuleStep) :
    let (taken, final) := rule.replay steps
    let told := taken.flatten ++ final.pendingEvents
    let start := origin.start
    told = origin.opening ++ RuleStep.events start (origin.steps ++ steps) ∧
      final.state = (origin.steps ++ steps).foldl RuleStep.next start ∧
      rule.replay (steps ++ [.drain]) = (taken ++ [final.pendingEvents], ofState final.state) ∧
      (∀ event ∈ told, event.Names rule.state.id rule.state.tenant) ∧
      ((Value.ofNat start.priority.toNat, Value.ofNat start.priority.toNat) ::
        told.filterMap Event.priorities?).IsChain (fun earlier later => later.1 = earlier.2) ∧
      (start.enabled :: told.filterMap Event.enabled?).IsChain (· ≠ ·) ∧
      told.foldl RuleSummary.update (RuleSummary.ofState start) = RuleSummary.ofState final.state := by
  obtain ⟨isState, pending⟩ := RuleOrigin.rule_events isRule
  obtain ⟨noPriorities, noSwitch, noUpdate⟩ := origin.opening_silent
  have told : (rule.replay steps).1.flatten ++ (rule.replay steps).2.pendingEvents =
      origin.opening ++ RuleStep.events origin.start (origin.steps ++ steps) := by
    rw [replay_events, pending, RuleStep.events_append, isState, List.append_assoc]
  have ends : (rule.replay steps).2.state = (origin.steps ++ steps).foldl RuleStep.next origin.start := by
    rw [replay_state, isState, List.foldl_append]
  simp only [told, ends]
  refine ⟨trivial, trivial, ?_, fun event isTold => ?_, ?_, ?_, ?_⟩
  · rw [replay_drain, ends]
  · obtain ⟨sameId, sameTenant⟩ := RuleStep.foldl_next_identity origin.start origin.steps
    rw [isState, sameId, sameTenant]
    rcases List.mem_append.mp isTold with opening | later
    · exact RuleOrigin.names_of_mem_opening opening
    · exact RuleStep.names_of_mem_events later
  · rw [List.filterMap_append, noPriorities]
    exact RuleStep.priorities_chain ..
  · rw [List.filterMap_append, noSwitch]
    exact RuleStep.enabled_chain ..
  · rw [List.foldl_append, noUpdate]
    exact RuleStep.summary_events ..

/-- This rule is made of a document that sets a description and a priority. -/
def importedOrigin : RuleOrigin :=
  .imported ⟨"rule", "about", .tagAdded, [], [], 3⟩ ⟨1⟩ ⟨⟨0⟩, .epoch⟩ .pipelineAutomation (some ⟨9⟩) "tenant"

/-- The rule is given another priority twice, and its events are taken in between. -/
def importedSteps : List RuleStep :=
  [.setPriority 5 ⟨⟨5⟩, .epoch⟩, .peek, .drain, .setPriority 5 ⟨⟨6⟩, .epoch⟩, .disable ⟨⟨7⟩, .epoch⟩]

/-- Neither looking at the events nor taking them is told, and neither is a priority that was set before. -/
theorem importedOrigin_history :
    ∃ rule, importedOrigin.rule = .ok rule ∧
      ((rule.replay importedSteps).1.flatten ++ (rule.replay importedSteps).2.pendingEvents).map Event.type =
        ["automation.created", "automation.description_updated", "automation.priority_changed",
          "automation.priority_changed", "automation.disabled"] := by
  obtain ⟨rule, isRule⟩ : ∃ rule, importedOrigin.rule = .ok rule := ⟨_, rfl⟩
  have told := (events_tell_history isRule importedSteps).1
  exact ⟨rule, isRule, (congrArg (List.map Event.type) told).trans rfl⟩

end Rule

end ContactRules
