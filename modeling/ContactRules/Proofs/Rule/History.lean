/-
This file defines histories of rules and proves that no event of a history is lost.
-/

import ContactRules.Rule.Basic

namespace ContactRules

/-- A step of a history sets a field of a rule, switches the rule on or off, looks at its events or takes
them. -/
inductive RuleStep where
  | setConditions (conditions : List Condition) (stamp : Stamp)
  | setActions (actions : List Action) (stamp : Stamp)
  | setDescription (description : String) (stamp : Stamp)
  | setPriority (priority : UInt32) (stamp : Stamp)
  | enable (stamp : Stamp)
  | disable (stamp : Stamp)
  | peek
  | drain

namespace RuleStep

/-- The step brings a value that is not the same as before. -/
def alters (state : RuleState) : RuleStep → Bool
  | setConditions conditions _ => !Condition.sameList state.conditions conditions
  | setActions actions _ => !Action.sameList state.actions actions
  | setDescription description _ => state.description ≠ description
  | setPriority priority _ => state.priority ≠ priority
  | enable _ => !state.enabled
  | disable _ => state.enabled
  | peek => false
  | drain => false

/-- This is the state with the value that the step brings. -/
def assign (state : RuleState) : RuleStep → RuleState
  | setConditions conditions stamp => { state with conditions, updatedAt := stamp.now }
  | setActions actions stamp => { state with actions, updatedAt := stamp.now }
  | setDescription description stamp => { state with description, updatedAt := stamp.now }
  | setPriority priority stamp => { state with priority, updatedAt := stamp.now }
  | enable stamp => { state with enabled := true, updatedAt := stamp.now }
  | disable stamp => { state with enabled := false, updatedAt := stamp.now }
  | peek => state
  | drain => state

/-- This is the change that the step makes, with its stamp. -/
def change? (state : RuleState) : RuleStep → Option (Stamp × RuleChange)
  | setConditions conditions stamp => some (stamp, .conditionsUpdated conditions.length)
  | setActions actions stamp => some (stamp, .actionsUpdated actions.length)
  | setDescription _ stamp => some (stamp, .descriptionUpdated)
  | setPriority priority stamp => some (stamp, .priorityChanged state.priority priority)
  | enable stamp => some (stamp, .enabled)
  | disable stamp => some (stamp, .disabled)
  | peek => none
  | drain => none

/-- A step that alters nothing leaves the state as it is. -/
def next (state : RuleState) (step : RuleStep) : RuleState :=
  if step.alters state then step.assign state else state

/-- This is the event that tells of a step that alters something. -/
def event? (state : RuleState) (step : RuleStep) : Option Event :=
  if step.alters state then
    (step.change? state).map fun (stamp, change) => change.toEvent stamp state.id state.tenant
  else none

/-- These are the events that tell of steps, one event for each step that alters something. -/
def events : RuleState → List RuleStep → List Event
  | _, [] => []
  | state, step :: steps => (step.event? state).toList ++ events (step.next state) steps

section Cases

variable {state : RuleState} {step : RuleStep}

theorem next_of_altered (alters : step.alters state = true) : step.next state = step.assign state :=
  if_pos alters

theorem event?_of_altered (alters : step.alters state = true) :
    step.event? state =
      (step.change? state).map fun (stamp, change) => change.toEvent stamp state.id state.tenant :=
  if_pos alters

theorem next_of_unaltered (still : step.alters state = false) : step.next state = state := by
  rw [next, still]
  rfl

theorem event?_of_unaltered (still : step.alters state = false) : step.event? state = none := by
  rw [event?, still]
  rfl

end Cases

end RuleStep

namespace Rule

/-- This is what a step takes from a rule and what it leaves. -/
def step (rule : Rule) : RuleStep → List Event × Rule
  | .setConditions conditions stamp => ([], rule.setConditions conditions stamp)
  | .setActions actions stamp => ([], rule.setActions actions stamp)
  | .setDescription description stamp => ([], rule.setDescription description stamp)
  | .setPriority priority stamp => ([], rule.setPriority priority stamp)
  | .enable stamp => ([], rule.enable stamp)
  | .disable stamp => ([], rule.disable stamp)
  | .peek => ([], rule)
  | .drain => rule.drainEvents

/-- This replays a history and collects the events that are taken at each step. -/
def replay : Rule → List RuleStep → List (List Event) × Rule
  | rule, [] => ([], rule)
  | rule, step :: steps =>
      let (taken, rule) := rule.step step
      let (later, rule) := replay rule steps
      (taken :: later, rule)

section Steps

variable {rule : Rule} {step : RuleStep}

/-- A step that alters nothing leaves the rule as it is, but for the events that are taken. -/
theorem step_of_unaltered (still : step.alters rule.state = false) :
    (rule.step step).2.state = rule.state ∧
      (rule.step step).1 ++ (rule.step step).2.pendingEvents = rule.pendingEvents := by
  cases step <;>
    simp_all [RuleStep.alters, Rule.step, setConditions, setActions, setDescription, setPriority, enable,
      disable, drainEvents_eq, ofState, pendingEvents, EventQueue.empty]

/-- A step that alters something notes its change and takes no events. -/
theorem step_of_altered (alters : step.alters rule.state = true) :
    (rule.step step).1 = [] ∧ (rule.step step).2.state = step.assign rule.state ∧
      (rule.step step).2.pendingEvents = rule.pendingEvents ++ (step.event? rule.state).toList := by
  rw [RuleStep.event?_of_altered alters]
  cases step <;>
    simp_all [RuleStep.alters, Rule.step, setConditions, setActions, setDescription, setPriority, enable,
      disable, RuleStep.assign, RuleStep.change?, change, note, pendingEvents, EventQueue.record]

/-- A step leads to the state that it makes of the one before. -/
theorem step_state (rule : Rule) (step : RuleStep) : (rule.step step).2.state = step.next rule.state := by
  cases alters : step.alters rule.state with
  | true => rw [RuleStep.next_of_altered alters, (step_of_altered alters).2.1]
  | false => rw [RuleStep.next_of_unaltered alters, (step_of_unaltered alters).1]

/-- No event is lost or told twice, whether events are taken or not. -/
theorem step_events (rule : Rule) (step : RuleStep) :
    (rule.step step).1 ++ (rule.step step).2.pendingEvents =
      rule.pendingEvents ++ (step.event? rule.state).toList := by
  cases alters : step.alters rule.state with
  | true =>
      obtain ⟨none, _, told⟩ := step_of_altered alters
      rw [none, told, List.nil_append]
  | false =>
      rw [(step_of_unaltered alters).2, RuleStep.event?_of_unaltered alters]
      exact (List.append_nil _).symm

end Steps

/-- The events that are taken from a rule and those that are left tell of its steps, after the events that
were there before. -/
theorem replay_events (rule : Rule) (steps : List RuleStep) :
    (rule.replay steps).1.flatten ++ (rule.replay steps).2.pendingEvents =
      rule.pendingEvents ++ RuleStep.events rule.state steps := by
  induction steps generalizing rule with
  | nil => exact (List.append_nil _).symm
  | cons step steps inductionHypothesis =>
      have later := inductionHypothesis (rule.step step).2
      rw [step_state] at later
      simp only [replay, RuleStep.events, List.flatten_cons, List.append_assoc, later]
      rw [← List.append_assoc, step_events, List.append_assoc]

/-- A drain after a history hands out what the history has left to be taken, and leaves nothing. -/
theorem replay_drain (rule : Rule) (steps : List RuleStep) :
    rule.replay (steps ++ [.drain]) =
      ((rule.replay steps).1 ++ [(rule.replay steps).2.pendingEvents], ofState (rule.replay steps).2.state) := by
  induction steps generalizing rule with
  | nil => simp only [List.nil_append, replay, Rule.step, drainEvents_eq]
  | cons step steps inductionHypothesis =>
      simp only [List.cons_append, replay, inductionHypothesis]

/-- A history leads to the state that its steps make of the first one. -/
theorem replay_state (rule : Rule) (steps : List RuleStep) :
    (rule.replay steps).2.state = steps.foldl RuleStep.next rule.state := by
  induction steps generalizing rule with
  | nil => rfl
  | cons step steps inductionHypothesis =>
      rw [List.foldl_cons, ← step_state]
      exact inductionHypothesis (rule.step step).2

end Rule

namespace RuleStep

/-- The events of a history are those of its first part and then those of the rest. -/
theorem events_append (state : RuleState) (first second : List RuleStep) :
    events state (first ++ second) = events state first ++ events (first.foldl next state) second := by
  induction first generalizing state with
  | nil => rfl
  | cons step rest inductionHypothesis =>
      simp only [List.cons_append, events, List.foldl_cons, inductionHypothesis, List.append_assoc]

/-- A step never changes whose rule it is. -/
theorem next_identity (state : RuleState) (step : RuleStep) :
    (step.next state).id = state.id ∧ (step.next state).tenant = state.tenant := by
  cases alters : step.alters state with
  | true =>
      rw [next_of_altered alters]
      cases step <;> exact ⟨rfl, rfl⟩
  | false =>
      rw [next_of_unaltered alters]
      exact ⟨rfl, rfl⟩

/-- No history changes whose rule it is. -/
theorem foldl_next_identity (state : RuleState) (steps : List RuleStep) :
    (steps.foldl next state).id = state.id ∧ (steps.foldl next state).tenant = state.tenant := by
  induction steps generalizing state with
  | nil => exact ⟨rfl, rfl⟩
  | cons step steps inductionHypothesis =>
      obtain ⟨sameId, sameTenant⟩ := next_identity state step
      rw [List.foldl_cons, ← sameId, ← sameTenant]
      exact inductionHypothesis (step.next state)

end RuleStep

end ContactRules
