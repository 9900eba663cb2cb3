/-
This file defines rules, which tie a trigger to conditions and actions.
-/

import ContactRules.Rule.Change
import ContactRules.Rule.Facts
import ContactRules.Text.Blank

namespace ContactRules

open ContactRules.Calendar
open ContactRules.Json
open ContactRules.Wire

/-- The state of a rule is what a store keeps of it. -/
structure RuleState where
  id : Uuid
  kind : RuleKind
  pipeline : Option Uuid
  tenant : String
  name : String
  description : String
  trigger : Trigger
  conditions : List Condition
  actions : List Action
  priority : UInt32
  enabled : Bool
  createdAt : Instant
  updatedAt : Instant

namespace RuleState

def record : Record RuleState :=
  RuleState.mk <$> Record.required "id" Decoder.uuid
    <*> Record.required "automation_type" Kind.decoder
    <*> Record.nullable "pipeline_id" Decoder.uuid
    <*> Record.required "tenant_id" Decoder.text
    <*> Record.required "name" Decoder.text
    <*> Record.defaulted "description" Decoder.text ""
    <*> Record.required "trigger" Kind.decoder
    <*> Record.defaulted "conditions" (Decoder.list Condition.decoder) []
    <*> Record.defaulted "actions" (Decoder.list Action.decoder) []
    <*> Record.defaulted "priority" Decoder.word32 0
    <*> Record.required "enabled" Decoder.bool
    <*> Record.required "created_at" Decoder.instant
    <*> Record.required "updated_at" Decoder.instant

def decoder : Decoder RuleState := record.decoder "AutomationSnapshot"

/-- These are the fields of a state without its times. -/
def encodeUndated (state : RuleState) : List (String × Value) :=
  [("id", state.id.encode), ("automation_type", Kind.encode state.kind)] ++
    optionalField "pipeline_id" Uuid.encode state.pipeline ++
    [("tenant_id", .text state.tenant), ("name", .text state.name),
      ("description", .text state.description), ("trigger", Kind.encode state.trigger),
      ("conditions", .list (state.conditions.map Condition.encode)),
      ("actions", .list (state.actions.map Action.encode)),
      ("priority", Value.ofNat state.priority.toNat), ("enabled", .bool state.enabled)]

def encode (state : RuleState) : Value :=
  .object (state.encodeUndated ++
    [("created_at", state.createdAt.encode), ("updated_at", state.updatedAt.encode)])

end RuleState

/-- The reasons why there can be no such rule. -/
inductive RuleError where
  | missingTenant
  | missingName
  | pipelineRequired (kind : RuleKind)
deriving DecidableEq

namespace RuleError

def message : RuleError → String
  | missingTenant => "tenant_id is required"
  | missingName => "name is required"
  | pipelineRequired kind => "pipeline_id is required for " ++ kind.name ++ " automations"

/-- This is the short name of an error, for programs. -/
def code : RuleError → String
  | missingTenant => "missing_field"
  | missingName => "missing_field"
  | pipelineRequired _ => "pipeline_required"

end RuleError

/-- A rule has a state and the events that nobody has taken yet. -/
structure Rule where
  state : RuleState
  events : EventQueue

namespace Rule

/-- This is a rule as a store keeps it, without events. -/
def ofState (state : RuleState) : Rule := ⟨state, EventQueue.empty⟩

/-- This notes that a rule has changed. -/
def note (rule : Rule) (stamp : Stamp) (change : RuleChange) : Rule :=
  { rule with events := rule.events.record (change.toEvent stamp rule.state.id rule.state.tenant) }

/-- A nil identifier names no pipeline. -/
def namesPipeline : Option Uuid → Bool
  | some pipeline => !pipeline.isNil
  | none => false

/-- This checks what a rule needs: first the tenant, then the name, then the pipeline. -/
def check (kind : RuleKind) (pipeline : Option Uuid) (tenant name : String) : Except RuleError Unit :=
  if Text.blank tenant then .error .missingTenant
  else if Text.blank name then .error .missingName
  else if kind.isPipelineScoped && !namesPipeline pipeline then .error (.pipelineRequired kind)
  else .ok ()

/-- A new rule is enabled, does nothing yet and tells of its creation. -/
def create (id : Uuid) (stamp : Stamp) (kind : RuleKind) (pipeline : Option Uuid)
    (tenant name : String) (trigger : Trigger) : Except RuleError Rule := do
  check kind pipeline tenant name
  let state : RuleState :=
    ⟨id, kind, pipeline, tenant, name, "", trigger, [], [], 0, true, stamp.now, stamp.now⟩
  return (ofState state).note stamp (.created kind pipeline name trigger)

/-- This replaces the state of a rule and notes the change. -/
def change (rule : Rule) (stamp : Stamp) (state : RuleState) (change : RuleChange) : Rule :=
  { rule with state := { state with updatedAt := stamp.now } }.note stamp change

/-- A list that is the same as before changes nothing. -/
def setConditions (rule : Rule) (conditions : List Condition) (stamp : Stamp) : Rule :=
  if Condition.sameList rule.state.conditions conditions then rule
  else rule.change stamp { rule.state with conditions } (.conditionsUpdated conditions.length)

/-- A list that is the same as before changes nothing. -/
def setActions (rule : Rule) (actions : List Action) (stamp : Stamp) : Rule :=
  if Action.sameList rule.state.actions actions then rule
  else rule.change stamp { rule.state with actions } (.actionsUpdated actions.length)

def setDescription (rule : Rule) (description : String) (stamp : Stamp) : Rule :=
  if rule.state.description = description then rule
  else rule.change stamp { rule.state with description } .descriptionUpdated

def setPriority (rule : Rule) (priority : UInt32) (stamp : Stamp) : Rule :=
  if rule.state.priority = priority then rule
  else rule.change stamp { rule.state with priority } (.priorityChanged rule.state.priority priority)

def enable (rule : Rule) (stamp : Stamp) : Rule :=
  if rule.state.enabled then rule
  else rule.change stamp { rule.state with enabled := true } .enabled

def disable (rule : Rule) (stamp : Stamp) : Rule :=
  if rule.state.enabled then rule.change stamp { rule.state with enabled := false } .disabled
  else rule

/-- Each condition of the rule holds. -/
def conditionsHold (rule : Rule) (facts : Facts) : Bool :=
  Condition.allHold rule.state.conditions facts

def pendingEvents (rule : Rule) : List Event := rule.events.pending

/-- This hands out the events of a rule. -/
def drainEvents (rule : Rule) : List Event × Rule :=
  let (events, rest) := rule.events.drain
  (events, { rule with events := rest })

/-- All pending events are handed out, in their order, and none is left. The state stays as it is. -/
theorem drainEvents_eq (rule : Rule) : rule.drainEvents = (rule.pendingEvents, ofState rule.state) := rfl

end Rule

end ContactRules
