/-
This file defines the changes of rules and their events.
-/

import ContactRules.Event
import ContactRules.Rule.Action

namespace ContactRules

open ContactRules.Json
open ContactRules.Wire

/-- A change says what has happened to a rule. -/
inductive RuleChange where
  | created (kind : RuleKind) (pipeline : Option Uuid) (name : String) (trigger : Trigger)
  | conditionsUpdated (count : Nat)
  | actionsUpdated (count : Nat)
  | descriptionUpdated
  | priorityChanged (old new : UInt32)
  | enabled
  | disabled
deriving DecidableEq

namespace RuleChange

/-- This is the type of the event that tells of a change. -/
def type : RuleChange → String
  | created _ _ _ _ => "automation.created"
  | conditionsUpdated _ => "automation.conditions_updated"
  | actionsUpdated _ => "automation.actions_updated"
  | descriptionUpdated => "automation.description_updated"
  | priorityChanged _ _ => "automation.priority_changed"
  | enabled => "automation.enabled"
  | disabled => "automation.disabled"

/-- This is the payload of the event, which names the rule. -/
def payload (rule : Uuid) (change : RuleChange) : Value :=
  .object (("automation_id", rule.encode) ::
    match change with
    | created kind pipeline name trigger =>
        ("automation_type", Kind.encode kind) :: optionalField "pipeline_id" Uuid.encode pipeline ++
          [("name", .text name), ("trigger", Kind.encode trigger)]
    | conditionsUpdated count => [("condition_count", Value.ofNat count)]
    | actionsUpdated count => [("action_count", Value.ofNat count)]
    | priorityChanged old new =>
        [("old_priority", Value.ofNat old.toNat), ("new_priority", Value.ofNat new.toNat)]
    | _ => [])

def toEvent (change : RuleChange) (stamp : Stamp) (rule : Uuid) (tenant : String) : Event :=
  Event.create stamp change.type rule.text tenant (change.payload rule)

/-- An event with this payload tells of the creation of a rule. -/
def createdDecoder : Decoder (Uuid × RuleChange) :=
  let build (rule : Uuid) (kind : RuleKind) (pipeline : Option Uuid) (name : String)
      (trigger : Trigger) : Uuid × RuleChange :=
    (rule, created kind pipeline name trigger)
  let record : Record (Uuid × RuleChange) :=
    build <$> Record.required "automation_id" Decoder.uuid
      <*> Record.required "automation_type" Kind.decoder
      <*> Record.nullable "pipeline_id" Decoder.uuid
      <*> Record.required "name" Decoder.text
      <*> Record.required "trigger" Kind.decoder
  record.decoder "AutomationCreated"

/-- An event with this payload tells of a new priority. -/
def priorityChangedDecoder : Decoder (Uuid × RuleChange) :=
  let build (rule : Uuid) (old new : UInt32) : Uuid × RuleChange := (rule, priorityChanged old new)
  let record : Record (Uuid × RuleChange) :=
    build <$> Record.required "automation_id" Decoder.uuid
      <*> Record.required "old_priority" Decoder.word32
      <*> Record.required "new_priority" Decoder.word32
  record.decoder "AutomationPriorityChanged"

end RuleChange

end ContactRules
