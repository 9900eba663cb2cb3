/-
This file defines the kinds of rules and of the occurrences that set them off.
-/

import ContactRules.Kind

namespace ContactRules

/-- A trigger names the occurrence for which a rule is considered. -/
inductive Trigger where
  | sessionStarted
  | sessionEnded
  | sessionTimeout
  | messageReceived
  | messageSent
  | noResponseTimeout
  | statusChanged
  | stageChanged
  | contactCreated
  | contactUpdated
  | tagAdded
  | tagRemoved
  | agentAssigned
  | purchaseCompleted
  | paymentFailed
  | webhookReceived
  | scheduled
  | custom
deriving DecidableEq

namespace Trigger

def all : List Trigger :=
  [sessionStarted, sessionEnded, sessionTimeout, messageReceived, messageSent, noResponseTimeout,
    statusChanged, stageChanged, contactCreated, contactUpdated, tagAdded, tagRemoved, agentAssigned,
    purchaseCompleted, paymentFailed, webhookReceived, scheduled, custom]

def name : Trigger → String
  | sessionStarted => "session.started"
  | sessionEnded => "session.ended"
  | sessionTimeout => "session.timeout"
  | messageReceived => "message.received"
  | messageSent => "message.sent"
  | noResponseTimeout => "no_response.timeout"
  | statusChanged => "status.changed"
  | stageChanged => "stage.changed"
  | contactCreated => "contact.created"
  | contactUpdated => "contact.updated"
  | tagAdded => "tag.added"
  | tagRemoved => "tag.removed"
  | agentAssigned => "agent.assigned"
  | purchaseCompleted => "purchase.completed"
  | paymentFailed => "payment.failed"
  | webhookReceived => "webhook.received"
  | scheduled => "scheduled"
  | custom => "custom"

instance : Kind Trigger := ⟨"trigger", all, name⟩

theorem mem_all (trigger : Trigger) : trigger ∈ all := by
  cases trigger <;> simp [all]

end Trigger

/-- The kind of a rule says whether the rule belongs to a pipeline. -/
inductive RuleKind where
  | pipelineAutomation
  | followUp
  | reengagement
  | onboarding
  | event
  | scheduled
  | scheduledReport
  | timeNotification
  | webhook
  | custom
deriving DecidableEq

namespace RuleKind

def all : List RuleKind :=
  [pipelineAutomation, followUp, reengagement, onboarding, event, scheduled, scheduledReport,
    timeNotification, webhook, custom]

def name : RuleKind → String
  | pipelineAutomation => "pipeline_automation"
  | followUp => "follow_up"
  | reengagement => "reengagement"
  | onboarding => "onboarding"
  | event => "event"
  | scheduled => "scheduled"
  | scheduledReport => "scheduled_report"
  | timeNotification => "time_notification"
  | webhook => "webhook"
  | custom => "custom"

instance : Kind RuleKind := ⟨"automation type", all, name⟩

theorem mem_all (kind : RuleKind) : kind ∈ all := by
  cases kind <;> simp [all]

/-- A rule of such a kind works within one pipeline. -/
def isPipelineScoped : RuleKind → Bool
  | pipelineAutomation => true
  | followUp => true
  | reengagement => true
  | onboarding => true
  | _ => false

end RuleKind

/-- The kind of an action says what it does to the outside. -/
inductive ActionKind where
  | sendMessage
  | changeStatus
  | addTag
  | removeTag
  | sendWebhook
  | triggerWorkflow
  | assignAgent
  | updateContactField
deriving DecidableEq

namespace ActionKind

def all : List ActionKind :=
  [sendMessage, changeStatus, addTag, removeTag, sendWebhook, triggerWorkflow, assignAgent,
    updateContactField]

def name : ActionKind → String
  | sendMessage => "send_message"
  | changeStatus => "change_status"
  | addTag => "add_tag"
  | removeTag => "remove_tag"
  | sendWebhook => "send_webhook"
  | triggerWorkflow => "trigger_workflow"
  | assignAgent => "assign_agent"
  | updateContactField => "update_contact_field"

instance : Kind ActionKind := ⟨"action type", all, name⟩

theorem mem_all (kind : ActionKind) : kind ∈ all := by
  cases kind <;> simp [all]

end ActionKind

end ContactRules
