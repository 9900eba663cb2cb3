/-
This file defines the handlers of actions.
-/

import ContactRules.Dispatch.Call

namespace ContactRules

open ContactRules.Json

/-- A handler performs the actions of one kind. -/
structure Handler (σ : Type) where
  kind : ActionKind
  perform : Action → Context → Attempt σ ActionError

/-- A handler refuses an action of another kind than its own. -/
def ActionKind.expect (kind : ActionKind) (action : Action) : Except ActionError Unit :=
  if action.kind = kind then .ok () else .error (.invalidParams kind (.otherKind action.kind))

namespace Context

/-- This is the contact that an action concerns. -/
def requireContact (context : Context) (kind : ActionKind) : Except ActionError Uuid :=
  match context.contact with
  | some contact => .ok contact
  | none => .error (.missingTarget kind .contact)

/-- This checks that there is someone to whom a message can go. -/
def requireRecipient (context : Context) (kind : ActionKind) : Except ActionError Unit :=
  if context.session.isNone && context.contact.isNone then
    .error (.missingTarget kind .sessionOrContact)
  else .ok ()

end Context

namespace ActionKind

/-- This is the call that an action of a kind makes. Its parameters are checked before its target. -/
def call (kind : ActionKind) (action : Action) (context : Context) :
    Except ActionError Call := do
  kind.expect action
  match kind with
  | sendMessage =>
      let params : MessageParams ← Params.ofAction action
      context.requireRecipient kind
      return .sendMessage
        ⟨context.tenant, context.session, context.contact, params.channel.or context.channel,
          params.content⟩
  | changeStatus =>
      let params : StatusParams ← Params.ofAction action
      let contact ← context.requireContact kind
      return .changeStatus context.tenant contact params.status
  | addTag =>
      let params : TagParams ← Params.ofAction action
      let contact ← context.requireContact kind
      return .addTag context.tenant contact params.tag
  | removeTag =>
      let params : TagParams ← Params.ofAction action
      let contact ← context.requireContact kind
      return .removeTag context.tenant contact params.tag
  | sendWebhook =>
      let params : WebhookParams ← Params.ofAction action
      return .sendWebhook
        ⟨params.url, params.method, params.headers, params.payload.getD context.encode⟩
  | triggerWorkflow =>
      let params : WorkflowParams ← Params.ofAction action
      return .startWorkflow
        ⟨params.workflow, context.tenant, context.rule, context.contact, context.session,
          params.input⟩
  | assignAgent =>
      let params : AgentParams ← Params.ofAction action
      let contact ← context.requireContact kind
      return .assignAgent context.tenant contact context.session params.agent
  | updateContactField =>
      let params : FieldParams ← Params.ofAction action
      let contact ← context.requireContact kind
      return .updateField context.tenant contact params.field params.value

end ActionKind

namespace Handler

variable {σ : Type}

/-- This handler makes one call on a collaborator, or none when the action is malformed. -/
def ofMember (kind : ActionKind) (perform : Call → Attempt σ ActionError) : Handler σ where
  kind := kind
  perform := fun action context state =>
    match kind.call action context with
    | .ok call => perform call state
    | .error error => (.error error, state)

end Handler

end ContactRules
