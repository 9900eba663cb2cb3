/-
This file defines the calls that actions make on the outside.
-/

import ContactRules.Dispatch.Params

namespace ContactRules

open ContactRules.Json

/-- A collaborator takes the calls of one role. -/
inductive Role where
  | messages
  | statuses
  | tags
  | webhooks
  | workflows
  | agents
  | contacts
deriving DecidableEq

namespace Role

def all : List Role := [messages, statuses, tags, webhooks, workflows, agents, contacts]

def name : Role → String
  | messages => "messages"
  | statuses => "statuses"
  | tags => "tags"
  | webhooks => "webhooks"
  | workflows => "workflows"
  | agents => "agents"
  | contacts => "contacts"

/-- This is the title of the collaborator in a role. -/
def collaborator : Role → String
  | messages => "message sender"
  | statuses => "status changer"
  | tags => "tag manager"
  | webhooks => "webhook sender"
  | workflows => "workflow trigger"
  | agents => "agent assigner"
  | contacts => "contact updater"

theorem mem_all (role : Role) : role ∈ all := by
  cases role <;> simp [all]

end Role

/-- An action of each kind calls the collaborator in one role. -/
def ActionKind.role : ActionKind → Role
  | sendMessage => .messages
  | changeStatus => .statuses
  | addTag => .tags
  | removeTag => .tags
  | sendWebhook => .webhooks
  | triggerWorkflow => .workflows
  | assignAgent => .agents
  | updateContactField => .contacts

/-- A message goes into a session, or to a contact when there is no session. -/
structure Message where
  tenant : String
  session : Option Uuid
  contact : Option Uuid
  channel : Option Uuid
  content : String

namespace Message

/-- A name that the message does not give is null. -/
def encode (message : Message) : Value :=
  .object [("tenant_id", .text message.tenant),
    ("session_id", Value.ofOption Uuid.encode message.session),
    ("contact_id", Value.ofOption Uuid.encode message.contact),
    ("channel_id", Value.ofOption Uuid.encode message.channel),
    ("content", .text message.content)]

end Message

/-- This is a request to an address on the web. -/
structure WebRequest where
  url : String
  method : WebMethod
  headers : Fields String
  body : Value

/-- This is a request to start a workflow. -/
structure WorkflowStart where
  workflow : String
  tenant : String
  rule : Option Uuid
  contact : Option Uuid
  session : Option Uuid
  input : Fields Value

namespace WorkflowStart

/-- A name that the request does not give is null. -/
def encode (request : WorkflowStart) : Value :=
  .object [("workflow_id", .text request.workflow), ("tenant_id", .text request.tenant),
    ("rule_id", Value.ofOption Uuid.encode request.rule),
    ("contact_id", Value.ofOption Uuid.encode request.contact),
    ("session_id", Value.ofOption Uuid.encode request.session),
    ("input", Value.ofFields request.input)]

end WorkflowStart

/-- A call says what a collaborator is asked to do. -/
inductive Call where
  | sendMessage (message : Message)
  | changeStatus (tenant : String) (contact : Uuid) (status : String)
  | addTag (tenant : String) (contact : Uuid) (tag : String)
  | removeTag (tenant : String) (contact : Uuid) (tag : String)
  | sendWebhook (request : WebRequest)
  | startWorkflow (request : WorkflowStart)
  | assignAgent (tenant : String) (contact : Uuid) (session : Option Uuid) (agent : Uuid)
  | updateField (tenant : String) (contact : Uuid) (field : String) (value : Value)

/-- This is the role of the collaborator who takes a call. -/
def Call.role : Call → Role
  | sendMessage _ => .messages
  | changeStatus _ _ _ => .statuses
  | addTag _ _ _ => .tags
  | removeTag _ _ _ => .tags
  | sendWebhook _ => .webhooks
  | startWorkflow _ => .workflows
  | assignAgent _ _ _ _ => .agents
  | updateField _ _ _ _ => .contacts

namespace Call

/-- This is the address of a webhook. Other calls go to no address. -/
def url : Call → String
  | sendWebhook request => request.url
  | _ => ""

/-- These fields say what is asked of the collaborator. -/
def fields : Call → List (String × Value)
  | sendMessage message => [("message", message.encode)]
  | changeStatus tenant contact status =>
      [("tenant_id", .text tenant), ("contact_id", contact.encode), ("status", .text status)]
  | addTag tenant contact tag =>
      [("call", .text "add"), ("tenant_id", .text tenant), ("contact_id", contact.encode),
        ("tag", .text tag)]
  | removeTag tenant contact tag =>
      [("call", .text "remove"), ("tenant_id", .text tenant), ("contact_id", contact.encode),
        ("tag", .text tag)]
  | sendWebhook request =>
      [("url", .text request.url), ("method", .text request.method.name),
        ("headers", Value.ofFields (request.headers.map Value.text)), ("body", request.body)]
  | startWorkflow request => [("request", request.encode)]
  | assignAgent tenant contact session agent =>
      [("tenant_id", .text tenant), ("contact_id", contact.encode),
        ("session_id", Value.ofOption Uuid.encode session), ("agent_id", agent.encode)]
  | updateField tenant contact field value =>
      [("tenant_id", .text tenant), ("contact_id", contact.encode), ("field", .text field),
        ("value", value)]

/-- This is a call as it is written down, with the role that it goes to. -/
def encode (call : Call) : Value := .object (("port", .text call.role.name) :: call.fields)

end Call

/-- An attempt fails or not, and either way it may change the state of the outside. -/
abbrev Attempt (σ ε : Type) := σ → Except ε Unit × σ

/-- A team holds the collaborators that are present. Each of them takes the calls of its role. -/
def Team (σ : Type) := Role → Option (Call → Attempt σ ActionError)

namespace Team

variable {σ : Type}

def none : Team σ := fun _ => Option.none

/-- This puts a collaborator into a role. -/
def appoint (team : Team σ) (role : Role)
    (perform : Call → Attempt σ ActionError) : Team σ :=
  fun wanted => if wanted = role then some perform else team wanted

end Team

end ContactRules
