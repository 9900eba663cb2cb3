/-
This file defines the parameters of each kind of action.
-/

import ContactRules.Dispatch.Error
import ContactRules.Rule.Action
import ContactRules.Text.Blank

namespace ContactRules

open ContactRules.Json
open ContactRules.Wire

/-- Parameters are decoded, and then checked for what their types do not say. Written out, those that
were left out have their own values, or null. -/
class Params (α : Type) where
  decoder : Decoder α
  check : α → Except ParamsError Unit
  encode : α → List (String × Value)

namespace Params

def ofFields {α : Type} [Params α] (fields : Fields Value) : Except ParamsError α := do
  let params : α ← (decodeValue decoder (Value.ofFields fields)).mapError .undecodable
  check params
  return params

/-- These are the parameters of an action. An error names the action's own kind. -/
def ofAction {α : Type} [Params α] (action : Action) : Except ActionError α :=
  (ofFields action.params).mapError (.invalidParams action.kind)

/-- A text must have a character that is not blank. -/
def checkText (field content : String) : Except ParamsError Unit :=
  if Text.blank content then .error (.blank field) else .ok ()

end Params

/-- A message may name a channel of its own. -/
structure MessageParams where
  content : String
  channel : Option Uuid

instance : Params MessageParams where
  decoder :=
    let record : Record MessageParams :=
      MessageParams.mk <$> Record.required "content" Decoder.text
        <*> Record.omissible "channel_id" Decoder.uuid
    record.decoder "SendMessageParams"
  check params := Params.checkText "content" params.content
  encode params :=
    [("content", .text params.content), ("channel_id", Value.ofOption Uuid.encode params.channel)]

structure StatusParams where
  status : String

instance : Params StatusParams where
  decoder := (StatusParams.mk <$> Record.required "status" Decoder.text).decoder "ChangeStatusParams"
  check params := Params.checkText "status" params.status
  encode params := [("status", .text params.status)]

/-- These parameters serve to add a tag and to remove it. -/
structure TagParams where
  tag : String

instance : Params TagParams where
  decoder := (TagParams.mk <$> Record.required "tag" Decoder.text).decoder "TagParams"
  check params := Params.checkText "tag" params.tag
  encode params := [("tag", .text params.tag)]

/-- A webhook is called by one of these methods. -/
inductive WebMethod where
  | post
  | put
  | patch
deriving DecidableEq

namespace WebMethod

def name : WebMethod → String
  | post => "POST"
  | put => "PUT"
  | patch => "PATCH"

/-- A method is named in capital letters or in small ones. -/
def decoder : Decoder WebMethod :=
  Decoder.named
    [("POST", post), ("post", post), ("PUT", put), ("put", put), ("PATCH", patch), ("patch", patch)]

end WebMethod

/-- A webhook without a payload of its own sends the context of the action. -/
structure WebhookParams where
  url : String
  method : WebMethod
  headers : Fields String
  payload : Option Value

def isWebAddress (url : String) : Bool :=
  "http://".toList.isPrefixOf url.toList || "https://".toList.isPrefixOf url.toList

instance : Params WebhookParams where
  decoder :=
    let record : Record WebhookParams :=
      WebhookParams.mk <$> Record.required "url" Decoder.text
        <*> Record.defaulted "method" WebMethod.decoder .post
        <*> Record.defaulted "headers" (Decoder.fields Decoder.text) Fields.empty
        <*> Record.omissible "payload" Decoder.value
    record.decoder "WebhookParams"
  check params := if isWebAddress params.url then .ok () else .error (.notWeb params.url)
  encode params :=
    [("url", .text params.url), ("method", .text params.method.name),
      ("headers", Value.ofFields (params.headers.map Value.text)),
      ("payload", params.payload.getD .null)]

structure WorkflowParams where
  workflow : String
  input : Fields Value

instance : Params WorkflowParams where
  decoder :=
    let record : Record WorkflowParams :=
      WorkflowParams.mk <$> Record.required "workflow_id" Decoder.text
        <*> Record.defaulted "input" (Decoder.fields Decoder.value) Fields.empty
    record.decoder "TriggerWorkflowParams"
  check params := Params.checkText "workflow_id" params.workflow
  encode params :=
    [("workflow_id", .text params.workflow), ("input", Value.ofFields params.input)]

structure AgentParams where
  agent : Uuid

instance : Params AgentParams where
  decoder := (AgentParams.mk <$> Record.required "agent_id" Decoder.uuid).decoder "AssignAgentParams"
  check _ := .ok ()
  encode params := [("agent_id", params.agent.encode)]

/-- A field of a contact may take any value. -/
structure FieldParams where
  field : String
  value : Value

instance : Params FieldParams where
  decoder :=
    let record : Record FieldParams :=
      FieldParams.mk <$> Record.required "field" Decoder.text
        <*> Record.required "value" Decoder.value
    record.decoder "UpdateContactFieldParams"
  check params := Params.checkText "field" params.field
  encode params := [("field", .text params.field), ("value", params.value)]

namespace ActionKind

/-- These are the parameters of an action written out as an action of a kind takes them. -/
def readParams (kind : ActionKind) (action : Action) : Except ActionError (List (String × Value)) :=
  match kind with
  | sendMessage => (Params.ofAction action).map fun (params : MessageParams) => Params.encode params
  | changeStatus => (Params.ofAction action).map fun (params : StatusParams) => Params.encode params
  | addTag => (Params.ofAction action).map fun (params : TagParams) => Params.encode params
  | removeTag => (Params.ofAction action).map fun (params : TagParams) => Params.encode params
  | sendWebhook => (Params.ofAction action).map fun (params : WebhookParams) => Params.encode params
  | triggerWorkflow => (Params.ofAction action).map fun (params : WorkflowParams) => Params.encode params
  | assignAgent => (Params.ofAction action).map fun (params : AgentParams) => Params.encode params
  | updateContactField => (Params.ofAction action).map fun (params : FieldParams) => Params.encode params

end ActionKind

end ContactRules
