/-
This file defines the actions of rules and the contexts in which they run.
-/

import ContactRules.Rule.Kinds

namespace ContactRules

open ContactRules.Json
open ContactRules.Wire

/-- An action has parameters for its kind, and may wait some minutes before it runs. -/
structure Action where
  kind : ActionKind
  params : Fields Value
  delayMinutes : UInt32

namespace Action

/-- This is an action without parameters that runs at once. -/
def ofKind (kind : ActionKind) : Action := ⟨kind, Fields.empty, 0⟩

def withParam (action : Action) (name : String) (value : Value) : Action :=
  { action with params := action.params.insert name value }

def withDelay (action : Action) (minutes : UInt32) : Action :=
  { action with delayMinutes := minutes }

def isDelayed (action : Action) : Bool := 0 < action.delayMinutes

def same (left right : Action) : Bool :=
  left.kind == right.kind && Json.sameFields left.params right.params &&
    left.delayMinutes == right.delayMinutes

def sameList : List Action → List Action → Bool
  | [], [] => true
  | left :: lefts, right :: rights => same left right && sameList lefts rights
  | _, _ => false

def record : Record Action :=
  Action.mk <$> Record.required "type" Kind.decoder
    <*> Record.defaulted "params" (Decoder.fields Decoder.value) Fields.empty
    <*> Record.defaulted "delay_minutes" Decoder.word32 0

def decoder : Decoder Action := record.decoder "RuleAction"

/-- Parameters are left out when there are none. -/
def encode (action : Action) : Value :=
  .object (("type", Kind.encode action.kind) ::
    (if action.params.isEmpty then [] else [("params", Value.ofFields action.params)]) ++
    [("delay_minutes", Value.ofNat action.delayMinutes.toNat)])

end Action

/-- A context names whom an action concerns. -/
structure Context where
  tenant : String
  session : Option Uuid
  contact : Option Uuid
  channel : Option Uuid
  pipeline : Option Uuid
  rule : Option Uuid
  trigger : Option Trigger
  metadata : Fields Value

namespace Context

/-- This is a context that names a tenant only. -/
def ofTenant (tenant : String) : Context :=
  ⟨tenant, none, none, none, none, none, none, Fields.empty⟩

def withMetadata (context : Context) (name : String) (value : Value) : Context :=
  { context with metadata := context.metadata.insert name value }

def record : Record Context :=
  Context.mk <$> Record.required "tenant_id" Decoder.text
    <*> Record.nullable "session_id" Decoder.uuid
    <*> Record.nullable "contact_id" Decoder.uuid
    <*> Record.nullable "channel_id" Decoder.uuid
    <*> Record.nullable "pipeline_id" Decoder.uuid
    <*> Record.nullable "rule_id" Decoder.uuid
    <*> Record.nullable "trigger" Kind.decoder
    <*> Record.defaulted "metadata" (Decoder.fields Decoder.value) Fields.empty

def decoder : Decoder Context := record.decoder "ActionContext"

end Context

def Uuid.encode (id : Uuid) : Value := .text id.text

namespace Context

/-- What a context does not name is left out. -/
def encode (context : Context) : Value :=
  .object (("tenant_id", .text context.tenant) ::
    optionalField "session_id" Uuid.encode context.session ++
    optionalField "contact_id" Uuid.encode context.contact ++
    optionalField "channel_id" Uuid.encode context.channel ++
    optionalField "pipeline_id" Uuid.encode context.pipeline ++
    optionalField "rule_id" Uuid.encode context.rule ++
    optionalField "trigger" Kind.encode context.trigger ++
    (if context.metadata.isEmpty then [] else [("metadata", Value.ofFields context.metadata)]))

end Context

end ContactRules
