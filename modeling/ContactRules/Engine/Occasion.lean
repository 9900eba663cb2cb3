/-
This file says which rules an occurrence concerns and which facts they are judged by.
-/

import ContactRules.Engine.Basic

namespace ContactRules

open ContactRules.Calendar
open ContactRules.Json
open ContactRules.Wire

/-- A session is a conversation with a contact. -/
structure Session where
  tenant : String
  pipeline : Uuid
  id : Uuid
  contact : Uuid
  channel : Option Uuid
  startedAt : Instant
  messageCount : UInt64

/-- This is the move of a contact from one status to another. -/
structure StatusChange where
  tenant : String
  pipeline : Uuid
  contact : Uuid
  session : Option Uuid
  old : String
  new : String

/-- An occasion is all that the engine is told of an occurrence. -/
structure Occasion where
  pipeline : Uuid
  trigger : Trigger
  facts : Facts
  context : Context

namespace Session

def record : Record Session :=
  Session.mk <$> Record.required "tenant_id" Decoder.text
    <*> Record.required "pipeline_id" Decoder.uuid
    <*> Record.required "session_id" Decoder.uuid
    <*> Record.required "contact_id" Decoder.uuid
    <*> Record.omissible "channel_id" Decoder.uuid
    <*> Record.required "started_at" Decoder.instant
    <*> Record.required "message_count" Decoder.word64

def decoder : Decoder Session := record.decoder "SessionInfo"

def encode (session : Session) : Value :=
  .object [("tenant_id", .text session.tenant), ("pipeline_id", session.pipeline.encode),
    ("session_id", session.id.encode), ("contact_id", session.contact.encode),
    ("channel_id", Value.ofOption Uuid.encode session.channel),
    ("started_at", session.startedAt.encode),
    ("message_count", Value.ofNat session.messageCount.toNat)]

/-- These facts are known on every occasion of a session. -/
def facts (session : Session) : Facts :=
  let counted : Facts := Fields.empty.insert "message_count" (Value.ofNat session.messageCount.toNat)
  match session.channel with
  | some channel => counted.insert "channel_id" channel.encode
  | none => counted

/-- Actions of the session concern its contact. -/
def context (session : Session) (trigger : Trigger) : Context :=
  { Context.ofTenant session.tenant with
    session := some session.id
    contact := some session.contact
    channel := session.channel
    pipeline := some session.pipeline
    trigger := some trigger }

/-- This is an occasion of the session on which one more fact is known. -/
def occasion (session : Session) (trigger : Trigger) (name : String) (value : Value) : Occasion :=
  ⟨session.pipeline, trigger, session.facts.insert name value, session.context trigger⟩

/-- A session that ends before it starts has taken no time. -/
def closed (session : Session) (trigger : Trigger) (instant : Instant) : Occasion :=
  session.occasion trigger "session_duration_minutes"
    (Value.ofNat (session.startedAt.minutesUntil instant).toNat)

def ended (session : Session) (instant : Instant) : Occasion :=
  session.closed .sessionEnded instant

/-- The session was closed because nothing happened in it. -/
def timedOut (session : Session) (instant : Instant) : Occasion :=
  session.closed .sessionTimeout instant

/-- The contact has not answered since the last message. -/
def noResponse (session : Session) (lastMessageAt now : Instant) : Occasion :=
  session.occasion .noResponseTimeout "hours_since_last_message"
    (Value.ofNat (lastMessageAt.hoursUntil now).toNat)

/-- A message has arrived, which the number of messages counts already. -/
def messageReceived (session : Session) (content : String) : Occasion :=
  session.occasion .messageReceived "message_content" (.text content)

end Session

namespace StatusChange

def record : Record StatusChange :=
  StatusChange.mk <$> Record.required "tenant_id" Decoder.text
    <*> Record.required "pipeline_id" Decoder.uuid
    <*> Record.required "contact_id" Decoder.uuid
    <*> Record.omissible "session_id" Decoder.uuid
    <*> Record.required "old_status" Decoder.text
    <*> Record.required "new_status" Decoder.text

def decoder : Decoder StatusChange := record.decoder "StatusChange"

def encode (change : StatusChange) : Value :=
  .object [("tenant_id", .text change.tenant), ("pipeline_id", change.pipeline.encode),
    ("contact_id", change.contact.encode),
    ("session_id", Value.ofOption Uuid.encode change.session),
    ("old_status", .text change.old), ("new_status", .text change.new)]

/-- Both statuses are known as facts. -/
def facts (change : StatusChange) : Facts :=
  (Fields.empty.insert "old_status" (.text change.old)).insert "new_status" (.text change.new)

def occasion (change : StatusChange) : Occasion where
  pipeline := change.pipeline
  trigger := .statusChanged
  facts := change.facts
  context :=
    { Context.ofTenant change.tenant with
      session := change.session
      contact := some change.contact
      pipeline := some change.pipeline
      trigger := some .statusChanged
      metadata := change.facts }

end StatusChange

namespace Engine

variable {σ : Type}

/-- This runs the rules that an occasion concerns. -/
def runOccasion (engine : Engine σ) (source : RuleSource) (occasion : Occasion) (state : σ) :
    Except EngineError Report × σ :=
  engine.runTrigger source occasion.pipeline occasion.trigger occasion.facts occasion.context state

end Engine

end ContactRules
