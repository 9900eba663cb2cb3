/-
This file defines events and the buffers that keep them until they are published.
-/

import ContactRules.Wire.Record

namespace ContactRules

open ContactRules.Calendar
open ContactRules.Json
open ContactRules.Wire

def Calendar.Instant.encode (instant : Instant) : Value := .text instant.text

/-- A label is 128 bits. Labels of later times come later in the order of their texts. -/
structure EventLabel where
  bits : BitVec 128
deriving DecidableEq

namespace EventLabel

/-- The digits and letters of a label; letters that look like digits are left out. -/
def alphabet : List Char := "0123456789ABCDEFGHJKMNPQRSTVWXYZ".toList

/-- These are the characters of a number, the most significant first, as many as asked for. -/
def characters (value : Nat) : Nat → List Char
  | 0 => []
  | count + 1 => characters (value / 32) count ++ [alphabet.getD (value % 32) '0']

/-- A label has twenty-six characters. -/
def text (label : EventLabel) : String := String.ofList (characters label.bits.toNat 26)

end EventLabel

/-- A stamp is what an event takes from the outside: its label and the time. -/
structure Stamp where
  label : EventLabel
  now : Instant

/-- This is a stamp of the same time whose label comes so many labels later. -/
def Stamp.later (stamp : Stamp) (count : Nat) : Stamp :=
  { stamp with label := ⟨stamp.label.bits + BitVec.ofNat 128 count⟩ }

/-- An event says what has happened to an aggregate. -/
structure Event where
  id : String
  type : String
  aggregate : String
  tenant : String
  occurredAt : Instant
  payload : Value

namespace Event

def create (stamp : Stamp) (type aggregate tenant : String) (payload : Value) : Event :=
  ⟨stamp.label.text, type, aggregate, tenant, stamp.now, payload⟩

/-- A payload that cannot be encoded is recorded as null. -/
def ofPayload (stamp : Stamp) (type aggregate tenant : String) (payload : Option Value) : Event :=
  create stamp type aggregate tenant (payload.getD .null)

def record : Record Event :=
  Event.mk <$> Record.required "event_id" Decoder.text
    <*> Record.required "event_type" Decoder.text
    <*> Record.required "aggregate_id" Decoder.text
    <*> Record.required "tenant_id" Decoder.text
    <*> Record.required "occurred_at" Decoder.instant
    <*> Record.required "payload" Decoder.value

def decoder : Decoder Event := record.decoder "DomainEvent"

def encode (event : Event) : Value :=
  .object [("event_id", .text event.id), ("event_type", .text event.type),
    ("aggregate_id", .text event.aggregate), ("tenant_id", .text event.tenant),
    ("occurred_at", event.occurredAt.encode), ("payload", event.payload)]

end Event

/-- A buffer keeps events in the order in which they were recorded. -/
structure EventQueue where
  pending : List Event

namespace EventQueue

def empty : EventQueue := ⟨[]⟩

def record (buffer : EventQueue) (event : Event) : EventQueue :=
  ⟨buffer.pending ++ [event]⟩

/-- This hands out all events and leaves none. -/
def drain (buffer : EventQueue) : List Event × EventQueue :=
  (buffer.pending, empty)

def size (buffer : EventQueue) : Nat := buffer.pending.length

def isEmpty (buffer : EventQueue) : Bool := buffer.pending.isEmpty

end EventQueue

end ContactRules
