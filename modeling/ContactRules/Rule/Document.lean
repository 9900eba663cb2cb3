/-
This file defines rule documents, in which rules travel between tenants.
-/

import ContactRules.Json.Printer
import ContactRules.Rule.Basic
import ContactRules.Wire.Document

namespace ContactRules

open ContactRules.Json
open ContactRules.Wire

/-- A document holds what a rule does. It leaves out whose rule it is and whether it is enabled. -/
structure RuleDocument where
  name : String
  description : String
  trigger : Trigger
  conditions : List Condition
  actions : List Action
  priority : UInt32

/-- The text of a document cannot be read, or does not hold a rule. -/
structure DocumentError where
  cause : DecodeError

namespace DocumentError

/-- The text is malformed, ends too early, or holds something else. -/
def category (error : DocumentError) : String :=
  match error.cause with
  | .fault .malformed => "syntax"
  | .fault .truncated => "eof"
  | _ => "data"

/-- Only a text that holds something else has more to say. -/
def message? (error : DocumentError) : Option String :=
  match error.cause with
  | .fault _ => none
  | cause => some ("invalid rule document: " ++ cause.message)

end DocumentError

namespace RuleDocument

def same (left right : RuleDocument) : Bool :=
  left.name == right.name && left.description == right.description && left.trigger == right.trigger &&
    Condition.sameList left.conditions right.conditions &&
    Action.sameList left.actions right.actions && left.priority == right.priority

def record : Record RuleDocument :=
  RuleDocument.mk <$> Record.required "name" Decoder.text
    <*> Record.defaulted "description" Decoder.text ""
    <*> Record.required "trigger" Kind.decoder
    <*> Record.defaulted "conditions" (Decoder.list Condition.decoder) []
    <*> Record.defaulted "actions" (Decoder.list Action.decoder) []
    <*> Record.defaulted "priority" Decoder.word32 0

def decoder : Decoder RuleDocument := record.decoder "RuleExport"

def encode (document : RuleDocument) : Value :=
  .object [("name", .text document.name), ("description", .text document.description),
    ("trigger", Kind.encode document.trigger),
    ("conditions", .list (document.conditions.map Condition.encode)),
    ("actions", .list (document.actions.map Action.encode)),
    ("priority", Value.ofNat document.priority.toNat)]

/-- This reads the text of a document as it comes, so the first fault in the text is found first. -/
def ofText (text : String) : Except DocumentError RuleDocument :=
  (Document.decode decoder text).mapError DocumentError.mk

/-- The text has its fields in the order of their declaration. -/
def text (document : RuleDocument) : String := document.encode.page

/-- This makes a new rule of a document. The rule has an identity of its own. -/
def toRule (document : RuleDocument) (id : Uuid) (stamp : Stamp) (kind : RuleKind)
    (pipeline : Option Uuid) (tenant : String) : Except RuleError Rule := do
  let rule ← Rule.create id stamp kind pipeline tenant document.name document.trigger
  let rule := rule.setDescription document.description (stamp.later 1)
  let rule := rule.setConditions document.conditions (stamp.later 2)
  let rule := rule.setActions document.actions (stamp.later 3)
  return rule.setPriority document.priority (stamp.later 4)

end RuleDocument

namespace Rule

/-- This is the document of a rule. -/
def toDocument (rule : Rule) : RuleDocument where
  name := rule.state.name
  description := rule.state.description
  trigger := rule.state.trigger
  conditions := rule.state.conditions
  actions := rule.state.actions
  priority := rule.state.priority

end Rule

end ContactRules
