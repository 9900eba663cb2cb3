/-
This file defines the scheduled rules of a rules file.
-/

import ContactRules.Rule.Document
import ContactRules.Schedule.ScheduledRule

namespace ContactRules

open ContactRules.Calendar
open ContactRules.Json
open ContactRules.Wire

/-- A definition says whose a rule is, what it does and when it fires. -/
structure RuleDefinition where
  tenant : String
  pipeline : Option Uuid
  kind : RuleKind
  rule : RuleDocument
  schedule : Schedule

/-- The reasons why no scheduled rule can be made. -/
inductive DefinitionError where
  | rule (error : RuleError)
  | schedule (error : ScheduleError)
deriving DecidableEq

namespace DefinitionError

def message : DefinitionError → String
  | rule error => error.message
  | schedule error => "invalid schedule: " ++ error.message

/-- This is the short name of an error, for programs. -/
def code : DefinitionError → String
  | rule error => error.code
  | schedule _ => "schedule"

end DefinitionError

namespace RuleDefinition

def record : Record RuleDefinition :=
  RuleDefinition.mk <$> Record.required "tenant_id" Decoder.text
    <*> Record.omissible "pipeline_id" Decoder.uuid
    <*> Record.defaulted "automation_type" Kind.decoder .scheduled
    <*> Record.required "rule" RuleDocument.decoder
    <*> Record.required "schedule" Schedule.decoder

def decoder : Decoder RuleDefinition := record.decoder "ScheduledRuleDefinition"

def encode (definition : RuleDefinition) : Value :=
  .object [("tenant_id", .text definition.tenant),
    ("pipeline_id", Value.ofOption Uuid.encode definition.pipeline),
    ("automation_type", Kind.encode definition.kind), ("rule", definition.rule.encode),
    ("schedule", definition.schedule.encode)]

/-- This makes the scheduled rule. The schedule is looked at only when the rule is valid. -/
def build (definition : RuleDefinition) (id : Uuid) (stamp : Stamp) (now : Instant) :
    Except DefinitionError ScheduledRule := do
  let rule ← (definition.rule.toRule id stamp definition.kind definition.pipeline
    definition.tenant).mapError .rule
  (ScheduledRule.create rule definition.schedule now).mapError .schedule

end RuleDefinition

end ContactRules
