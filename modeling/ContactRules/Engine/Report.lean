/-
This file defines what the engine reports of the rules that it has considered.
-/

import ContactRules.Engine.Error

namespace ContactRules

open ContactRules.Json

/-- This is what happened to a rule. -/
inductive Verdict where
  | executed
  | conditionsNotMet
  | skipped
  | failed (index : Nat) (error : EngineError)

namespace Verdict

def isExecuted : Verdict → Bool
  | executed => true
  | _ => false

def isFailed : Verdict → Bool
  | failed _ _ => true
  | _ => false

/-- A failure names the action that failed and the reason. -/
def encode : Verdict → List (String × Value)
  | executed => [("status", .text "executed")]
  | conditionsNotMet => [("status", .text "conditions_not_met")]
  | skipped => [("status", .text "skipped")]
  | failed index error =>
      [("status", .text "failed"), ("action_index", Value.ofNat index), ("error", .text error.message)]

end Verdict

/-- These are the numbers of actions that were performed and that were handed off. -/
structure Tally where
  performed : Nat
  delayed : Nat
deriving DecidableEq

namespace Tally

def zero : Tally := ⟨0, 0⟩

/-- This counts an action that has succeeded. -/
def count (tally : Tally) (action : Action) : Tally :=
  if action.isDelayed then { tally with delayed := tally.delayed + 1 }
  else { tally with performed := tally.performed + 1 }

end Tally

/-- An outcome says what happened to a rule and how many of its actions succeeded. -/
structure Outcome where
  rule : Uuid
  name : String
  verdict : Verdict
  tally : Tally

namespace Outcome

/-- This is the outcome of a rule of which no action has been attempted. -/
def untouched (rule : Rule) (verdict : Verdict) : Outcome :=
  ⟨rule.state.id, rule.state.name, verdict, Tally.zero⟩

def isExecuted (outcome : Outcome) : Bool := outcome.verdict.isExecuted

def isFailed (outcome : Outcome) : Bool := outcome.verdict.isFailed

def encode (outcome : Outcome) : List (String × Value) :=
  [("rule_id", outcome.rule.encode), ("rule_name", .text outcome.name)] ++ outcome.verdict.encode ++
    [("actions_executed", Value.ofNat outcome.tally.performed),
      ("actions_delayed", Value.ofNat outcome.tally.delayed)]

end Outcome

/-- A report lists the outcomes of the enabled rules in the order in which they were considered. -/
structure Report where
  trigger : Trigger
  pipeline : Uuid
  outcomes : List Outcome

namespace Report

def evaluated (report : Report) : Nat := report.outcomes.length

/-- This is the number of rules whose conditions held and whose actions all succeeded. -/
def executed (report : Report) : Nat := report.outcomes.countP Outcome.isExecuted

def failures (report : Report) : List Outcome := report.outcomes.filter Outcome.isFailed

def hasFailures (report : Report) : Bool := report.outcomes.any Outcome.isFailed

/-- This is the number of actions that were handed off by all rules. -/
def delayed (report : Report) : Nat :=
  (report.outcomes.map fun outcome => outcome.tally.delayed).foldr (· + ·) 0

def outcome? (report : Report) (rule : Uuid) : Option Outcome :=
  report.outcomes.find? fun outcome => outcome.rule = rule

def encode (report : Report) : List (String × Value) :=
  [("trigger", Kind.encode report.trigger), ("pipeline_id", report.pipeline.encode),
    ("rules_evaluated", Value.ofNat report.evaluated),
    ("rules_executed", Value.ofNat report.executed),
    ("outcomes", .list (report.outcomes.map fun outcome => .object outcome.encode))]

end Report

end ContactRules
