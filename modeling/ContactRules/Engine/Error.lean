/-
This file defines the reasons why the engine does not do what it is asked.
-/

import ContactRules.Dispatch.Error
import ContactRules.Schedule.Basic
import ContactRules.Store

namespace ContactRules

/-- The engine fails when it cannot read a rule, perform an action or accept a schedule. -/
inductive EngineError where
  | ruleNotFound (id : Uuid)
  | store (error : StoreError)
  | action (error : ActionError)
  | noScheduler
  | handOff (reason : String)
  | schedule (error : ScheduleError)

namespace EngineError

def message : EngineError → String
  | ruleNotFound id => "automation rule not found: " ++ id.text
  | store error => "repository error: " ++ error.message
  | action error => "action failed: " ++ error.message
  | noScheduler => "delayed action requires a delayed-action scheduler"
  | handOff reason => "failed to schedule delayed action: " ++ reason
  | schedule error => "invalid schedule: " ++ error.message

/-- This is the short name of an error, for programs. -/
def code : EngineError → String
  | ruleNotFound _ => "rule_not_found"
  | store _ => "repository"
  | action _ => "action"
  | noScheduler => "no_delayed_scheduler"
  | handOff _ => "scheduling"
  | schedule _ => "schedule"

def isNotFound : EngineError → Bool
  | ruleNotFound _ => true
  | _ => false

/-- A rule that is not in the store is told apart from a store that fails. -/
def ofStore (id : Uuid) (error : StoreError) : EngineError :=
  if error.isNotFound then ruleNotFound id else store error

end EngineError

end ContactRules
