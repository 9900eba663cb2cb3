/-
This file defines the reasons why actions fail.
-/

import ContactRules.Rule.Kinds

namespace ContactRules

open ContactRules.Wire

/-- The reasons why the parameters of an action are refused. -/
inductive ParamsError where
  | undecodable (error : DecodeError)
  | blank (field : String)
  | notWeb (url : String)
  | otherKind (kind : ActionKind)

def ParamsError.message : ParamsError → String
  | undecodable error => error.message
  | blank field => field ++ " must not be empty"
  | notWeb url => "url must be http(s), got " ++ Text.quoted url
  | otherKind kind => "handler received a " ++ kind.name ++ " action"

/-- An action needs someone whom it concerns. -/
inductive Target where
  | contact
  | sessionOrContact
deriving DecidableEq

def Target.name : Target → String
  | contact => "contact_id"
  | sessionOrContact => "session_id or contact_id"

/-- An action fails because it is malformed, or because a collaborator does. -/
inductive ActionError where
  | noHandler (kind : ActionKind)
  | invalidParams (kind : ActionKind) (error : ParamsError)
  | missingTarget (kind : ActionKind) (target : Target)
  | collaborator (name reason : String)
  | http (reason : String)
  | webhookStatus (url : String) (status : Nat)
  | encoding (reason : String)

namespace ActionError

def message : ActionError → String
  | noHandler kind => "no handler registered for action type " ++ kind.name
  | invalidParams kind error => "invalid params for " ++ kind.name ++ ": " ++ error.message
  | missingTarget kind target => kind.name ++ " requires " ++ target.name ++ " in the action context"
  | collaborator name reason => name ++ " failed: " ++ reason
  | http reason => "webhook request failed: " ++ reason
  | webhookStatus url status => "webhook " ++ url ++ " answered with status " ++ toString status
  | encoding reason => "failed to encode payload: " ++ reason

/-- This is the short name of an error, for programs. -/
def code : ActionError → String
  | noHandler _ => "unknown_action_type"
  | invalidParams _ _ => "invalid_params"
  | missingTarget _ _ => "missing_target"
  | collaborator _ _ => "collaborator"
  | http _ => "http"
  | webhookStatus _ _ => "webhook_status"
  | encoding _ => "encoding"

/-- The action is malformed, as opposed to a collaborator that fails. -/
def isValidation : ActionError → Bool
  | noHandler _ => true
  | invalidParams _ _ => true
  | missingTarget _ _ => true
  | collaborator _ _ => false
  | http _ => false
  | webhookStatus _ _ => false
  | encoding _ => false

end ActionError

end ContactRules
