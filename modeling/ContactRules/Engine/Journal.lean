/-
This file defines journals, which note what is asked of the outside, and stand-ins for it.
-/

import ContactRules.Engine.Basic

namespace ContactRules

open ContactRules.Json

/-- An effect is what a stand-in has done. -/
inductive Effect where
  | answered (call : Call)
  | performed (label : String) (params : Fields Value)

def Effect.encode : Effect → Value
  | .answered call => call.encode
  | .performed label params => .object [("stub", .text label), ("params", Value.ofFields params)]

/-- An entry says what an engine has asked: to perform an action, or to hand it off. -/
inductive JournalEntry where
  | performed (action : Action) (context : Context) (succeeded : Bool) (effects : List Effect)
  | handedOff (action : Action) (context : Context)

namespace JournalEntry

/-- This is the context of the action that was asked for. -/
def context : JournalEntry → Context
  | performed _ context _ _ => context
  | handedOff _ context => context

def encode : JournalEntry → Value
  | performed action context succeeded effects =>
      .object [("call", .text "execute"), ("action_type", Kind.encode action.kind),
        ("context", context.encode), ("ok", .bool succeeded),
        ("effects", .list (effects.map Effect.encode))]
  | handedOff action context =>
      .object [("call", .text "delay"), ("action", action.encode), ("context", context.encode),
        ("minutes_ahead", Value.ofNat action.delayMinutes.toNat)]

end JournalEntry

/-- A journal keeps the calls that each cast of stand-ins has taken, and the effects and the entries since
it was turned over. -/
structure Journal where
  taken : List (Nat × Role)
  effects : List Effect
  entries : List JournalEntry

namespace Journal

def empty : Journal := ⟨[], [], []⟩

/-- A new page starts. The calls are still counted from the beginning. -/
def turnOver (journal : Journal) : Journal := { journal with effects := [], entries := [] }

def addEffect (journal : Journal) (effect : Effect) : Journal :=
  { journal with effects := journal.effects ++ [effect] }

def addEntry (journal : Journal) (entry : JournalEntry) : Journal :=
  { journal with entries := journal.entries ++ [entry] }

/-- This is the number of calls that a cast has taken in a role. -/
def count (journal : Journal) (cast : Nat) (role : Role) : Nat := journal.taken.count (cast, role)

/-- This notes an action that is performed, with the effects that it has had. -/
def watch (perform : Action → Context → Attempt Journal ActionError) (action : Action)
    (context : Context) : Attempt Journal ActionError := fun journal =>
  let (result, after) := perform action context { journal with effects := [] }
  (result, { after with effects := journal.effects }.addEntry
    (.performed action context result.isOk after.effects))

/-- This notes an action that is handed off. -/
def handOff (action : Action) (context : Context) : Attempt Journal EngineError := fun journal =>
  (.ok (), journal.addEntry (.handedOff action context))

end Journal

/-- This is how a stand-in for a collaborator takes its calls. Calls are counted from one. -/
inductive Conduct where
  | willing
  | unreachable
  | failsAt (calls : List Nat)
  | refusesWith (status : Nat)

namespace Conduct

/-- This is the reason why a stand-in fails at a call. -/
def fault? (conduct : Conduct) (number : Nat) (call : Call) : Option ActionError :=
  match conduct with
  | willing => none
  | unreachable => some (.collaborator call.role.collaborator "connection refused")
  | failsAt calls =>
      if calls.contains number then
        some (.collaborator call.role.collaborator ("call " ++ toString number ++ " failed"))
      else none
  | refusesWith status => some (.webhookStatus call.url status)

/-- A call counts whether it fails or not. Only one that succeeds has an effect. -/
def take (conduct : Conduct) (cast : Nat) (call : Call) : Attempt Journal ActionError :=
  fun journal =>
    let journal := { journal with taken := (cast, call.role) :: journal.taken }
    match conduct.fault? (journal.count cast call.role) call with
    | some error => (.error error, journal)
    | none => (.ok (), journal.addEffect (.answered call))

end Conduct

/-- This handler stands in for another one. It does nothing but note its actions, or it fails always. -/
def Handler.standIn (kind : ActionKind) (label : String) (fails : Bool) : Handler Journal where
  kind := kind
  perform := fun action _ journal =>
    if fails then (.error (.collaborator "stub" label), journal)
    else (.ok (), journal.addEffect (.performed label action.params))

end ContactRules
