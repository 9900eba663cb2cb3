/-
This file defines the service, which fires the scheduled rules that its settings name.
-/

import ContactRules.Settings.Files
import ContactRules.Engine.Delay
import ContactRules.Engine.Runner

namespace ContactRules

open ContactRules.Calendar

/-- An outbox holds the webhooks that are to be called and the actions that wait. -/
structure Outbox where
  requests : List WebRequest
  queue : DelayQueue

namespace Outbox

def empty : Outbox := ⟨[], DelayQueue.empty⟩

/-- A webhook is put into the outbox. Nothing else is asked of it. -/
def take (call : Call) : Attempt Outbox ActionError := fun outbox =>
  match call with
  | .sendWebhook request => (.ok (), { outbox with requests := outbox.requests ++ [request] })
  | _ => (.ok (), outbox)

/-- The service has a collaborator for webhooks only. -/
def registry : Registry Outbox :=
  Registry.ofTeam (Team.none.appoint .webhooks take)

/-- This lets an action wait, unless it would have to wait until after the last instant. -/
def handOff (now : Instant) (action : Action) (context : Context) :
    Attempt Outbox EngineError := fun outbox =>
  match PostponedAction.after? action context now with
  | some delayed => (.ok (), { outbox with queue := outbox.queue.add delayed })
  | none => (.error (.handOff "the delay passes the last instant"), outbox)

/-- The service runs scheduled rules only, each by itself. -/
def engine (now : Instant) : Engine Outbox where
  perform := registry.execute
  handOff := some (handOff now)

end Outbox

/-- A service has a runner and an outbox, and keeps its rules in a store. -/
structure Service where
  runner : Runner
  store : Store
  outbox : Outbox

namespace Service

def empty : Service := ⟨Runner.empty, Store.empty, Outbox.empty⟩

/-- This adds a rule. The events of the rule are handed out. -/
def add (service : Service) (scheduled : ScheduledRule) :
    Except EngineError (List Event × Service) := do
  let (events, rule) := scheduled.rule.drainEvents
  let runner ← service.runner.add { scheduled with rule }
  return (events, { service with runner, store := service.store.save rule })

/-- This fires the rules that are due. -/
def tick (service : Service) (now : Instant) : List Outcome × Service :=
  let (outcomes, runner, outbox) := service.runner.tick (Outbox.engine now) now service.outbox
  (outcomes, { service with runner, outbox })

/-- This performs the actions that have waited long enough. -/
def wake (service : Service) (now : Instant) : Service :=
  let (queue, outbox) := service.outbox.queue.run Outbox.registry.execute now service.outbox
  { service with outbox := { outbox with queue } }

/-- This takes the requests out of the outbox. -/
def collect (service : Service) : List WebRequest × Service :=
  (service.outbox.requests, { service with outbox := { service.outbox with requests := [] } })

end Service

end ContactRules
