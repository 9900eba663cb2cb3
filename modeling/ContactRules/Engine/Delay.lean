/-
This file defines the queue of actions that wait for their time.
-/

import ContactRules.Engine.Basic

namespace ContactRules

open ContactRules.Calendar
open ContactRules.Json
open ContactRules.Wire

/-- This is an action that waits, with the context in which it was handed off. -/
structure PostponedAction where
  action : Action
  context : Context
  runAt : Instant

namespace PostponedAction

/-- This lets an action wait for its own delay, unless that would pass the last instant. -/
def after? (action : Action) (context : Context) (now : Instant) : Option PostponedAction :=
  (now.addMinutes? action.delayMinutes.toNat).map fun runAt => ⟨action, context, runAt⟩

def record : Record PostponedAction :=
  PostponedAction.mk <$> Record.required "action" Action.decoder
    <*> Record.required "context" Context.decoder
    <*> Record.required "run_at" Decoder.instant

def decoder : Decoder PostponedAction := record.decoder "DelayedAction"

def encode (delayed : PostponedAction) : Value :=
  .object [("action", delayed.action.encode), ("context", delayed.context.encode),
    ("run_at", delayed.runAt.encode)]

def isDue (delayed : PostponedAction) (now : Instant) : Bool := delayed.runAt ≤ now

end PostponedAction

/-- A queue keeps actions until they are due. -/
structure DelayQueue where
  waiting : List PostponedAction

namespace DelayQueue

def empty : DelayQueue := ⟨[]⟩

def pending (queue : DelayQueue) : Nat := queue.waiting.length

def add (queue : DelayQueue) (delayed : PostponedAction) : DelayQueue :=
  ⟨queue.waiting ++ [delayed]⟩

/-- This takes the actions that are due, the earliest first, and leaves the others. -/
def takeDue (queue : DelayQueue) (now : Instant) : List PostponedAction × DelayQueue :=
  ((queue.waiting.filter fun delayed => delayed.isDue now).mergeSort fun left right =>
      left.runAt ≤ right.runAt,
    ⟨queue.waiting.filter fun delayed => !delayed.isDue now⟩)

/-- This performs actions in their order. One that fails does not stop the others. -/
def performAll {σ : Type} (perform : Action → Context → Attempt σ ActionError) :
    List PostponedAction → σ → σ
  | [], state => state
  | delayed :: rest, state =>
      performAll perform rest (perform delayed.action delayed.context state).2

/-- This performs the actions that are due. -/
def run {σ : Type} (queue : DelayQueue) (perform : Action → Context → Attempt σ ActionError)
    (now : Instant) (state : σ) : DelayQueue × σ :=
  let (due, rest) := queue.takeDue now
  (rest, performAll perform due state)

end DelayQueue

end ContactRules
