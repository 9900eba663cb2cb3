/-
This file defines the runner, which fires scheduled rules when they are due.
-/

import ContactRules.Engine.Basic
import ContactRules.Schedule.ScheduledRule

namespace ContactRules

open ContactRules.Calendar

instance : Identified ScheduledRule := ⟨fun scheduled => scheduled.rule.state.id⟩

namespace ScheduledRule

/-- These facts are known when a scheduled rule is fired. -/
def facts (scheduled : ScheduledRule) (now : Instant) : Facts :=
  (Fields.empty.insert "scheduled_at" (.text now.offsetText)).insert "schedule_type"
    (.text scheduled.schedule.recurrence.name)

/-- A scheduled rule is fired for nobody in particular. -/
def context (scheduled : ScheduledRule) : Context :=
  { Context.ofTenant scheduled.rule.state.tenant with
    pipeline := scheduled.rule.state.pipeline
    trigger := some .scheduled }

end ScheduledRule

/-- A runner holds scheduled rules and asks them at every tick. -/
structure Runner where
  rules : Roster ScheduledRule
  running : Bool

namespace Runner

def empty : Runner := ⟨Roster.empty, false⟩

def size (runner : Runner) : Nat := runner.rules.size

def isEmpty (runner : Runner) : Bool := runner.rules.isEmpty

/-- A rule takes the place of an earlier one. A schedule that never fires is refused. -/
def add (runner : Runner) (scheduled : ScheduledRule) : Except EngineError Runner := do
  scheduled.schedule.ensureSupported.mapError .schedule
  return { runner with rules := runner.rules.put scheduled }

def has (runner : Runner) (id : Uuid) : Bool := runner.rules.has id

def remove (runner : Runner) (id : Uuid) : Runner :=
  { runner with rules := runner.rules.remove id }

/-- This is the instant at which a rule fires next. -/
def next? (runner : Runner) (id : Uuid) : Option Instant :=
  (runner.rules.find? id).bind ScheduledRule.next

/-- These are the rules that are due. -/
def due (runner : Runner) (now : Instant) : List ScheduledRule :=
  runner.rules.members.filter fun scheduled => scheduled.isDue now

/-- This notes that a rule has been fired, if the runner still holds it. -/
def mark (runner : Runner) (now : Instant) (id : Uuid) : Runner :=
  match runner.rules.find? id with
  | some held => { runner with rules := runner.rules.put (held.markFired now) }
  | none => runner

/-- This fires one rule. -/
def fire {σ : Type} (engine : Engine σ) (now : Instant) (scheduled : ScheduledRule) (state : σ) :
    Outcome × σ :=
  engine.runRule (scheduled.facts now) scheduled.context scheduled.rule state

/-- This fires rules one after the other, and marks each of them after it was fired. A rule counts as fired
whatever its outcome. -/
def fireDue {σ : Type} (engine : Engine σ) (now : Instant) :
    List ScheduledRule → Runner → σ → List Outcome × Runner × σ
  | [], runner, state => ([], runner, state)
  | scheduled :: rest, runner, state =>
      let (outcome, state) := fire engine now scheduled state
      let (outcomes, runner, state) :=
        fireDue engine now rest (runner.mark now (identity scheduled)) state
      (outcome :: outcomes, runner, state)

/-- This drops the rules that never fire again. -/
def sweep (runner : Runner) (now : Instant) : Runner :=
  { runner with rules := runner.rules.filter fun scheduled => !scheduled.isExhausted now }

/-- This fires the rules that are due, and drops those that never fire again. -/
def tick {σ : Type} (runner : Runner) (engine : Engine σ) (now : Instant) (state : σ) :
    List Outcome × Runner × σ :=
  let (outcomes, runner, state) := fireDue engine now (runner.due now) runner state
  (outcomes, runner.sweep now, state)

/-- A runner that is running already is not started again. -/
def start (runner : Runner) : Bool × Runner :=
  (!runner.running, { runner with running := true })

def stop (runner : Runner) : Runner := { runner with running := false }

end Runner

end ContactRules
