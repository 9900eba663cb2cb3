/-
This file proves on whose behalf an engine calls its collaborators and hands actions off.
-/

import ContactRules.Proofs.Dispatch.History
import ContactRules.Proofs.Engine.Simulation

namespace ContactRules

open ContactRules.Calendar

variable {σ : Type}

/-- This is what leaves an engine: a call on a member of its team, or a hand-off to its scheduler. It is noted
together with the action that it is made for, and the context of that action. -/
inductive Delivery where
  | call (action : Action) (context : Context) (role : Role) (call : Call)
  | handOff (action : Action) (context : Context)

/-- A context that is stamped has the identity of a rule. The pipeline is the caller's when the rule has none,
the trigger is the rule's when the caller has none, and all else is the caller's. -/
structure Context.Stamped (context : Context) (rule : Rule) (caller : Context) : Prop where
  owner : context.rule = some rule.state.id
  tenant : context.tenant = rule.state.tenant
  pipeline : context.pipeline = if rule.state.pipeline.isSome then rule.state.pipeline else caller.pipeline
  trigger : context.trigger = if caller.trigger.isSome then caller.trigger else some rule.state.trigger
  session : context.session = caller.session
  contact : context.contact = caller.contact
  channel : context.channel = caller.channel
  metadata : context.metadata = caller.metadata

/-- A rule stamps each context with its own identity. -/
theorem Rule.stamp_stamped (rule : Rule) (caller : Context) : (rule.stamp caller).Stamped rule caller where
  owner := rfl
  tenant := rfl
  pipeline := by cases own : rule.state.pipeline <;> simp [stamp, own]
  trigger := by cases own : caller.trigger <;> simp [stamp, own]
  session := rfl
  contact := rfl
  channel := rfl
  metadata := rfl

/-- A delivery is made for a rule when it comes from one of the actions of the rule, in the context that the
rule stamps. A call is of the kind of the action and carries the identifiers of that context. -/
inductive Delivery.MadeFor (rule : Rule) (caller : Context) : Delivery → Prop
  | call {action : Action} {call : Call} (listed : action ∈ rule.state.actions)
      (prompt : action.isDelayed = false) (sameKind : call.kind = action.kind)
      (carries : call.Carries action (rule.stamp caller)) :
      MadeFor rule caller (.call action (rule.stamp caller) action.kind.role call)
  | handOff {action : Action} (listed : action ∈ rule.state.actions) (delayed : action.isDelayed = true) :
      MadeFor rule caller (.handOff action (rule.stamp caller))

/-- A scheduler takes the actions with a delay. -/
abbrev Scheduler (σ : Type) := Action → Context → Attempt σ EngineError

namespace Crew

/-- This engine leaves its actions to the built-in handlers of a crew. -/
def engine (crew : Crew σ) (scheduler : Option (Scheduler σ)) (mode : RunMode) : Engine σ where
  perform := crew.registry.execute
  handOff := scheduler
  mode := mode

/-- In this engine the members of the crew and the scheduler note what is delivered to them. -/
def recorded (crew : Crew σ) (scheduler : Option (Scheduler σ)) (mode : RunMode) :
    Engine (Noted σ Delivery) where
  perform action context := (crew.noted (Delivery.call action context)).registry.execute action context
  handOff := scheduler.map fun schedule action context noted =>
    Noted.extend noted.notes [.handOff action context] (schedule action context noted.outside)
  mode := mode

end Crew

namespace Engine

/-- This engine leaves its actions to the handlers of a team. -/
def ofTeam (team : Team σ) (scheduler : Option (Scheduler σ)) (mode : RunMode) : Engine σ where
  perform := (Registry.ofTeam team).execute
  handOff := scheduler
  mode := mode

/-- In this engine the members of the team and the scheduler note what is delivered to them. -/
def recorded (team : Team σ) (scheduler : Option (Scheduler σ)) (mode : RunMode) :
    Engine (Noted σ Delivery) where
  perform action context :=
    (Registry.ofTeam (team.noted (Delivery.call action context))).execute action context
  handOff := scheduler.map fun schedule action context noted =>
    Noted.extend noted.notes [.handOff action context] (schedule action context noted.outside)
  mode := mode

/-- The engine of a team is that of its crew. -/
theorem ofTeam_eq_engine (team : Team σ) (scheduler : Option (Scheduler σ)) (mode : RunMode) :
    ofTeam team scheduler mode = team.crew.engine scheduler mode := by
  rw [ofTeam, Registry.ofTeam_eq_registry, Crew.engine]

/-- A team notes its deliveries as its crew does. -/
theorem recorded_eq_recorded (team : Team σ) (scheduler : Option (Scheduler σ)) (mode : RunMode) :
    recorded team scheduler mode = team.crew.recorded scheduler mode := by
  simp only [recorded, Registry.ofTeam_eq_registry]
  rfl

section Recorded

variable {crew : Crew σ} {scheduler : Option (Scheduler σ)} {mode : RunMode}

/-- The outside is as it is without notes, and all notes have a property. -/
def Records (property : Delivery → Prop) (noted : Noted σ Delivery) (outside : σ) : Prop :=
  noted.outside = outside ∧ ∀ delivery ∈ noted.notes, property delivery

/-- Before a run there are no notes that could lack a property. -/
theorem Records.none (property : Delivery → Prop) (outside : σ) : Records property ⟨outside, []⟩ outside :=
  ⟨rfl, fun _ isNote => nomatch isNote⟩

/-- An attempt keeps the property of the notes when what it makes has the property. -/
theorem Records.extend {property : Delivery → Prop} {noted : Noted σ Delivery} {outside : σ}
    (records : Records property noted outside) {made : List Delivery}
    (proper : ∀ delivery ∈ made, property delivery) {ε : Type} (answered : Except ε Unit × σ) :
    Alike (Records property) (Noted.extend noted.notes made answered) answered :=
  ⟨rfl, rfl, List.forall_mem_append.mpr ⟨records.2, proper⟩⟩

/-- The notes of a run of a rule have a property that each call and each hand-off for its actions has, and they
change nothing else. -/
theorem recorded_follows_of_deliveries {rule : Rule} {caller : Context} {property : Delivery → Prop}
    (called : ∀ action ∈ rule.state.actions, action.isDelayed = false →
      ∀ role call, (role, call) ∈ crew.calls action (rule.stamp caller) →
        property (.call action (rule.stamp caller) role call))
    (handedOff : ∀ action ∈ rule.state.actions, action.isDelayed = true →
      property (.handOff action (rule.stamp caller))) :
    (crew.recorded scheduler mode).FollowsRule (crew.engine scheduler mode) (Records property) caller rule := by
  intro action listed
  cases delayed : action.isDelayed with
  | false =>
      apply follows_of_perform delayed
      rintro noted outside ⟨rfl, old⟩
      simp only [Crew.recorded, Crew.engine, Crew.execute_noted]
      apply Records.extend ⟨rfl, old⟩
      intro delivery delivered
      obtain ⟨⟨role, call⟩, isCall, rfl⟩ := List.mem_map.mp delivered
      exact called action listed delayed role call isCall
  | true =>
      rintro noted outside ⟨rfl, old⟩
      simp only [attempt, delayed, if_true]
      cases scheduler with
      | none => exact ⟨rfl, rfl, old⟩
      | some schedule =>
          apply Records.extend ⟨rfl, old⟩
          intro delivery isNew
          obtain rfl := List.mem_singleton.mp isNew
          exact handedOff action listed delayed

/-- What is delivered in a run of a rule is made for the rule, and the notes change nothing else. -/
theorem recorded_follows {rule : Rule} {caller : Context} {property : Delivery → Prop}
    (proper : ∀ delivery, delivery.MadeFor rule caller → property delivery) :
    (crew.recorded scheduler mode).FollowsRule (crew.engine scheduler mode) (Records property) caller rule := by
  refine recorded_follows_of_deliveries (fun action listed prompt role call isCall => ?_)
    fun action listed delayed => proper _ (.handOff listed delayed)
  obtain ⟨rfl, made⟩ := Crew.mem_calls isCall
  obtain ⟨sameKind, carries⟩ := ActionKind.call_eq_ok made
  exact proper _ (.call listed prompt sameKind carries)

/-- A run with notes that goes like the run without them is that run, and its notes have the property. -/
theorem exists_deliveries {α : Type} {noted : α × Noted σ Delivery} {plain : α × σ} {property : Delivery → Prop}
    (alike : Alike (Records property) noted plain) :
    ∃ deliveries, noted = (plain.1, ⟨plain.2, deliveries⟩) ∧ ∀ delivery ∈ deliveries, property delivery := by
  obtain ⟨sameAnswer, sameOutside, proper⟩ := alike
  refine ⟨noted.2.notes, ?_, proper⟩
  rw [← sameAnswer, ← sameOutside]

/-- A run with notes is the run without them, and its notes tell the deliveries of certain rules, each in the
context of its own caller. -/
def Attributed {α : Type} (noted : α × Noted σ Delivery) (plain : α × σ) (source : Rule → Context → Prop) :
    Prop :=
  ∃ deliveries, noted = (plain.1, ⟨plain.2, deliveries⟩) ∧
    ∀ delivery ∈ deliveries, ∃ rule caller, source rule caller ∧ delivery.MadeFor rule caller

variable (crew : Crew σ) (scheduler : Option (Scheduler σ)) (mode : RunMode)

/-- What is delivered when a trigger fires is made for the enabled rules that listen to it. -/
theorem runTrigger_attributed (source : RuleSource) (pipeline : Uuid) (trigger : Trigger) (facts : Facts)
    (caller : Context) (state : σ) :
    Attributed ((crew.recorded scheduler mode).runTrigger source pipeline trigger facts caller ⟨state, []⟩)
      ((crew.engine scheduler mode).runTrigger source pipeline trigger facts caller state)
      fun rule context => context = caller ∧ rule.state.enabled = true ∧
        ∃ rules, source.listening pipeline trigger = .ok rules ∧ rule ∈ rules := by
  apply exists_deliveries
  apply runTrigger_alike
  · exact rfl
  · intro rules listed rule isRule enabled
    apply recorded_follows
    exact fun delivery made => ⟨rule, caller, ⟨rfl, enabled, rules, listed, isRule⟩, made⟩
  · exact Records.none _ state

/-- What is delivered when a rule is asked for is made for this rule, and it is enabled. -/
theorem runById_attributed (source : RuleSource) (id : Uuid) (facts : Facts) (caller : Context) (state : σ) :
    Attributed ((crew.recorded scheduler mode).runById source id facts caller ⟨state, []⟩)
      ((crew.engine scheduler mode).runById source id facts caller state)
      fun rule context => context = caller ∧ rule.state.enabled = true ∧ source.find id = .ok rule := by
  apply exists_deliveries
  apply runById_alike
  · intro rule found enabled
    apply recorded_follows
    exact fun delivery made => ⟨rule, caller, ⟨rfl, enabled, found⟩, made⟩
  · exact Records.none _ state

/-- The rules that a tick fires are their own callers. -/
theorem fireAll_attributed (now : Instant) (due : List ScheduledRule) (state : σ) :
    Attributed (Runner.fireAll (crew.recorded scheduler mode) now due ⟨state, []⟩)
      (Runner.fireAll (crew.engine scheduler mode) now due state)
      fun rule context => ∃ scheduled ∈ due, rule = scheduled.rule ∧ context = scheduled.context := by
  apply exists_deliveries
  apply Runner.fireAll_alike
  · intro scheduled isDue
    apply recorded_follows
    exact fun delivery made => ⟨scheduled.rule, scheduled.context, ⟨scheduled, isDue, rfl, rfl⟩, made⟩
  · exact Records.none _ state

end Recorded

section Callers

variable {one other : Context}

/-- A run asks the caller only for what a rule stamps into its context. -/
theorem begin_congr (same : ∀ rule : Rule, rule.stamp one = rule.stamp other) (facts : Facts) :
    begin facts one = begin facts other := by
  funext rule
  unfold begin
  rw [same rule]

/-- Callers whom all rules stamp alike get the same run of a trigger. -/
theorem runTrigger_congr (engine : Engine σ) (same : ∀ rule : Rule, rule.stamp one = rule.stamp other)
    (source : RuleSource) (pipeline : Uuid) (trigger : Trigger) (facts : Facts) :
    engine.runTrigger source pipeline trigger facts one =
      engine.runTrigger source pipeline trigger facts other := by
  funext state
  cases listed : source.listening pipeline trigger with
  | error error => simp only [runTrigger, listed]
  | ok rules => simp only [runTrigger_listening _ listed, runTogether, begin_congr same facts]

/-- Callers whom all rules stamp alike get the same answer when they ask for a rule. -/
theorem runById_congr (engine : Engine σ) (same : ∀ rule : Rule, rule.stamp one = rule.stamp other)
    (source : RuleSource) (id : Uuid) (facts : Facts) :
    engine.runById source id facts one = engine.runById source id facts other := by
  funext state
  unfold runById
  simp only [← finish_begin, begin_congr same facts]

end Callers

/-- All that leaves an engine with built-in handlers is made for the rules that are run: the enabled rules of a
trigger, the rule that is asked for, or the scheduled rules that are due. The calls and the hand-offs of a rule are
all made in one context, which has the identity of the rule and not that of the caller. A caller of another tenant
gets the same run. This is said for crews: each registry has one that has been given built-in handlers only, and so
has each team. -/
theorem deliveries_are_made_for_rules (scheduler : Option (Scheduler σ)) (mode : RunMode) :
    (∀ history : List (RegistryStep σ), (∀ step ∈ history, step.BuiltIn) →
      ∃ crew : Crew σ, Registry.replay history = crew.registry) ∧
    (∀ team : Team σ, ofTeam team scheduler mode = team.crew.engine scheduler mode ∧
      recorded team scheduler mode = team.crew.recorded scheduler mode) ∧
    (∀ (rule : Rule) (caller : Context), (rule.stamp caller).Stamped rule caller) ∧
    (∀ (crew : Crew σ) (source : RuleSource) (pipeline : Uuid) (trigger : Trigger) (facts : Facts)
      (caller : Context) (state : σ),
      Attributed ((crew.recorded scheduler mode).runTrigger source pipeline trigger facts caller ⟨state, []⟩)
        ((crew.engine scheduler mode).runTrigger source pipeline trigger facts caller state)
        (fun rule context => context = caller ∧ rule.state.enabled = true ∧
          ∃ rules, source.listening pipeline trigger = .ok rules ∧ rule ∈ rules) ∧
      ∀ tenant id, (crew.recorded scheduler mode).runTrigger source pipeline trigger facts
          { caller with tenant := tenant, rule := id } ⟨state, []⟩ =
        (crew.recorded scheduler mode).runTrigger source pipeline trigger facts caller ⟨state, []⟩) ∧
    (∀ (crew : Crew σ) (source : RuleSource) (wanted : Uuid) (facts : Facts) (caller : Context) (state : σ),
      Attributed ((crew.recorded scheduler mode).runById source wanted facts caller ⟨state, []⟩)
        ((crew.engine scheduler mode).runById source wanted facts caller state)
        (fun rule context => context = caller ∧ rule.state.enabled = true ∧
          source.find wanted = .ok rule) ∧
      ∀ tenant id, (crew.recorded scheduler mode).runById source wanted facts
          { caller with tenant := tenant, rule := id } ⟨state, []⟩ =
        (crew.recorded scheduler mode).runById source wanted facts caller ⟨state, []⟩) ∧
    ∀ (crew : Crew σ) (runner : Runner) (now : Instant) (state : σ), ∃ deliveries,
      runner.tick (crew.recorded scheduler mode) now ⟨state, []⟩ =
        ((runner.tick (crew.engine scheduler mode) now state).1,
          (runner.tick (crew.engine scheduler mode) now state).2.1,
          ⟨(runner.tick (crew.engine scheduler mode) now state).2.2, deliveries⟩) ∧
      ∀ delivery ∈ deliveries, ∃ scheduled ∈ runner.due now,
        delivery.MadeFor scheduled.rule scheduled.context := by
  have stampedAlike (caller : Context) (tenant : String) (id : Option Uuid) (rule : Rule) :
      rule.stamp { caller with tenant := tenant, rule := id } = rule.stamp caller := rfl
  refine ⟨?_, ?_, Rule.stamp_stamped, ?_, ?_, ?_⟩
  · intro history builtIn
    exact Registry.exists_crew_of_replay builtIn
  · intro team
    exact ⟨ofTeam_eq_engine team scheduler mode, recorded_eq_recorded team scheduler mode⟩
  · intro crew source pipeline trigger facts caller state
    refine ⟨runTrigger_attributed crew scheduler mode source pipeline trigger facts caller state, ?_⟩
    intro tenant id
    rw [runTrigger_congr _ (stampedAlike caller tenant id)]
  · intro crew source wanted facts caller state
    refine ⟨runById_attributed crew scheduler mode source wanted facts caller state, ?_⟩
    intro tenant id
    rw [runById_congr _ (stampedAlike caller tenant id)]
  · intro crew runner now state
    obtain ⟨deliveries, ran, made⟩ := fireAll_attributed crew scheduler mode now (runner.due now) state
    refine ⟨deliveries, by simp only [Runner.tick_eq, ran], ?_⟩
    intro delivery delivered
    obtain ⟨_, _, ⟨scheduled, isDue, rfl, rfl⟩, madeFor⟩ := made delivery delivered
    exact ⟨scheduled, isDue, madeFor⟩

/-- This team has nobody but the member who starts workflows, and counts them. -/
def workflowTeam : Team Nat :=
  Team.none.appoint .workflows fun _ started => (.ok (), started + 1)

def welcomeAction : Action :=
  (Action.ofKind .triggerWorkflow).withParam "workflow_id" (.text "welcome")

def welcomeRule : Rule :=
  Rule.ofState ⟨⟨1⟩, .pipelineAutomation, some ⟨9⟩, "tenant", "rule", "", .tagAdded, [], [welcomeAction], 0, true,
    .epoch, .epoch⟩

/-- The workflow is started for the tenant of the rule when a caller of another tenant asks. -/
example :
    ((recorded workflowTeam none .inOrder).runRule Fields.empty (.ofTenant "other") welcomeRule ⟨0, []⟩).2 =
      ⟨1, [.call welcomeAction (welcomeRule.stamp (.ofTenant "other")) .workflows
        (.startWorkflow ⟨"welcome", "tenant", some ⟨1⟩, none, none, Fields.empty⟩)]⟩ := rfl

end Engine

end ContactRules
