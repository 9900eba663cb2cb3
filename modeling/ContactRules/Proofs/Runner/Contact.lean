/-
This file proves that scheduled rules reach no contact, neither when they are fired nor later.
-/

import ContactRules.Proofs.Engine.Postponement
import ContactRules.Proofs.Runner.History

namespace ContactRules

open ContactRules.Calendar

variable {σ : Type}

/-- The collaborators in these roles act on a contact. -/
def Role.concernsContact : Role → Bool
  | messages => true
  | statuses => true
  | tags => true
  | webhooks => false
  | workflows => false
  | agents => true
  | contacts => true

/-- An action needs someone in its context when its collaborator acts on a contact, and only then. -/
theorem ActionKind.target?_isSome (kind : ActionKind) : kind.target?.isSome = kind.role.concernsContact := by
  cases kind <;> rfl

/-- Such a context names nobody whom an action could concern. -/
structure Context.Anonymous (context : Context) : Prop where
  session : context.session = none
  contact : context.contact = none

/-- A scheduled rule is fired for nobody, and its stamp names nobody either. -/
theorem ScheduledRule.stamp_anonymous (scheduled : ScheduledRule) :
    (scheduled.rule.stamp scheduled.context).Anonymous := ⟨rfl, rfl⟩

section Anonymous

variable {context : Context} {action : Action}

/-- An anonymous context names no target. -/
theorem Context.Anonymous.names (anonymous : context.Anonymous) (target : Target) :
    context.names target = false := by
  cases target <;> simp [Context.names, anonymous.session, anonymous.contact]

/-- An action on a contact becomes no call where nobody is named. -/
theorem ActionKind.call_of_anonymous (anonymous : context.Anonymous)
    (concerns : action.kind.role.concernsContact = true) :
    ∃ error, action.kind.call action context = .error error ∧ error.isValidation = true := by
  have becomes := becomes_call action context
  generalize made : action.kind.call action context = answer at becomes
  cases becomes with
  | invalid | untargeted => exact ⟨_, rfl, call_eq_error made⟩
  | ready _ _ _ targeted =>
      rw [← target?_isSome, Option.isSome_iff_exists] at concerns
      obtain ⟨target, needed⟩ := concerns
      have named := targeted target needed
      rw [anonymous.names target] at named
      cases named

/-- A call in such a context concerns no contact. -/
theorem Crew.calls_of_anonymous {crew : Crew σ} (anonymous : context.Anonymous) {role : Role} {call : Call}
    (isCall : (role, call) ∈ crew.calls action context) : role.concernsContact = false := by
  obtain ⟨rfl, made⟩ := mem_calls isCall
  by_contra concerns
  obtain ⟨error, refused, _⟩ :=
    ActionKind.call_of_anonymous anonymous (eq_true_of_ne_false concerns)
  rw [refused] at made
  cases made

/-- An action on a contact is malformed where nobody is named, whether somebody could perform it or not. -/
theorem Registry.execute_of_anonymous (team : Team σ) (anonymous : context.Anonymous)
    (concerns : action.kind.role.concernsContact = true) (state : σ) :
    ∃ error, (ofTeam team).execute action context state = (.error error, state) ∧
      error.isValidation = true := by
  cases member : team action.kind.role with
  | none => exact ⟨_, execute_vacant member state, rfl⟩
  | some perform =>
      obtain ⟨error, refused, malformed⟩ := ActionKind.call_of_anonymous anonymous concerns
      exact ⟨error, execute_error member refused state, malformed⟩

end Anonymous

/-- A delivery leaves contacts alone when it is a call that does not concern them, or a hand-off that names
nobody. -/
def Delivery.SparesContacts : Delivery → Prop
  | call _ _ role _ => role.concernsContact = false
  | handOff _ context => context.Anonymous

namespace DelayQueue

/-- Actions that wait with contexts that name nobody call nobody who acts on a contact when they are performed,
and the notes change nothing else. -/
theorem performAll_noted (team : Team σ) {waiting : List PostponedAction}
    (anonymous : ∀ delayed ∈ waiting, delayed.context.Anonymous) (noted : Noted σ (Role × Call)) :
    ∃ calls, performAll (Registry.ofTeam (team.noted Prod.mk)).execute waiting noted =
        ⟨performAll (Registry.ofTeam team).execute waiting noted.outside, noted.notes ++ calls⟩ ∧
      ∀ role call, (role, call) ∈ calls → role.concernsContact = false := by
  rw [Registry.ofTeam_eq_registry, Registry.ofTeam_eq_registry]
  refine ⟨_, performAll_eq team.crew waiting noted, ?_⟩
  intro role call isCall
  obtain ⟨delayed, isWaiting, made⟩ := List.mem_flatMap.mp isCall
  exact Crew.calls_of_anonymous (anonymous delayed isWaiting) made

end DelayQueue

namespace Runner

/-- This ticks at one instant after the other, and collects the records of the ticks. -/
def tickAll (engine : Engine σ) : List Instant → Runner → σ → List TickRecord × Runner × σ
  | [], runner, state => ([], runner, state)
  | now :: later, runner, state =>
      let (outcomes, runner, state) := runner.tick engine now state
      let (ticks, runner, state) := tickAll engine later runner state
      (⟨now, outcomes⟩ :: ticks, runner, state)

section Deliveries

variable (team : Team σ) (scheduler : Option (Scheduler σ)) (mode : RunMode)

/-- The engine that notes deliveries fires a scheduled rule as the plain one does, and all that it notes spares
contacts. -/
theorem recorded_follows_scheduled (scheduled : ScheduledRule) :
    (Engine.recorded team scheduler mode).FollowsRule (Engine.ofTeam team scheduler mode)
      (Engine.Records Delivery.SparesContacts) scheduled.context scheduled.rule := by
  rw [Engine.recorded_eq_recorded, Engine.ofTeam_eq_engine]
  apply Engine.recorded_follows_of_deliveries
  · intro action listed prompt role call isCall
    exact Crew.calls_of_anonymous scheduled.stamp_anonymous isCall
  · intro action listed delayed
    exact scheduled.stamp_anonymous

/-- What is delivered in a run of ticks leaves contacts alone, and the notes change nothing else. -/
theorem tickAll_spares_contacts (instants : List Instant) (runner : Runner) {noted : Noted σ Delivery}
    {outside : σ} (start : Engine.Records Delivery.SparesContacts noted outside) :
    let plain := tickAll (Engine.ofTeam team scheduler mode) instants runner outside
    ∃ after, tickAll (Engine.recorded team scheduler mode) instants runner noted =
        (plain.1, plain.2.1, after) ∧
      Engine.Records Delivery.SparesContacts after plain.2.2 := by
  induction instants generalizing runner noted outside with
  | nil => exact ⟨noted, rfl, start⟩
  | cons now later inductionHypothesis =>
      obtain ⟨same, between⟩ := fireAll_alike now
        (fun scheduled (_ : scheduled ∈ runner.due now) =>
          recorded_follows_scheduled team scheduler mode scheduled) start
      -- The two runs have the same outcomes so far, and hence the same rules at the next tick.
      obtain ⟨after, ticked, spared⟩ := inductionHypothesis (runner.settle now) between
      refine ⟨after, ?_, ?_⟩
      · simp only [tickAll, tick_eq, ticked, same]
      · simpa only [tickAll, tick_eq] using spared

end Deliveries

/-- Each rule is fired in the state that the rules before it have left. -/
theorem getElem?_fireAll (engine : Engine σ) (now : Instant) (due : List ScheduledRule) (state : σ)
    (place : Nat) :
    (fireAll engine now due state).1[place]? = due[place]?.map fun scheduled =>
      (fire engine now scheduled (fireAll engine now (due.take place) state).2).1 := by
  induction due generalizing state place with
  | nil => rfl
  | cons scheduled rest inductionHypothesis =>
      cases place with
      | zero => rfl
      | succ place => exact inductionHypothesis (fire engine now scheduled state).2 place

/-- A rule that is fired fails at the first action on a contact that is performed at once, if it comes so far.
The action is malformed, and it is the last one that is attempted. -/
theorem fire_fails_at_contact (team : Team σ) (scheduler : Option (Scheduler σ)) (mode : RunMode)
    (now : Instant) (scheduled : ScheduledRule) (before : σ)
    (holds : scheduled.rule.conditionsHold (scheduled.facts now) = true) {index : Nat} {attempt : EngineCall}
    (reached : ((Engine.ofTeam team scheduler mode).attempts (scheduled.rule.stamp scheduled.context)
      scheduled.rule.state.actions before)[index]? = some attempt)
    (prompt : attempt.action.isDelayed = false)
    (concerns : attempt.action.kind.role.concernsContact = true) :
    ∃ error, (fire (Engine.ofTeam team scheduler mode) now scheduled before).1.verdict =
        .failed index (.action error) ∧ error.isValidation = true ∧
      index + 1 = ((Engine.ofTeam team scheduler mode).attempts
        (scheduled.rule.stamp scheduled.context) scheduled.rule.state.actions before).length := by
  obtain ⟨state, same⟩ := Engine.exists_state_of_mem_attempts (List.mem_of_getElem? reached)
  obtain ⟨error, refused, malformed⟩ :=
    Registry.execute_of_anonymous team scheduled.stamp_anonymous concerns state
  have failed : attempt.answer = .error (.action error) := by
    rw [same, EngineCall.ofAction, Engine.attempt, prompt]
    simp only [Engine.ofTeam, refused]
    rfl
  obtain ⟨isLast, verdict, _⟩ := (Engine.attempts_explain (Engine.ofTeam team scheduler mode)
    (scheduled.rule.stamp scheduled.context) scheduled.rule.state.actions before).failed
      index attempt _ reached failed
  refine ⟨error, ?_, malformed, isLast⟩
  simp only [fire, Engine.runRule, holds, if_true, verdict]

/-- In no run of scheduled rules is anybody called who acts on a contact, whoever is in the team and whatever
the rules do. Neither is anybody when actions that were handed off in the run are performed later, in any order
and however often. A rule that comes to an action on a contact, and is to perform it at once, fails there: the
action is malformed, and no later one is attempted. -/
theorem scheduled_runs_reach_no_contact (team : Team σ) (scheduler : Option (Scheduler σ))
    (mode : RunMode) :
    let engine := Engine.ofTeam team scheduler mode
    (∀ (runner : Runner) (instants : List Instant) (state : σ), ∃ deliveries,
      tickAll (Engine.recorded team scheduler mode) instants runner ⟨state, []⟩ =
        ((tickAll engine instants runner state).1, (tickAll engine instants runner state).2.1,
          ⟨(tickAll engine instants runner state).2.2, deliveries⟩) ∧
      (∀ action context role call, .call action context role call ∈ deliveries →
        role.concernsContact = false) ∧
      ∀ waiting : List PostponedAction,
        (∀ delayed ∈ waiting, .handOff delayed.action delayed.context ∈ deliveries) → ∀ outside, ∃ calls,
          DelayQueue.performAll (Registry.ofTeam (team.noted Prod.mk)).execute waiting ⟨outside, []⟩ =
            ⟨DelayQueue.performAll (Registry.ofTeam team).execute waiting outside, calls⟩ ∧
          ∀ role call, (role, call) ∈ calls → role.concernsContact = false) ∧
    ∀ (runner : Runner) (now : Instant) (state : σ) (place : Nat) (scheduled : ScheduledRule),
      (runner.due now)[place]? = some scheduled →
        let before := (fireAll engine now ((runner.due now).take place) state).2
        let attempts := engine.attempts (scheduled.rule.stamp scheduled.context)
          scheduled.rule.state.actions before
        ∃ outcome, (runner.tick engine now state).1[place]? = some outcome ∧
          (scheduled.rule.conditionsHold (scheduled.facts now) = true →
            ∀ index attempt, attempts[index]? = some attempt → attempt.action.isDelayed = false →
              attempt.action.kind.role.concernsContact = true →
                scheduled.rule.state.actions[index]? = some attempt.action ∧
                  index + 1 = attempts.length ∧
                  ∃ error, outcome.verdict = .failed index (.action error) ∧ error.isValidation = true) := by
  refine ⟨fun runner instants state => ?_, fun runner now state place scheduled isDue => ?_⟩
  · obtain ⟨⟨outside, deliveries⟩, ticked, rfl, spared⟩ := tickAll_spares_contacts team scheduler mode
      instants runner (Engine.Records.none Delivery.SparesContacts state)
    refine ⟨deliveries, ticked, fun _ _ _ _ delivered => spared _ delivered,
      fun waiting handedOff outside => ?_⟩
    exact DelayQueue.performAll_noted team (fun delayed isWaiting => spared _ (handedOff delayed isWaiting))
      ⟨outside, []⟩
  · refine ⟨_, by rw [tick_eq, getElem?_fireAll, isDue, Option.map_some],
      fun holds index attempt reached prompt concerns => ?_⟩
    obtain ⟨error, failed, malformed, isLast⟩ :=
      fire_fails_at_contact team scheduler mode now scheduled _ holds reached prompt concerns
    exact ⟨Engine.getElem?_of_attempts reached, isLast, error, failed, malformed⟩

/-- This team has members for tags and for webhooks, who count what they do. -/
def tagTeam : Team Nat :=
  (Team.none.appoint .tags fun _ done => (.ok (), done + 1)).appoint .webhooks fun _ done => (.ok (), done + 1)

def acceptAll : Scheduler Nat := fun _ _ done => (.ok (), done + 1)

def tagAction : Action := (Action.ofKind .addTag).withParam "tag" (.text "new")

def postAction : Action := (Action.ofKind .sendWebhook).withParam "url" (.text "http://r1")

/-- This rule calls a webhook, adds a tag later, adds a tag at once and calls the webhook again. -/
def taggingRule : ScheduledRule :=
  ⟨Rule.ofState ⟨⟨1⟩, .scheduled, none, "tenant", "rule", "", .scheduled, [],
    [postAction, tagAction.withDelay 5, tagAction, postAction], 0, true, .epoch, .epoch⟩, .daily 0 0, none,
    none⟩

/-- The webhook is called once, the tag that is to be added later is handed off, and the other one fails. No
tag is added when the hand-off is performed. -/
theorem taggingRule_adds_no_tag :
    (∃ deliveries, (tickAll (Engine.recorded tagTeam acceptAll .inOrder) [.epoch]
        ⟨Roster.empty.put taggingRule, true⟩ ⟨0, []⟩).2.2 = ⟨2, deliveries⟩ ∧ deliveries.length = 2 ∧
      (∀ action context role call, .call action context role call ∈ deliveries →
        role.concernsContact = false) ∧
      ∃ calls, DelayQueue.performAll (Registry.ofTeam (tagTeam.noted Prod.mk)).execute
          [⟨tagAction.withDelay 5, taggingRule.rule.stamp taggingRule.context, .epoch⟩] ⟨0, []⟩ = ⟨0, calls⟩ ∧
        ∀ role call, (role, call) ∈ calls → role.concernsContact = false) ∧
    ∃ outcome error, (Runner.tick ⟨Roster.empty.put taggingRule, true⟩
        (Engine.ofTeam tagTeam acceptAll .inOrder) .epoch 0).1[0]? = some outcome ∧
      outcome.verdict = .failed 2 (.action error) ∧ error.isValidation = true := by
  obtain ⟨runs, fired⟩ := scheduled_runs_reach_no_contact tagTeam acceptAll .inOrder
  refine ⟨?_, ?_⟩
  · obtain ⟨deliveries, ticked, spared, later⟩ := runs ⟨Roster.empty.put taggingRule, true⟩ [.epoch] 0
    have noted : deliveries = [.call postAction (taggingRule.rule.stamp taggingRule.context) .webhooks _,
        .handOff (tagAction.withDelay 5) (taggingRule.rule.stamp taggingRule.context)] :=
      (congrArg (fun run => run.2.2.notes) ticked).symm.trans rfl
    refine ⟨deliveries, congrArg (fun run => run.2.2) ticked, by rw [noted]; rfl, spared, ?_⟩
    exact later [⟨tagAction.withDelay 5, _, .epoch⟩] (by simp [noted]) 0
  · obtain ⟨outcome, answered, fails⟩ := fired ⟨Roster.empty.put taggingRule, true⟩ .epoch 0 0 taggingRule rfl
    obtain ⟨_, _, error, failed, malformed⟩ := fails rfl 2 _ rfl rfl rfl
    exact ⟨outcome, error, answered, failed, malformed⟩

end Runner

end ContactRules
