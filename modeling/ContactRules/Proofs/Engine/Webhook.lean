/-
This file proves what is sent to the address of a webhook, and when the context of the action is not.
-/

import ContactRules.Proofs.Dispatch.Params
import ContactRules.Proofs.Engine.Provenance

namespace ContactRules

open ContactRules.Calendar
open ContactRules.Json

variable {σ : Type}

/-- The request of a webhook has its address, method and headers from the parameters. Its body is the payload that
the action states, or else the context. -/
def WebhookParams.request (params : WebhookParams) (action : Action) (context : Context) : WebRequest where
  url := params.url
  method := params.method
  headers := params.headers
  body := match action.params.get? "payload" with
    | some payload => payload
    | none => context.encode

namespace Action

variable {action : Action} {params : WebhookParams}

/-- Unless it is null, the payload among the parameters is the one that the action states. -/
theorem payload_eq (read : Params.ofAction action = .ok params)
    (stated : action.params.get? "payload" ≠ some .null) : params.payload = action.params.get? "payload" := by
  have given := ((Params.webhook_schema.accepts action params).mp read).payload
  cases payload : params.payload with
  | none =>
      simp only [payload] at given
      exact (given.resolve_right stated).symm
  | some content =>
      simp only [payload] at given
      exact given.2.symm

/-- A webhook whose payload is not null becomes a call with its stated request. -/
theorem call_webhook (webhook : action.kind = .sendWebhook) (read : Params.ofAction action = .ok params)
    (stated : action.params.get? "payload" ≠ some .null) (context : Context) :
    action.kind.call action context = .ok (.sendWebhook (params.request action context)) := by
  have expected : ActionKind.sendWebhook.expect action = .ok () := by rw [ActionKind.expect, if_pos webhook]
  have body : params.payload.getD context.encode = (params.request action context).body := by
    rw [payload_eq read stated, WebhookParams.request]
    cases action.params.get? "payload" <;> rfl
  simp only [webhook, ActionKind.call, expected, read, bind, Except.bind, pure, Except.pure, body]
  rfl

end Action

namespace Engine

/-- A delivery is stamped for one of certain rules when its call is what its action makes of the context that the
rule stamps. -/
def StampedFor (source : Rule → Context → Prop) : Delivery → Prop
  | .call action context _ call =>
      ∃ rule caller, source rule caller ∧ context = rule.stamp caller ∧ action.kind.call action context = .ok call
  | .handOff _ _ => True

/-- A run with notes is the run without them, and each call in its notes that an action makes is a certain call in
the context that one of certain rules stamps. -/
def Calls {α : Type} (noted : α × Noted σ Delivery) (plain : α × σ) (source : Rule → Context → Prop)
    (action : Action) (make : Context → Call) : Prop :=
  ∃ deliveries, noted = (plain.1, ⟨plain.2, deliveries⟩) ∧
    ∀ context role call, .call action context role call ∈ deliveries →
      ∃ rule caller, source rule caller ∧ context = rule.stamp caller ∧ call = make context

section Recorded

variable {team : Team σ} {scheduler : Option (Scheduler σ)} {mode : RunMode} {source : Rule → Context → Prop}

/-- The calls of a run of a rule are stamped for the rule. -/
theorem recorded_follows_stamped {rule : Rule} {caller : Context} (isSource : source rule caller) :
    (recorded team scheduler mode).FollowsRule (ofTeam team scheduler mode) (Records (StampedFor source)) caller
      rule := by
  rw [recorded_eq_recorded, ofTeam_eq_engine]
  refine recorded_follows_of_deliveries (fun action _ _ role call isCall => ?_) fun _ _ _ => trivial
  exact ⟨rule, caller, isSource, rfl, (Crew.mem_calls isCall).2⟩

/-- A run whose notes are stamped makes the calls that its actions make of the stamped contexts. -/
theorem calls_of_alike {α : Type} {noted : α × Noted σ Delivery} {plain : α × σ} {action : Action}
    {make : Context → Call} (makes : ∀ context, action.kind.call action context = .ok (make context))
    (alike : Alike (Records (StampedFor source)) noted plain) : Calls noted plain source action make := by
  obtain ⟨deliveries, ran, stamped⟩ := exists_deliveries alike
  refine ⟨deliveries, ran, fun context role call delivered => ?_⟩
  obtain ⟨rule, caller, isSource, isContext, made⟩ := stamped _ delivered
  exact ⟨rule, caller, isSource, isContext, Except.ok.inj (made.symm.trans (makes context))⟩

end Recorded

/-- A webhook whose payload is not null is called with that payload and nothing else, whatever the context is.
Without a payload it is called with the context, which in a run of the engine is the one that the rule stamps. -/
theorem webhook_sends_stated_payload (team : Team σ) (scheduler : Option (Scheduler σ)) (mode : RunMode)
    {action : Action} {params : WebhookParams} (webhook : action.kind = .sendWebhook)
    (read : Params.ofAction action = .ok params) (stated : action.params.get? "payload" ≠ some .null) :
    (∀ perform, team .webhooks = some perform → ∀ context state,
      (Registry.ofTeam team).execute action context state =
        perform (.sendWebhook (params.request action context)) state) ∧
    (∀ payload, action.params.get? "payload" = some payload → ∀ one other state,
      (Registry.ofTeam team).execute action one state = (Registry.ofTeam team).execute action other state) ∧
    (∀ (source : RuleSource) (pipeline : Uuid) (trigger : Trigger) (facts : Facts) (caller : Context) (state : σ),
      Calls ((recorded team scheduler mode).runTrigger source pipeline trigger facts caller ⟨state, []⟩)
        ((ofTeam team scheduler mode).runTrigger source pipeline trigger facts caller state)
        (fun rule context => context = caller ∧ rule.state.enabled = true ∧
          ∃ rules, source.listening pipeline trigger = .ok rules ∧ rule ∈ rules)
        action fun context => .sendWebhook (params.request action context)) ∧
    (∀ (source : RuleSource) (wanted : Uuid) (facts : Facts) (caller : Context) (state : σ),
      Calls ((recorded team scheduler mode).runById source wanted facts caller ⟨state, []⟩)
        ((ofTeam team scheduler mode).runById source wanted facts caller state)
        (fun rule context => context = caller ∧ rule.state.enabled = true ∧ source.find wanted = .ok rule)
        action fun context => .sendWebhook (params.request action context)) ∧
    ∀ (runner : Runner) (now : Instant) (state : σ),
      Calls (Prod.map id Prod.snd (runner.tick (recorded team scheduler mode) now ⟨state, []⟩))
        (Prod.map id Prod.snd (runner.tick (ofTeam team scheduler mode) now state))
        (fun rule context => ∃ scheduled ∈ runner.due now, rule = scheduled.rule ∧ context = scheduled.context)
        action fun context => .sendWebhook (params.request action context) := by
  have makes := Action.call_webhook webhook read stated
  have isRole : action.kind.role = .webhooks := by rw [webhook]; rfl
  refine ⟨?_, ?_, ?_, ?_, ?_⟩
  · intro perform member context state
    exact Registry.execute_ok (isRole ▸ member) (makes context) state
  · intro payload given one other state
    have alike : params.request action one = params.request action other := by
      simp only [WebhookParams.request, given]
    cases member : team action.kind.role with
    | none => rw [Registry.execute_vacant member, Registry.execute_vacant member]
    | some perform =>
        rw [Registry.execute_ok member (makes one), Registry.execute_ok member (makes other), alike]
  · intro source pipeline trigger facts caller state
    apply calls_of_alike makes
    apply runTrigger_alike
    · exact rfl
    · intro rules listed rule isRule enabled
      exact recorded_follows_stamped ⟨rfl, enabled, rules, listed, isRule⟩
    · exact Records.none _ state
  · intro source wanted facts caller state
    apply calls_of_alike makes
    apply runById_alike
    · intro rule found enabled
      exact recorded_follows_stamped ⟨rfl, enabled, found⟩
    · exact Records.none _ state
  · intro runner now state
    apply calls_of_alike makes
    simp only [Runner.tick_eq, Prod.map]
    apply Runner.fireAll_alike
    · intro scheduled isDue
      exact recorded_follows_stamped ⟨scheduled, isDue, rfl, rfl⟩
    · exact Records.none _ state

/-- This team has nobody but the member who calls webhooks, and keeps the calls. -/
def hookTeam : Team (List Call) :=
  Team.none.appoint .webhooks fun call taken => (.ok (), taken ++ [call])

def hookAction (payload : Value) : Action :=
  (Action.ofKind .sendWebhook).withParam "url" (.text "https://example.com/hook")
    |>.withParam "payload" payload

/-- A payload that is false is sent as it is. -/
theorem false_payload_is_sent :
    (hookAction (.bool false)).kind = .sendWebhook ∧
      Params.ofAction (hookAction (.bool false)) =
        .ok (⟨"https://example.com/hook", .post, Fields.empty, some (.bool false)⟩ : WebhookParams) ∧
      (hookAction (.bool false)).params.get? "payload" ≠ some .null ∧
      (Registry.ofTeam hookTeam).execute (hookAction (.bool false)) (.ofTenant "tenant") [] =
        (.ok (), [.sendWebhook ⟨"https://example.com/hook", .post, Fields.empty, .bool false⟩]) := by
  have read : Params.ofAction (hookAction (.bool false)) =
      .ok (⟨"https://example.com/hook", .post, Fields.empty, some (.bool false)⟩ : WebhookParams) := rfl
  have stated : (hookAction (.bool false)).params.get? "payload" ≠ some .null :=
    fun same : some (Value.bool false) = some .null => nomatch same
  exact ⟨rfl, read, stated,
    (webhook_sends_stated_payload hookTeam none .inOrder rfl read stated).1 _ rfl (.ofTenant "tenant") []⟩

/-- A payload that is null is taken for none, and the context is sent in its place. -/
theorem null_payload_sends_context :
    (hookAction .null).kind = .sendWebhook ∧
      Params.ofAction (hookAction .null) =
        .ok (⟨"https://example.com/hook", .post, Fields.empty, none⟩ : WebhookParams) ∧
      (hookAction .null).params.get? "payload" = some .null ∧
      (Registry.ofTeam hookTeam).execute (hookAction .null) (.ofTenant "tenant") [] =
        (.ok (), [.sendWebhook
          ⟨"https://example.com/hook", .post, Fields.empty, .object [("tenant_id", .text "tenant")]⟩]) :=
  ⟨rfl, rfl, rfl, rfl⟩

end Engine

end ContactRules
