/-
This file proves when an action becomes a call, and what the call takes over from the context.
-/

import ContactRules.Dispatch.Handler

namespace ContactRules

open ContactRules.Json

/-- This is whom an action of a kind needs in its context, if anyone. -/
def ActionKind.target? : ActionKind → Option Target
  | sendMessage => some .sessionOrContact
  | changeStatus => some .contact
  | addTag => some .contact
  | removeTag => some .contact
  | sendWebhook => none
  | triggerWorkflow => none
  | assignAgent => some .contact
  | updateContactField => some .contact

/-- A context may name the target of an action. -/
def Context.names (context : Context) : Target → Bool
  | .contact => context.contact.isSome
  | .sessionOrContact => context.session.isSome || context.contact.isSome

/-- A document tells the names in a context, and leaves out those that the context does not give. -/
structure Context.WrittenIn (context : Context) (body : Value) : Prop where
  tenant : body.field? "tenant_id" = some (.text context.tenant)
  session : body.field? "session_id" = context.session.map Uuid.encode
  contact : body.field? "contact_id" = context.contact.map Uuid.encode
  channel : body.field? "channel_id" = context.channel.map Uuid.encode
  pipeline : body.field? "pipeline_id" = context.pipeline.map Uuid.encode
  rule : body.field? "rule_id" = context.rule.map Uuid.encode
  trigger : body.field? "trigger" = context.trigger.map Kind.encode
  metadata : body.field? "metadata" =
    if context.metadata.isEmpty then none else some (Value.ofFields context.metadata)

/-- A field that may be left out is found under its own name, if it is written at all. -/
theorem lookup_optionalField {α : Type} (key name : String) (encode : α → Value) (content : Option α) :
    (optionalField name encode content).lookup key = if key = name then content.map encode else none := by
  cases content with
  | none => simp [optionalField]
  | some value => by_cases same : key = name <;> simp [optionalField, same]

/-- A context that is written out tells its names. -/
theorem Context.writtenIn_encode (context : Context) : context.WrittenIn context.encode := by
  cases bare : context.metadata.isEmpty <;> constructor <;>
    simp [encode, Value.field?, List.lookup_cons, List.lookup_append, lookup_optionalField, bare]

namespace Call

/-- This is the kind of the actions that make a call. -/
def kind : Call → ActionKind
  | sendMessage _ => .sendMessage
  | changeStatus _ _ _ => .changeStatus
  | addTag _ _ _ => .addTag
  | removeTag _ _ _ => .removeTag
  | sendWebhook _ => .sendWebhook
  | startWorkflow _ => .triggerWorkflow
  | assignAgent _ _ _ _ => .assignAgent
  | updateField _ _ _ _ => .updateContactField

/-- A call carries the identifiers of a context. Only the channel of a message and the body of a webhook may
be given by the action instead. -/
def Carries (action : Action) (context : Context) : Call → Prop
  | sendMessage message =>
      message.tenant = context.tenant ∧ message.session = context.session ∧
        message.contact = context.contact ∧ ∃ params : MessageParams,
          Params.ofAction action = .ok params ∧ message.channel = params.channel.or context.channel
  | changeStatus tenant contact _ => tenant = context.tenant ∧ context.contact = some contact
  | addTag tenant contact _ => tenant = context.tenant ∧ context.contact = some contact
  | removeTag tenant contact _ => tenant = context.tenant ∧ context.contact = some contact
  | sendWebhook request => ∃ params : WebhookParams,
      Params.ofAction action = .ok params ∧
        (∀ payload, params.payload = some payload → request.body = payload) ∧
          (params.payload = none → context.WrittenIn request.body)
  | startWorkflow request =>
      request.tenant = context.tenant ∧ request.rule = context.rule ∧
        request.contact = context.contact ∧ request.session = context.session
  | assignAgent tenant contact session _ =>
      tenant = context.tenant ∧ context.contact = some contact ∧ session = context.session
  | updateField tenant contact _ _ => tenant = context.tenant ∧ context.contact = some contact

end Call

namespace Context

variable {context : Context} {kind : ActionKind}

/-- A search for the target of a kind succeeds when the context names the target, and fails for this reason
only. -/
structure Finds {α : Type} (context : Context) (kind : ActionKind) (search : Except ActionError α) :
    Prop where
  present : ∀ found, search = .ok found → ∀ target, kind.target? = some target →
    context.names target = true
  missing : ∀ error, search = .error error → ∃ target, kind.target? = some target ∧
    context.names target = false ∧ error = .missingTarget kind target

/-- A contact is required of a context, and the context names it. -/
theorem requireContact_eq_ok {contact : Uuid} :
    context.requireContact kind = .ok contact ↔ context.contact = some contact := by
  unfold requireContact
  cases context.contact <;> simp

/-- A search for the contact finds the target of a kind that needs one. -/
theorem finds_contact (needed : kind.target? = some .contact) :
    context.Finds kind (context.requireContact kind) where
  present found isFound target isTarget := by
    obtain rfl := Option.some.inj (needed.symm.trans isTarget)
    simp only [names, requireContact_eq_ok.mp isFound, Option.isSome_some]
  missing error failed := by
    refine ⟨.contact, needed, ?_⟩
    unfold requireContact at failed
    cases named : context.contact with
    | none =>
        simp only [named, Except.error.injEq] at failed
        simp only [names, named, Option.isSome_none, true_and, failed]
    | some contact => simp only [named, reduceCtorEq] at failed

/-- A message needs someone to go to, in a session or not. -/
theorem names_recipient (context : Context) :
    context.names .sessionOrContact = !(context.session.isNone && context.contact.isNone) := by
  rw [names, Bool.not_and, Option.not_isNone, Option.not_isNone]

/-- A search for the recipient finds the target of a kind that needs one. -/
theorem finds_recipient (needed : kind.target? = some .sessionOrContact) :
    context.Finds kind (context.requireRecipient kind) where
  present found isFound target isTarget := by
    obtain rfl := Option.some.inj (needed.symm.trans isTarget)
    unfold requireRecipient at isFound
    cases recipient : context.session.isNone && context.contact.isNone with
    | true => simp only [recipient, if_true, reduceCtorEq] at isFound
    | false => rw [names_recipient, recipient, Bool.not_false]
  missing error failed := by
    refine ⟨.sessionOrContact, needed, ?_⟩
    unfold requireRecipient at failed
    cases recipient : context.session.isNone && context.contact.isNone with
    | true =>
        simp only [recipient, if_true, Except.error.injEq] at failed
        rw [names_recipient, recipient]
        exact ⟨rfl, failed.symm⟩
    | false => simp only [recipient, Bool.false_eq_true, if_false, reduceCtorEq] at failed

/-- Nothing is missing for an action that needs nobody. -/
theorem finds_nobody (unneeded : kind.target? = none) : context.Finds kind (.ok ()) where
  present _ _ _ isTarget := nomatch unneeded.symm.trans isTarget
  missing _ failed := nomatch failed

end Context

/-- An action whose parameters have been read makes a call on the target that is found. -/
def Action.prepare {α β : Type} [Params α] (action : Action) (search : Except ActionError β)
    (make : α → β → Call) : Except ActionError Call := do
  let params : α ← Params.ofAction action
  let found ← search
  return make params found

/-- Parameters that are refused are invalid. -/
theorem Params.ofAction_eq_error {α : Type} [Params α] {action : Action} {error : ActionError}
    (refused : (Params.ofAction action : Except ActionError α) = .error error) :
    ∃ reason, error = .invalidParams action.kind reason := by
  unfold Params.ofAction at refused
  cases read : (Params.ofFields action.params : Except ParamsError α) with
  | ok params =>
      rw [read] at refused
      cases refused
  | error reason =>
      rw [read] at refused
      cases refused
      exact ⟨reason, rfl⟩

/-- These are the ways in which an action becomes a call or fails to. -/
inductive Action.Becomes (action : Action) (context : Context) : Except ActionError Call → Prop
  | invalid (reason : ParamsError)
      (refused : action.kind.readParams action = .error (.invalidParams action.kind reason)) :
      Becomes action context (.error (.invalidParams action.kind reason))
  | untargeted (params : List (String × Value)) (target : Target)
      (read : action.kind.readParams action = .ok params) (needed : action.kind.target? = some target)
      (missing : context.names target = false) :
      Becomes action context (.error (.missingTarget action.kind target))
  | ready (params : List (String × Value)) (call : Call)
      (read : action.kind.readParams action = .ok params)
      (targeted : ∀ target, action.kind.target? = some target → context.names target = true)
      (sameKind : call.kind = action.kind) (carries : call.Carries action context) :
      Becomes action context (.ok call)

/-- The parameters are read before the target is searched for. -/
theorem Action.becomes_prepare {α β : Type} [Params α] {action : Action} {context : Context}
    {search : Except ActionError β} (make : α → β → Call)
    (reads : action.kind.readParams action =
      (Params.ofAction action).map fun params : α => Params.encode params)
    (finds : context.Finds action.kind search)
    (makes : ∀ params found, Params.ofAction action = .ok params → search = .ok found →
      (make params found).kind = action.kind ∧ (make params found).Carries action context) :
    action.Becomes context (action.prepare search make) := by
  cases isRead : (Params.ofAction action : Except ActionError α) with
  | error error =>
      obtain ⟨reason, rfl⟩ := Params.ofAction_eq_error isRead
      rw [isRead] at reads
      simp only [Action.prepare, isRead]
      exact .invalid reason reads
  | ok params =>
      rw [isRead] at reads
      cases isFound : search with
      | error error =>
          obtain ⟨target, needed, missing, rfl⟩ := finds.missing error isFound
          simp only [Action.prepare, isRead]
          exact .untargeted _ target reads needed missing
      | ok found =>
          obtain ⟨sameKind, carries⟩ := makes params found isRead isFound
          simp only [Action.prepare, isRead]
          exact .ready _ _ reads (finds.present found isFound) sameKind carries

/-- An action becomes a call in one of these ways. Its call is of its own kind and carries the identifiers of
the context. -/
theorem ActionKind.becomes_call (action : Action) (context : Context) :
    action.Becomes context (action.kind.call action context) := by
  obtain ⟨kind, fields, delay⟩ := action
  have contactFound {kind : ActionKind} {contact : Uuid} :
      context.requireContact kind = .ok contact → context.contact = some contact :=
    Context.requireContact_eq_ok.mp
  cases kind with
  | sendMessage =>
      exact Action.becomes_prepare (fun (params : MessageParams) _ => .sendMessage
        ⟨context.tenant, context.session, context.contact, params.channel.or context.channel,
          params.content⟩) rfl (Context.finds_recipient rfl)
        fun params _ read _ => ⟨rfl, rfl, rfl, rfl, params, read, rfl⟩
  | changeStatus =>
      exact Action.becomes_prepare (fun (params : StatusParams) contact =>
        .changeStatus context.tenant contact params.status) rfl (Context.finds_contact rfl)
        fun _ _ _ found => ⟨rfl, rfl, contactFound found⟩
  | addTag =>
      exact Action.becomes_prepare (fun (params : TagParams) contact =>
        .addTag context.tenant contact params.tag) rfl (Context.finds_contact rfl)
        fun _ _ _ found => ⟨rfl, rfl, contactFound found⟩
  | removeTag =>
      exact Action.becomes_prepare (fun (params : TagParams) contact =>
        .removeTag context.tenant contact params.tag) rfl (Context.finds_contact rfl)
        fun _ _ _ found => ⟨rfl, rfl, contactFound found⟩
  | sendWebhook =>
      exact Action.becomes_prepare (fun (params : WebhookParams) _ => .sendWebhook
        ⟨params.url, params.method, params.headers, params.payload.getD context.encode⟩) rfl
        (Context.finds_nobody rfl) fun params _ read _ => by
          refine ⟨rfl, params, read, fun payload given => ?_, fun omitted => ?_⟩
          · simp only [given, Option.getD_some]
          · simp only [omitted, Option.getD_none]
            exact context.writtenIn_encode
  | triggerWorkflow =>
      exact Action.becomes_prepare (fun (params : WorkflowParams) _ => .startWorkflow
        ⟨params.workflow, context.tenant, context.rule, context.contact, context.session,
          params.input⟩) rfl (Context.finds_nobody rfl) fun _ _ _ _ => ⟨rfl, rfl, rfl, rfl, rfl⟩
  | assignAgent =>
      exact Action.becomes_prepare (fun (params : AgentParams) contact =>
        .assignAgent context.tenant contact context.session params.agent) rfl
        (Context.finds_contact rfl) fun _ _ _ found => ⟨rfl, rfl, contactFound found, rfl⟩
  | updateContactField =>
      exact Action.becomes_prepare (fun (params : FieldParams) contact =>
        .updateField context.tenant contact params.field params.value) rfl
        (Context.finds_contact rfl) fun _ _ _ found => ⟨rfl, rfl, contactFound found⟩

namespace ActionKind

variable {action : Action} {context : Context}

/-- An action whose parameters are refused becomes no call, whatever the context names. -/
theorem call_of_refused {error : ActionError} (refused : action.kind.readParams action = .error error)
    (context : Context) :
    action.kind.call action context = .error error ∧ ∃ reason, error = .invalidParams action.kind reason := by
  have becomes := becomes_call action context
  generalize action.kind.call action context = made at becomes
  cases becomes with
  | invalid reason invalid =>
      obtain rfl := Except.error.inj (refused.symm.trans invalid)
      exact ⟨rfl, reason, rfl⟩
  | untargeted _ _ read | ready _ _ read => cases refused.symm.trans read

/-- An action whose target is missing becomes no call, although its parameters are read. -/
theorem call_of_missing {params : List (String × Value)} {target : Target}
    (read : action.kind.readParams action = .ok params) (needed : action.kind.target? = some target)
    (missing : context.names target = false) :
    action.kind.call action context = .error (.missingTarget action.kind target) := by
  have becomes := becomes_call action context
  generalize action.kind.call action context = made at becomes
  cases becomes with
  | invalid _ refused => cases refused.symm.trans read
  | untargeted _ other _ alsoNeeded =>
      obtain rfl := Option.some.inj (needed.symm.trans alsoNeeded)
      rfl
  | ready _ _ _ targeted =>
      rw [targeted target needed] at missing
      cases missing

/-- An action whose parameters are read and whose target is there becomes a call of its own kind. -/
theorem call_of_targeted {params : List (String × Value)}
    (read : action.kind.readParams action = .ok params)
    (targeted : ∀ target, action.kind.target? = some target → context.names target = true) :
    ∃ call, action.kind.call action context = .ok call ∧ call.kind = action.kind := by
  have becomes := becomes_call action context
  generalize action.kind.call action context = made at becomes
  cases becomes with
  | invalid _ refused => cases refused.symm.trans read
  | untargeted _ target _ needed missing =>
      rw [targeted target needed] at missing
      cases missing
  | ready _ call _ _ sameKind => exact ⟨call, rfl, sameKind⟩

/-- A call is of the kind of its action, and carries the identifiers of its context. -/
theorem call_eq_ok {call : Call} (made : action.kind.call action context = .ok call) :
    call.kind = action.kind ∧ call.Carries action context := by
  have becomes := becomes_call action context
  rw [made] at becomes
  cases becomes with
  | ready _ _ _ _ sameKind carries => exact ⟨sameKind, carries⟩

/-- An action that becomes no call is malformed. -/
theorem call_eq_error {error : ActionError} (failed : action.kind.call action context = .error error) :
    error.isValidation = true := by
  have becomes := becomes_call action context
  rw [failed] at becomes
  cases becomes with
  | invalid | untargeted => rfl

end ActionKind

end ContactRules
