/-
This file proves that a registry makes one call for an action that is well-formed, and none for any other.
-/

import ContactRules.Dispatch.Registry
import ContactRules.Proofs.Dispatch.Call

namespace ContactRules

variable {σ β : Type}

/-- Notes are kept beside the outside. -/
structure Noted (σ β : Type) where
  outside : σ
  notes : List β

namespace Noted

/-- This adds notes to those of an attempt. -/
def extend {ε : Type} (notes made : List β) (answered : Except ε Unit × σ) : Except ε Unit × Noted σ β :=
  (answered.1, ⟨answered.2, notes ++ made⟩)

end Noted

namespace Team

/-- Each member of the team notes the calls that it takes, and then does what it does. -/
def noted (team : Team σ) (note : Role → Call → β) : Team (Noted σ β) := fun role =>
  (team role).map fun perform call noted =>
    Noted.extend noted.notes [note role call] (perform call noted.outside)

/-- These are the calls that an action makes on the team, with the roles of those who take them. -/
def calls (team : Team σ) (action : Action) (context : Context) : List (Role × Call) :=
  match team action.kind.role, action.kind.call action context with
  | some _, .ok call => [(action.kind.role, call)]
  | _, _ => []

/-- The members of a team fail, but they never call an action malformed. -/
def Competent (team : Team σ) : Prop :=
  ∀ role perform, team role = some perform → ∀ call before error,
    (perform call before).1 = .error error → error.isValidation = false

/-- This says which calls an action makes on a team, and how it is answered. Nobody is called and nothing
changes unless there is a member for its kind, its parameters are read and its target is there. -/
structure Dispatches (team : Team σ) (action : Action) (context : Context) (state : σ)
    (calls : List (Role × Call)) (answered : Except ActionError Unit × σ) : Prop where
  unknown : team action.kind.role = Option.none →
    calls = [] ∧ answered = (.error (.noHandler action.kind), state)
  invalid : ∀ perform error, team action.kind.role = some perform →
    action.kind.readParams action = .error error →
      calls = [] ∧ answered = (.error error, state) ∧ ∃ reason, error = .invalidParams action.kind reason
  untargeted : ∀ perform params target, team action.kind.role = some perform →
    action.kind.readParams action = .ok params → action.kind.target? = some target →
      context.names target = false →
        calls = [] ∧ answered = (.error (.missingTarget action.kind target), state)
  called : ∀ perform params, team action.kind.role = some perform →
    action.kind.readParams action = .ok params →
      (∀ target, action.kind.target? = some target → context.names target = true) →
        ∃ call, call.kind = action.kind ∧ calls = [(action.kind.role, call)] ∧
          answered = perform call state
  malformed : team.Competent →
    ((∃ error, answered.1 = .error error ∧ error.isValidation = true) ↔ calls = [])

end Team

/-- A crew names the collaborator behind the built-in handler of each kind. Kinds of one role may have different
collaborators, unlike in a team. -/
def Crew (σ : Type) := ActionKind → Option (Call → Attempt σ ActionError)

def Team.crew (team : Team σ) : Crew σ := fun kind => team kind.role

namespace Crew

/-- This registry holds the built-in handlers of a crew, and no others. -/
def registry (crew : Crew σ) : Registry σ where
  handler? := fun kind => (crew kind).map (Handler.ofMember kind)
  keyed := by
    intro kind handler held
    obtain ⟨perform, _, rfl⟩ := Option.map_eq_some_iff.mp held
    rfl

/-- Each member of the crew notes the calls that it takes, and then does what it does. -/
def noted (crew : Crew σ) (note : Role → Call → β) : Crew (Noted σ β) := fun kind =>
  (crew kind).map fun perform call noted =>
    Noted.extend noted.notes [note kind.role call] (perform call noted.outside)

/-- These are the calls that an action makes on the crew, with the roles of those who take them. -/
def calls (crew : Crew σ) (action : Action) (context : Context) : List (Role × Call) :=
  match crew action.kind, action.kind.call action context with
  | some _, .ok call => [(action.kind.role, call)]
  | _, _ => []

/-- An action makes no other call than its own, on the collaborator in the role of its kind. -/
theorem mem_calls {crew : Crew σ} {action : Action} {context : Context} {role : Role} {call : Call}
    (isCall : (role, call) ∈ crew.calls action context) :
    role = action.kind.role ∧ action.kind.call action context = .ok call := by
  unfold calls at isCall
  split at isCall
  · rename_i made
    obtain ⟨rfl, rfl⟩ := Prod.mk.inj (List.mem_singleton.mp isCall)
    exact ⟨rfl, made⟩
  · cases isCall

section Cases

variable {crew : Crew σ} {action : Action} {context : Context}

/-- A kind that no collaborator serves has no handler. -/
theorem execute_vacant (vacant : crew action.kind = none) (state : σ) :
    crew.registry.execute action context state = (.error (.noHandler action.kind), state) := by
  simp only [Registry.execute, registry, vacant, Option.map_none]

variable {perform : Call → Attempt σ ActionError}

/-- An action that becomes no call is refused before anybody is called. -/
theorem execute_error (member : crew action.kind = some perform) {error : ActionError}
    (refused : action.kind.call action context = .error error) (state : σ) :
    crew.registry.execute action context state = (.error error, state) := by
  simp only [Registry.execute, registry, member, Option.map_some, Handler.ofMember, refused]

/-- An action that becomes a call is answered by the collaborator of its kind. -/
theorem execute_ok (member : crew action.kind = some perform) {call : Call}
    (ready : action.kind.call action context = .ok call) (state : σ) :
    crew.registry.execute action context state = perform call state := by
  simp only [Registry.execute, registry, member, Option.map_some, Handler.ofMember, ready]

end Cases

/-- A crew that notes its calls answers as the crew itself, and its notes grow by the calls of the action. -/
theorem execute_noted (crew : Crew σ) (note : Role → Call → β) (action : Action) (context : Context)
    (noted : Noted σ β) :
    (crew.noted note).registry.execute action context noted =
      Noted.extend noted.notes ((crew.calls action context).map fun (role, call) => note role call)
        (crew.registry.execute action context noted.outside) := by
  cases member : crew action.kind with
  | none =>
      have noting : crew.noted note action.kind = none := by rw [Crew.noted, member, Option.map_none]
      rw [execute_vacant noting, execute_vacant member, calls, member]
      simp only [Noted.extend, List.map_nil, List.append_nil]
  | some perform =>
      have noting : crew.noted note action.kind = some fun call noted =>
          Noted.extend noted.notes [note action.kind.role call] (perform call noted.outside) := by
        rw [Crew.noted, member, Option.map_some]
      cases made : action.kind.call action context with
      | error error =>
          rw [execute_error noting made, execute_error member made, calls, member, made]
          simp only [Noted.extend, List.map_nil, List.append_nil]
      | ok call =>
          rw [execute_ok noting made, execute_ok member made, calls, member, made]
          rfl

end Crew

namespace Registry

/-- A kind that is registered is handled by the member in its role, and by the earlier handler if there is none. -/
theorem handler?_registerKind (team : Team σ) (registry : Registry σ) (registered kind : ActionKind) :
    (registerKind team registry registered).handler? kind =
      if kind = registered then
        ((team kind.role).map (Handler.ofMember kind)).or (registry.handler? kind)
      else registry.handler? kind := by
  unfold registerKind
  by_cases same : kind = registered
  · subst same
    cases team kind.role <;> simp [register, Handler.ofMember]
  · cases team registered.role <;> simp [register, Handler.ofMember, same]

/-- A kind that is among those registered is handled by the member in its role, if there is one. -/
theorem handler?_foldl (team : Team σ) (registry : Registry σ) (kinds : List ActionKind)
    (kind : ActionKind) :
    (kinds.foldl (registerKind team) registry).handler? kind =
      if kind ∈ kinds then ((team kind.role).map (Handler.ofMember kind)).or (registry.handler? kind)
      else registry.handler? kind := by
  induction kinds generalizing registry with
  | nil => rfl
  | cons registered rest inductionHypothesis =>
      rw [List.foldl_cons, inductionHypothesis, handler?_registerKind]
      cases team kind.role with
      | none => simp
      | some perform => by_cases same : kind = registered <;> simp [same]

/-- The registry of a team has a handler for the kinds whose roles are taken, and for no others. -/
theorem handler?_ofTeam (team : Team σ) (kind : ActionKind) :
    (ofTeam team).handler? kind = (team kind.role).map (Handler.ofMember kind) := by
  rw [ofTeam, registerTeam, handler?_foldl, if_pos (ActionKind.mem_all kind)]
  exact Option.or_none

/-- A registry is known by its handlers. -/
theorem eq_of_handler? {one other : Registry σ} (same : one.handler? = other.handler?) : one = other := by
  cases one
  cases other
  cases same
  rfl

/-- A registry that serves a team holds the handlers of the team as a crew. -/
theorem ofTeam_eq_registry (team : Team σ) : ofTeam team = team.crew.registry :=
  eq_of_handler? (funext (handler?_ofTeam team))

section Cases

variable {team : Team σ} {action : Action} {context : Context}

theorem execute_vacant (vacant : team action.kind.role = none) (state : σ) :
    (ofTeam team).execute action context state = (.error (.noHandler action.kind), state) := by
  rw [ofTeam_eq_registry]
  exact Crew.execute_vacant vacant state

variable {perform : Call → Attempt σ ActionError}

theorem execute_error (member : team action.kind.role = some perform) {error : ActionError}
    (refused : action.kind.call action context = .error error) (state : σ) :
    (ofTeam team).execute action context state = (.error error, state) := by
  rw [ofTeam_eq_registry]
  exact Crew.execute_error member refused state

theorem execute_ok (member : team action.kind.role = some perform) {call : Call}
    (ready : action.kind.call action context = .ok call) (state : σ) :
    (ofTeam team).execute action context state = perform call state := by
  rw [ofTeam_eq_registry]
  exact Crew.execute_ok member ready state

end Cases

/-- A team that notes its calls answers as the team itself, and its notes grow by the calls of the action. -/
theorem execute_noted (team : Team σ) (note : Role → Call → β) (action : Action) (context : Context)
    (noted : Noted σ β) :
    (ofTeam (team.noted note)).execute action context noted =
      Noted.extend noted.notes ((team.calls action context).map fun (role, call) => note role call)
        ((ofTeam team).execute action context noted.outside) := by
  rw [ofTeam_eq_registry, ofTeam_eq_registry]
  exact team.crew.execute_noted note action context noted

/-- The actions for which a competent team is not called are the malformed ones. -/
theorem malformed_iff_not_called {team : Team σ} (competent : team.Competent) (action : Action)
    (context : Context) (state : σ) :
    (∃ error, ((ofTeam team).execute action context state).1 = .error error ∧
      error.isValidation = true) ↔ team.calls action context = [] := by
  cases member : team action.kind.role with
  | none =>
      simp only [execute_vacant member, Team.calls, member, iff_true]
      exact ⟨_, rfl, rfl⟩
  | some perform =>
      cases made : action.kind.call action context with
      | error error =>
          simp only [execute_error member made, Team.calls, member, made, iff_true]
          exact ⟨error, rfl, ActionKind.call_eq_error made⟩
      | ok call =>
          simp only [execute_ok member made, Team.calls, member, made, List.cons_ne_nil, iff_false]
          rintro ⟨error, failed, malformed⟩
          rw [competent _ perform member call state error failed] at malformed
          cases malformed

/-- A registry that serves a team makes at most one call for an action, and checks the action before. The
calls are those that the members note, in the very run that the team makes without notes. -/
theorem execute_dispatches (team : Team σ) (action : Action) (context : Context) (state : σ)
    (notes : List (Role × Call)) :
    ∃ calls, team.Dispatches action context state calls ((ofTeam team).execute action context state) ∧
      (ofTeam (team.noted Prod.mk)).execute action context ⟨state, notes⟩ =
        Noted.extend notes calls ((ofTeam team).execute action context state) := by
  refine ⟨team.calls action context, ⟨?_, ?_, ?_, ?_, ?_⟩, ?_⟩
  · intro vacant
    rw [execute_vacant vacant, Team.calls, vacant]
    exact ⟨rfl, rfl⟩
  · intro perform error member refused
    obtain ⟨failed, invalid⟩ := ActionKind.call_of_refused refused context
    rw [execute_error member failed, Team.calls, member, failed]
    exact ⟨rfl, rfl, invalid⟩
  · intro perform params target member read needed missing
    have failed := ActionKind.call_of_missing read needed missing
    rw [execute_error member failed, Team.calls, member, failed]
    exact ⟨rfl, rfl⟩
  · intro perform params member read targeted
    obtain ⟨call, made, sameKind⟩ := ActionKind.call_of_targeted read targeted
    rw [execute_ok member made, Team.calls, member, made]
    exact ⟨call, sameKind, rfl, rfl⟩
  · intro competent
    exact malformed_iff_not_called competent action context state
  · rw [execute_noted]
    simp only [List.map_id']

/-- A tag is added to the contact that the context names, and to nobody when it names no contact. -/
example :
    let team : Team Nat := Team.none.appoint .tags fun _ taken => (.ok (), taken + 1)
    let action := (Action.ofKind .addTag).withParam "tag" (.text "new")
    let context := Context.ofTenant "tenant"
    team.calls action { context with contact := some ⟨1⟩ } = [(.tags, .addTag "tenant" ⟨1⟩ "new")] ∧
      team.calls action context = [] := ⟨rfl, rfl⟩

end Registry

end ContactRules
