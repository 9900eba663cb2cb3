/-
This file proves what a registry answers after any history of registrations.
-/

import ContactRules.Proofs.Dispatch.Registry
import Mathlib.Data.Finset.Card
import Mathlib.SetTheory.Cardinal.Finite

namespace ContactRules

variable {σ : Type}

/-- A step of a history registers one handler or those of a team, or removes the handler of a kind. -/
inductive RegistryStep (σ : Type) where
  | register (handler : Handler σ)
  | enlist (team : Team σ)
  | withdraw (kind : ActionKind)

/-- A step is built in unless it registers a handler that is not. -/
def RegistryStep.BuiltIn : RegistryStep σ → Prop
  | register handler => ∃ perform, handler = Handler.ofMember handler.kind perform
  | enlist _ => True
  | withdraw _ => True

/-- This is what a step leaves as the handler of a kind, if it concerns the kind at all. -/
def RegistryStep.leaves? (kind : ActionKind) : RegistryStep σ → Option (Option (Handler σ))
  | register handler => if handler.kind = kind then some (some handler) else none
  | enlist team => (team kind.role).map fun perform => some (Handler.ofMember kind perform)
  | withdraw removed => if removed = kind then some none else none

/-- A handler is in charge of a kind when a step of the history has registered it, and no later step has
registered another one or removed it. -/
def InCharge (history : List (RegistryStep σ)) (kind : ActionKind) (handler : Handler σ) : Prop :=
  ∃ before step after, history = before ++ step :: after ∧ step.leaves? kind = some (some handler) ∧
    ∀ later ∈ after, later.leaves? kind = none

theorem ActionKind.all_nodup : all.Nodup := by decide

/-- Kinds are counted by going through all of them. -/
theorem ActionKind.card_eq_countP {property : ActionKind → Prop} {test : ActionKind → Bool}
    (tests : ∀ kind, test kind = true ↔ property kind) :
    Nat.card {kind // property kind} = all.countP test := by
  have members (kind : ActionKind) : kind ∈ (all.filter test).toFinset ↔ property kind := by
    rw [List.mem_toFinset, List.mem_filter, tests]
    exact and_iff_right (mem_all kind)
  rw [Nat.subtype_card _ members, List.toFinset_card_of_nodup (all_nodup.filter _),
    List.countP_eq_length_filter]

/-- The handler notes that it is asked, and then does what it does. -/
def Handler.noted (handler : Handler σ) : Handler (Noted σ (Handler σ)) where
  kind := handler.kind
  perform := fun action context noted =>
    Noted.extend noted.notes [handler] (handler.perform action context noted.outside)

namespace Registry

def step (registry : Registry σ) : RegistryStep σ → Registry σ
  | .register handler => registry.register handler
  | .enlist team => (registry.enlist team).2
  | .withdraw kind => (registry.withdraw kind).2

/-- This replays a history on a registry that is empty at first. -/
def replay (history : List (RegistryStep σ)) : Registry σ := history.foldl step empty

/-- In this registry each handler notes that it is asked. -/
def noted (registry : Registry σ) : Registry (Noted σ (Handler σ)) where
  handler? := fun kind => (registry.handler? kind).map Handler.noted
  keyed := by
    intro kind noting isNoting
    obtain ⟨handler, held, rfl⟩ := Option.map_eq_some_iff.mp isNoting
    exact registry.keyed kind handler held

section Lookup

variable {registry : Registry σ} {action : Action} {handler : Handler σ}

/-- A team that is enlisted handles the kinds that it serves, and other kinds keep their handlers. -/
theorem handler?_enlist (registry : Registry σ) (team : Team σ) (kind : ActionKind) :
    (registry.enlist team).2.handler? kind =
      ((team kind.role).map (Handler.ofMember kind)).or (registry.handler? kind) := by
  rw [enlist, registerTeam, handler?_foldl, if_pos (ActionKind.mem_all kind)]

/-- A step changes the handlers of the kinds that it concerns, and no other ones. -/
theorem handler?_step (registry : Registry σ) (step : RegistryStep σ) (kind : ActionKind) :
    (registry.step step).handler? kind = (step.leaves? kind).getD (registry.handler? kind) := by
  cases step with
  | register handler =>
      simp only [Registry.step, register, RegistryStep.leaves?, eq_comm (a := kind)]
      split <;> rfl
  | enlist team =>
      refine (registry.handler?_enlist team kind).trans ?_
      simp only [RegistryStep.leaves?]
      cases team kind.role <;> rfl
  | withdraw removed =>
      simp only [Registry.step, withdraw, unregister, RegistryStep.leaves?, eq_comm (a := kind)]
      split <;> rfl

/-- The last step that concerns a kind decides about its handler. -/
theorem handler?_foldl_step (registry : Registry σ) (history : List (RegistryStep σ)) (kind : ActionKind) :
    (history.foldl step registry).handler? kind =
      (history.reverse.findSome? (RegistryStep.leaves? kind)).getD (registry.handler? kind) := by
  induction history generalizing registry with
  | nil => rfl
  | cons step rest inductionHypothesis =>
      rw [List.foldl_cons, inductionHypothesis, handler?_step, List.reverse_cons, List.findSome?_append,
        List.findSome?_singleton]
      cases rest.reverse.findSome? (RegistryStep.leaves? kind) with
      | some left => rfl
      | none => cases step.leaves? kind <;> rfl

/-- The handler that a registry finds is the one in charge. -/
theorem handler?_replay (history : List (RegistryStep σ)) (kind : ActionKind) (handler : Handler σ) :
    (replay history).handler? kind = some handler ↔ InCharge history kind handler := by
  have decided : (replay history).handler? kind = some handler ↔
      history.reverse.findSome? (RegistryStep.leaves? kind) = some (some handler) := by
    rw [replay, handler?_foldl_step]
    cases history.reverse.findSome? (RegistryStep.leaves? kind) with
    | none => simp [empty]
    | some left => simp
  rw [decided, List.findSome?_eq_some_iff]
  constructor
  · rintro ⟨after, step, before, reversed, leaves, untouched⟩
    refine ⟨before.reverse, step, after.reverse, ?_, leaves, ?_⟩
    · rw [← history.reverse_reverse, reversed]
      simp
    · simpa using untouched
  · rintro ⟨before, step, after, rfl, leaves, untouched⟩
    exact ⟨after.reverse, step, before.reverse, by simp, leaves, by simpa using untouched⟩

/-- A registry finds no handler when none is in charge. -/
theorem handler?_replay_eq_none {history : List (RegistryStep σ)} {kind : ActionKind} :
    (replay history).handler? kind = none ↔ ∀ handler, ¬InCharge history kind handler := by
  simp only [← handler?_replay, Option.eq_none_iff_forall_ne_some]

theorem execute_held (held : registry.handler? action.kind = some handler) (context : Context) (state : σ) :
    registry.execute action context state = handler.perform action context state := by
  simp only [execute, held]

theorem execute_unheld (unheld : registry.handler? action.kind = none) (context : Context) (state : σ) :
    registry.execute action context state = (.error (.noHandler action.kind), state) := by
  simp only [execute, unheld]

/-- A registry asks the handler of the kind, and nobody else. -/
theorem noted_execute (registry : Registry σ) (action : Action) (context : Context) (state : σ)
    (before : List (Handler σ)) :
    registry.noted.execute action context ⟨state, before⟩ =
      Noted.extend before (registry.handler? action.kind).toList (registry.execute action context state) := by
  have sameHandler : registry.noted.handler? action.kind = (registry.handler? action.kind).map Handler.noted := rfl
  cases held : registry.handler? action.kind with
  | none =>
      rw [held, Option.map_none] at sameHandler
      rw [execute_unheld sameHandler, execute_unheld held, Option.toList_none, Noted.extend, List.append_nil]
  | some handler =>
      rw [held, Option.map_some] at sameHandler
      rw [execute_held sameHandler, execute_held held, Option.toList_some]
      rfl

end Lookup

section Listing

variable (registry : Registry σ)

/-- The kinds that are listed are those with a handler. -/
theorem mem_kinds {registry : Registry σ} {kind : ActionKind} :
    kind ∈ registry.kinds ↔ registry.has kind = true := by
  rw [kinds, List.mem_filter]
  exact and_iff_right (ActionKind.mem_all kind)

theorem size_eq_countP : registry.size = ActionKind.all.countP registry.has := by
  rw [size, kinds, List.countP_eq_length_filter]

theorem isEmpty_iff : registry.isEmpty = true ↔ registry.size = 0 := by
  rw [isEmpty, size, List.isEmpty_iff, List.length_eq_zero_iff]

/-- A kind has a handler after a team is enlisted when the team serves it, or when it had one. -/
theorem has_enlist (team : Team σ) (kind : ActionKind) :
    (registry.enlist team).2.has kind = ((team kind.role).isSome || registry.has kind) := by
  simp only [has, handler?_enlist, Option.isSome_or, Option.isSome_map]

/-- The kinds that had a handler keep one, so that the sizes differ by the kinds that had none. -/
theorem enlist_count (team : Team σ) :
    (registry.enlist team).1 =
      ActionKind.all.countP fun kind => (team kind.role).isSome && !registry.has kind := by
  have kept : (ActionKind.all.filter registry.has).countP (registry.enlist team).2.has = registry.size := by
    rw [List.countP_eq_length.mpr, size, kinds]
    intro kind isHeld
    rw [has_enlist, (List.mem_filter.mp isHeld).2, Bool.or_true]
  have added : (ActionKind.all.filter fun kind => !registry.has kind).countP (registry.enlist team).2.has =
      ActionKind.all.countP fun kind => (team kind.role).isSome && !registry.has kind := by
    rw [List.countP_filter]
    refine List.countP_congr fun kind _ => ?_
    rw [has_enlist]
    cases registry.has kind <;> simp
  have grown : (registry.enlist team).2.size = registry.size +
      ActionKind.all.countP fun kind => (team kind.role).isSome && !registry.has kind := by
    rw [size_eq_countP, List.countP_eq_countP_filter_add _ _ registry.has, kept, added]
  exact Nat.sub_eq_of_eq_add' grown

end Listing

/-- A registry reflects a history when it finds the handlers that are in charge, leaves actions to them and lists
their kinds. It answers by itself, without asking a handler, when none is in charge and only then. Where handlers
do not give this very answer, nothing else has it. -/
structure Reflects (registry : Registry σ) (history : List (RegistryStep σ)) : Prop where
  found : ∀ kind handler, registry.handler? kind = some handler ↔ InCharge history kind handler
  performed : ∀ action context state handler, InCharge history action.kind handler →
    registry.execute action context state = handler.perform action context state
  unknown : ∀ action context state, (∀ handler, ¬InCharge history action.kind handler) →
    registry.execute action context state = (.error (.noHandler action.kind), state)
  refused : ∀ action context state,
    (∀ handler, InCharge history action.kind handler →
      (handler.perform action context state).1 ≠ .error (.noHandler action.kind)) →
    ((registry.execute action context state).1 = .error (.noHandler action.kind) ↔
      ∀ handler, ¬InCharge history action.kind handler)
  unasked : ∀ action context state before,
    registry.noted.execute action context ⟨state, before⟩ = (.error (.noHandler action.kind), ⟨state, before⟩) ↔
      ∀ handler, ¬InCharge history action.kind handler
  undisturbed : ∀ action context state before, ∃ asked,
    registry.noted.execute action context ⟨state, before⟩ =
      Noted.extend before asked (registry.execute action context state)
  has : ∀ kind, registry.has kind = true ↔ ∃ handler, InCharge history kind handler
  listed : ∀ kind, kind ∈ registry.kinds ↔ ∃ handler, InCharge history kind handler
  inOrder : registry.kinds.Sublist ActionKind.all
  once : registry.kinds.Nodup
  length : registry.size = registry.kinds.length
  counted : registry.size = Nat.card {kind // ∃ handler, InCharge history kind handler}
  empty : registry.isEmpty = true ↔ registry.size = 0

/-- When a kind is withdrawn, the answer says whether a handler was in charge of it. Afterwards it has none, and
other kinds have the handlers that they had. -/
structure Withdraws (registry : Registry σ) (history : List (RegistryStep σ)) (kind : ActionKind) : Prop where
  answer : (registry.withdraw kind).1 = true ↔ ∃ handler, InCharge history kind handler
  removed : (registry.withdraw kind).2.handler? kind = none
  others : ∀ other, other ≠ kind → (registry.withdraw kind).2.handler? other = registry.handler? other

/-- When a team is enlisted, each kind that it serves gets the handler of its member, whatever handler it had.
Other kinds have the handlers that they had. The answer is the number of kinds that had none. -/
structure Enlists (registry : Registry σ) (history : List (RegistryStep σ)) (team : Team σ) : Prop where
  served : ∀ kind perform, team kind.role = some perform →
    (registry.enlist team).2.handler? kind = some (Handler.ofMember kind perform)
  others : ∀ kind, team kind.role = none →
    (registry.enlist team).2.handler? kind = registry.handler? kind
  answer : (registry.enlist team).1 =
    Nat.card {kind : ActionKind // (team kind.role).isSome = true ∧ ∀ handler, ¬InCharge history kind handler}

/-- A kind has a handler exactly when one is in charge of it. -/
theorem has_replay (history : List (RegistryStep σ)) (kind : ActionKind) :
    (replay history).has kind = true ↔ ∃ handler, InCharge history kind handler := by
  simp only [has, Option.isSome_iff_exists, handler?_replay]

/-- After any history a registry reflects it. -/
theorem replay_reflects (history : List (RegistryStep σ)) : (replay history).Reflects history where
  found := handler?_replay history
  performed action context state handler inCharge :=
    execute_held ((handler?_replay history action.kind handler).mpr inCharge) context state
  unknown action context state none := execute_unheld (handler?_replay_eq_none.mpr none) context state
  refused action context state unlike := by
    refine ⟨fun answered handler inCharge => unlike handler inCharge ?_, fun none => ?_⟩
    · rw [← execute_held ((handler?_replay history action.kind handler).mpr inCharge)]
      exact answered
    · rw [execute_unheld (handler?_replay_eq_none.mpr none)]
  unasked action context state before := by
    rw [noted_execute, ← handler?_replay_eq_none]
    constructor
    · intro answered
      have notes := congrArg (fun answer => answer.2.notes) answered
      simpa [Noted.extend] using notes
    · intro unheld
      rw [execute_unheld unheld, unheld, Option.toList_none, Noted.extend, List.append_nil]
  undisturbed action context state before := ⟨_, noted_execute _ action context state before⟩
  has := has_replay history
  listed kind := mem_kinds.trans (has_replay history kind)
  inOrder := List.filter_sublist
  once := ActionKind.all_nodup.filter _
  length := rfl
  counted := by rw [size_eq_countP, ActionKind.card_eq_countP (has_replay history)]
  empty := isEmpty_iff _

/-- After any history a kind can be withdrawn, whether it has a handler or not. -/
theorem replay_withdraws (history : List (RegistryStep σ)) (kind : ActionKind) :
    (replay history).Withdraws history kind where
  answer := has_replay history kind
  removed := if_pos rfl
  others _ different := if_neg different

/-- After any history a team can be enlisted, whatever handlers there are. -/
theorem replay_enlists (history : List (RegistryStep σ)) (team : Team σ) :
    (replay history).Enlists history team where
  served kind perform member := by rw [handler?_enlist, member, Option.map_some, Option.some_or]
  others kind vacant := by rw [handler?_enlist, vacant, Option.map_none, Option.none_or]
  answer := by
    refine (enlist_count _ team).trans (ActionKind.card_eq_countP fun kind => ?_).symm
    rw [Bool.and_eq_true, Bool.not_eq_true', ← Bool.not_eq_true, has_replay, not_exists]

/-- After any history a registry finds, asks, lists and counts the handlers that were registered last, by
themselves or with a team, and were not removed since. The next step answers and changes what it should. -/
theorem registry_reflects_history (history : List (RegistryStep σ)) :
    (replay history).Reflects history ∧
      (∀ kind, (replay history).Withdraws history kind) ∧
      ∀ team, (replay history).Enlists history team :=
  ⟨replay_reflects history, replay_withdraws history, replay_enlists history⟩

/-- A stand-in takes the place of one handler of a team, and its kind is then withdrawn. When the team is enlisted
again, one kind had no handler. -/
example :
    let team : Team Nat := Team.none.appoint .tags fun _ taken => (.ok (), taken + 1)
    let standIn : Handler Nat := ⟨.addTag, fun _ _ taken => (.ok (), taken)⟩
    let registry := replay [.enlist team, .register standIn, .withdraw .addTag]
    registry.kinds = [.removeTag] ∧ (registry.enlist team).1 = 1 ∧
      (registry.enlist team).2.kinds = [.addTag, .removeTag] := ⟨rfl, rfl, rfl⟩

/-- A registry is built in when each of its handlers leaves the calls to a collaborator. -/
def BuiltIn (registry : Registry σ) : Prop :=
  ∀ kind handler, registry.handler? kind = some handler → ∃ perform, handler = Handler.ofMember kind perform

/-- A registry that has been given built-in handlers only is built in. -/
theorem replay_builtIn {history : List (RegistryStep σ)} (builtIn : ∀ step ∈ history, step.BuiltIn) :
    (replay history).BuiltIn := by
  intro kind handler held
  obtain ⟨before, step, after, rfl, leaves, _⟩ := (handler?_replay history kind handler).mp held
  have made : step.BuiltIn := builtIn step List.mem_append_cons_self
  cases step with
  | register other =>
      simp only [RegistryStep.leaves?] at leaves
      split at leaves
      · rename_i sameKind
        cases leaves
        cases sameKind
        exact made
      · cases leaves
  | enlist team =>
      obtain ⟨perform, _, same⟩ := Option.map_eq_some_iff.mp leaves
      cases same
      exact ⟨perform, rfl⟩
  | withdraw removed =>
      simp only [RegistryStep.leaves?] at leaves
      split at leaves <;> cases leaves

/-- A registry that is built in has a crew. -/
theorem BuiltIn.exists_crew {registry : Registry σ} (builtIn : registry.BuiltIn) :
    ∃ crew : Crew σ, registry = crew.registry := by
  have served (kind : ActionKind) : ∃ member : Option (Call → Attempt σ ActionError),
      registry.handler? kind = member.map (Handler.ofMember kind) := by
    cases held : registry.handler? kind with
    | none => exact ⟨none, rfl⟩
    | some handler =>
        obtain ⟨perform, rfl⟩ := builtIn kind handler held
        exact ⟨some perform, rfl⟩
  choose crew same using served
  exact ⟨crew, eq_of_handler? (funext same)⟩

/-- What holds of the registries of all crews holds of each registry that has been given built-in handlers only. -/
theorem exists_crew_of_replay {history : List (RegistryStep σ)} (builtIn : ∀ step ∈ history, step.BuiltIn) :
    ∃ crew : Crew σ, replay history = crew.registry :=
  (replay_builtIn builtIn).exists_crew

end Registry

end ContactRules
