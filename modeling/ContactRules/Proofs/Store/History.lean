/-
This file defines histories of stores and proves which rules a store lists after a history.
-/

import ContactRules.Store
import ContactRules.Proofs.Roster

namespace ContactRules

/-- A step of a history saves a rule or tries to delete one. -/
inductive StoreStep where
  | save (rule : Rule)
  | delete (id : Uuid)

/-- This is what a step leaves under an identifier, if it concerns the identifier at all. -/
def StoreStep.leaves? (id : Uuid) : StoreStep → Option (Option RuleState)
  | save rule => if rule.state.id = id then some (some rule.state) else none
  | delete removed => if removed = id then some none else none

/-- This is the state that was saved last under an identifier, unless it was deleted since. -/
def lastSaved (history : List StoreStep) (id : Uuid) : Option RuleState :=
  (history.reverse.findSome? (StoreStep.leaves? id)).join

/-- The last step of a history decides what is saved under the identifiers that it touches, and only under
these. -/
theorem lastSaved_append (history : List StoreStep) (step : StoreStep) (id : Uuid) :
    lastSaved (history ++ [step]) id = (step.leaves? id).getD (lastSaved history id) := by
  rw [lastSaved, List.reverse_concat, List.findSome?_cons]
  cases step.leaves? id <;> rfl

namespace Store

variable {store : Store} {history : List StoreStep}

/-- A rule that is saved is found under its identifier, and the other identifiers find what they found before. -/
theorem find?_save (store : Store) (rule : Rule) (id : Uuid) :
    (store.save rule).states.find? id =
      if rule.state.id = id then some rule.state else store.states.find? id :=
  Roster.find?_put store.states rule.state id

/-- A deletion that fails changes nothing. -/
theorem find?_delete (store : Store) (removed id : Uuid) :
    ((store.delete removed).toOption.getD store).states.find? id =
      if removed = id then none else store.states.find? id := by
  unfold delete
  cases has : store.states.has removed with
  | true =>
      refine (Roster.find?_remove store.states removed id).trans ?_
      simp only [eq_comm]
  | false =>
      have missing : store.states.find? removed = none := by simpa [Roster.has] using has
      by_cases same : removed = id
      · rw [if_pos same, ← same]
        exact missing
      · rw [if_neg same]
        rfl

def step (store : Store) : StoreStep → Store
  | .save rule => store.save rule
  | .delete id => (store.delete id).toOption.getD store

/-- A step changes what is found under its own identifier only. -/
theorem find?_step (store : Store) (step : StoreStep) (id : Uuid) :
    (store.step step).states.find? id = (step.leaves? id).getD (store.states.find? id) := by
  cases step with
  | save rule =>
      refine (store.find?_save rule id).trans ?_
      simp only [StoreStep.leaves?]
      split <;> rfl
  | delete removed =>
      refine (store.find?_delete removed id).trans ?_
      simp only [StoreStep.leaves?]
      split <;> rfl

/-- A history leads to a store, which may put its members into another order at any time. -/
inductive Reached : List StoreStep → Store → Prop
  | empty : Reached [] Store.empty
  | step {history : List StoreStep} {store : Store} (step : StoreStep) :
      Reached history store → Reached (history ++ [step]) (store.step step)
  | rearranged {history : List StoreStep} {store other : Store} :
      store.states.members.Perm other.states.members → Reached history store → Reached history other

/-- A store keeps the states that were saved last. -/
theorem Reached.find? (reached : Reached history store) (id : Uuid) :
    store.states.find? id = lastSaved history id := by
  induction reached with
  | empty => rfl
  | step step _ inductionHypothesis => rw [find?_step, lastSaved_append, inductionHypothesis]
  | rearranged sameMembers _ inductionHypothesis =>
      rw [← inductionHypothesis]
      exact (Roster.find?_of_perm sameMembers id).symm

/-- This replays a history on a store that is empty at first and keeps its order. -/
def replay (history : List StoreStep) : Store := history.foldl Store.step Store.empty

/-- A history reaches the store that results from replaying it. -/
theorem reached_replay (history : List StoreStep) : Reached history (replay history) := by
  have continued (steps before : List StoreStep) (store : Store) (reached : Reached before store) :
      Reached (before ++ steps) (steps.foldl Store.step store) := by
    induction steps generalizing before store with
    | nil => exact (List.append_nil before).symm ▸ reached
    | cons step steps inductionHypothesis =>
        have further := inductionHypothesis (before ++ [step]) _ (reached.step step)
        rwa [List.append_assoc] at further
  exact continued history [] Store.empty .empty

/-- A state is saved under its own identifier. -/
theorem Reached.id_of_lastSaved (reached : Reached history store) {id : Uuid} {saved : RuleState}
    (isSaved : lastSaved history id = some saved) : saved.id = id := by
  rw [← reached.find?] at isSaved
  exact Roster.identity_of_find? isSaved

/-- A list holds the rules that are found under their identifiers and pass its test. -/
theorem mem_list {keep : RuleState → Bool} {rule : Rule} :
    rule ∈ store.list keep ↔
      store.states.find? rule.state.id = some rule.state ∧ keep rule.state = true ∧
        rule = Rule.ofState rule.state := by
  simp only [list, List.mem_map, List.mem_mergeSort, List.mem_filter, Roster.find?_eq_some_iff]
  constructor
  · rintro ⟨state, ⟨isMember, kept⟩, rfl⟩
    exact ⟨⟨isMember, rfl⟩, kept, rfl⟩
  · rintro ⟨⟨isMember, _⟩, kept, same⟩
    exact ⟨rule.state, ⟨isMember, kept⟩, same.symm⟩

/-- A list names no rule twice. -/
theorem list_distinct (store : Store) (keep : RuleState → Bool) :
    ((store.list keep).map fun rule => rule.state.id).Nodup := by
  have sorted := List.mergeSort_perm (store.states.members.filter keep) comesBefore
  have distinct := (store.states.filter keep).distinct
  rw [list, List.map_map]
  exact ((sorted.map identity).nodup_iff).mpr distinct

/-- These are the enabled rules of a pipeline that listen to a trigger, in the order of the store. -/
def enabledListeners (store : Store) (pipeline : Uuid) (trigger : Trigger) : List Rule :=
  (store.listening pipeline trigger).filter fun rule => rule.state.enabled

/-- A trigger finds the rules that were saved last as enabled, for its pipeline and with this trigger. -/
theorem mem_enabledListeners (reached : Reached history store) {pipeline : Uuid} {trigger : Trigger}
    {rule : Rule} :
    rule ∈ store.enabledListeners pipeline trigger ↔
      ∃ saved, lastSaved history saved.id = some saved ∧ saved.enabled = true ∧
        saved.pipeline = some pipeline ∧ saved.trigger = trigger ∧ rule = Rule.ofState saved := by
  simp only [enabledListeners, listening, List.mem_filter, mem_list, Bool.and_eq_true,
    decide_eq_true_eq, reached.find?]
  constructor
  · rintro ⟨⟨isSaved, ⟨ofPipeline, onTrigger⟩, same⟩, enabled⟩
    exact ⟨rule.state, isSaved, enabled, ofPipeline, onTrigger, same⟩
  · rintro ⟨saved, isSaved, enabled, ofPipeline, onTrigger, rfl⟩
    exact ⟨⟨isSaved, ⟨ofPipeline, onTrigger⟩, rfl⟩, enabled⟩

/-- No rule is found twice by a trigger. -/
theorem enabledListeners_distinct (store : Store) (pipeline : Uuid) (trigger : Trigger) :
    ((store.enabledListeners pipeline trigger).map fun rule => rule.state.id).Nodup :=
  (store.list_distinct _).sublist (List.filter_sublist.map _)

/-- An identifier is listed when the state that was saved last under it is enabled and listens. -/
theorem mem_map_enabledListeners (reached : Reached history store) {pipeline : Uuid} {trigger : Trigger}
    {id : Uuid} :
    (id ∈ (store.enabledListeners pipeline trigger).map fun rule => rule.state.id) ↔
      ∃ saved, lastSaved history id = some saved ∧ saved.enabled = true ∧
        saved.pipeline = some pipeline ∧ saved.trigger = trigger := by
  rw [List.mem_map]
  constructor
  · rintro ⟨rule, isListener, rfl⟩
    obtain ⟨saved, isSaved, enabled, ofPipeline, onTrigger, rfl⟩ :=
      (mem_enabledListeners reached).mp isListener
    exact ⟨saved, isSaved, enabled, ofPipeline, onTrigger⟩
  · rintro ⟨saved, isSaved, enabled, ofPipeline, onTrigger⟩
    obtain rfl := reached.id_of_lastSaved isSaved
    exact ⟨Rule.ofState saved, (mem_enabledListeners reached).mpr
      ⟨saved, isSaved, enabled, ofPipeline, onTrigger, rfl⟩, rfl⟩

/-- The state that was saved last under an identifier says whether its rule is an enabled listener. -/
theorem find?_enabledListeners (reached : Reached history store) (pipeline : Uuid) (trigger : Trigger)
    (id : Uuid) :
    ((store.enabledListeners pipeline trigger).find? fun rule => rule.state.id = id) =
      ((lastSaved history id).filter fun saved =>
        saved.enabled && saved.pipeline = some pipeline && saved.trigger = trigger).map Rule.ofState := by
  cases found : (store.enabledListeners pipeline trigger).find? fun rule => rule.state.id = id with
  | some rule =>
      obtain ⟨saved, isSaved, enabled, ofPipeline, onTrigger, rfl⟩ :=
        (mem_enabledListeners reached).mp (List.mem_of_find?_eq_some found)
      have passed := List.find?_some found
      have named : saved.id = id := of_decide_eq_true passed
      have listens : (saved.enabled && decide (saved.pipeline = some pipeline) &&
          decide (saved.trigger = trigger)) = true := by
        rw [enabled, decide_eq_true ofPipeline, decide_eq_true onTrigger]
        rfl
      rw [← named, isSaved, Option.filter_some, if_pos listens, Option.map_some]
  | none =>
      rw [eq_comm, Option.map_eq_none_iff, Option.filter_eq_none_iff]
      intro saved isSaved listens
      simp only [Bool.and_eq_true, decide_eq_true_eq] at listens
      have named := reached.id_of_lastSaved isSaved
      have listed : Rule.ofState saved ∈ store.enabledListeners pipeline trigger :=
        (mem_enabledListeners reached).mpr
          ⟨saved, named.symm ▸ isSaved, listens.1.1, listens.1.2, listens.2, rfl⟩
      have notNamed := List.find?_eq_none.mp found _ listed
      exact notNamed (decide_eq_true named)

/-- A rule whose state was saved last is found among the enabled listeners of its own pipeline and trigger if it is
enabled, and only then. -/
theorem find?_saved_listener (reached : Reached history store) {saved : RuleState}
    (isSaved : lastSaved history saved.id = some saved) {pipeline : Uuid}
    (ofPipeline : saved.pipeline = some pipeline) :
    ((store.enabledListeners pipeline saved.trigger).find? fun rule => rule.state.id = saved.id) =
      if saved.enabled then some (Rule.ofState saved) else none := by
  rw [find?_enabledListeners reached, isSaved, Option.filter_some, ofPipeline, decide_eq_true rfl,
    decide_eq_true rfl, Bool.and_true, Bool.and_true]
  split <;> rfl

end Store

end ContactRules
