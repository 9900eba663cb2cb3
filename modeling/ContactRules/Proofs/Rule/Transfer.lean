/-
This file proves that rules survive their travel in documents.
-/

import ContactRules.Proofs.Rule.Coding
import ContactRules.Proofs.Rule.Events

namespace ContactRules

open ContactRules.Json
open ContactRules.Wire

namespace Rule

/-- Some rule can be created with this kind, this pipeline and this tenant. -/
def Accepts (kind : RuleKind) (pipeline : Option Uuid) (tenant : String) : Prop :=
  ∃ id stamp name trigger rule, create id stamp kind pipeline tenant name trigger = .ok rule

section Creation

variable {kind : RuleKind} {pipeline : Option Uuid} {tenant : String}

/-- The name is checked apart from the kind, the pipeline and the tenant. -/
theorem check_of_accepts (accepts : Accepts kind pipeline tenant) {name : String}
    (named : Text.blank name = false) : check kind pipeline tenant name = .ok () := by
  obtain ⟨id, stamp, other, trigger, rule, created⟩ := accepts
  obtain ⟨_, checked, _⟩ := bind_eq_ok.mp created
  unfold check at checked ⊢
  split at checked
  · cases checked
  · split at checked
    · cases checked
    · rename_i tenantNamed _
      rw [if_neg tenantNamed, if_neg (by simp [named])]
      exact checked

/-- A rule is created where it is accepted and its name is not blank. -/
theorem create_of_accepts (accepts : Accepts kind pipeline tenant) {name : String}
    (named : Text.blank name = false) (id : Uuid) (stamp : Stamp) (trigger : Trigger) :
    create id stamp kind pipeline tenant name trigger =
      .ok ⟨RuleState.blank id stamp kind pipeline tenant name trigger,
        ⟨[(RuleChange.created kind pipeline name trigger).toEvent stamp id tenant]⟩⟩ := by
  rw [create, check_of_accepts accepts named]
  rfl

end Creation

section Setters

variable {rule : Rule} {stamp : Stamp}

/-- A setter brings a new state and tells of it, unless there is nothing to set. -/
theorem change_unless {state : RuleState} {change : RuleChange} {isSame isUnset : Prop} [Decidable isSame]
    [Decidable isUnset] (equivalent : isSame ↔ isUnset) (same : isUnset → state = rule.state)
    (current : rule.state.updatedAt = stamp.now) :
    (if isSame then rule else rule.change stamp state change) =
      ⟨{ state with updatedAt := stamp.now }, ⟨rule.events.pending ++
        if isUnset then [] else [change.toEvent stamp state.id state.tenant]⟩⟩ := by
  by_cases unset : isUnset
  · rw [if_pos (equivalent.mpr unset), if_pos unset, same unset, List.append_nil, ← current]
  · rw [if_neg (mt equivalent.mp unset), if_neg unset]
    rfl

/-- The first description of a rule is noted, unless it is empty. -/
theorem setDescription_first (unset : rule.state.description = "")
    (current : rule.state.updatedAt = stamp.now) (description : String) :
    rule.setDescription description stamp =
      ⟨{ rule.state with description, updatedAt := stamp.now }, ⟨rule.events.pending ++
        if description = "" then []
        else [RuleChange.descriptionUpdated.toEvent stamp rule.state.id rule.state.tenant]⟩⟩ := by
  have equivalent : rule.state.description = description ↔ description = "" := by rw [unset, eq_comm]
  exact change_unless equivalent (fun same => by rw [same, ← unset]) current

/-- The first conditions of a rule are noted, unless there are none. -/
theorem setConditions_first (unset : rule.state.conditions = []) (current : rule.state.updatedAt = stamp.now)
    (conditions : List Condition) :
    rule.setConditions conditions stamp =
      ⟨{ rule.state with conditions, updatedAt := stamp.now }, ⟨rule.events.pending ++
        if conditions = [] then []
        else [(RuleChange.conditionsUpdated conditions.length).toEvent stamp rule.state.id
          rule.state.tenant]⟩⟩ := by
  have equivalent : Condition.sameList rule.state.conditions conditions = true ↔ conditions = [] := by
    rw [unset]
    cases conditions <;> simp [Condition.sameList]
  exact change_unless equivalent (fun same => by rw [same, ← unset]) current

/-- The first actions of a rule are noted, unless there are none. -/
theorem setActions_first (unset : rule.state.actions = []) (current : rule.state.updatedAt = stamp.now)
    (actions : List Action) :
    rule.setActions actions stamp =
      ⟨{ rule.state with actions, updatedAt := stamp.now }, ⟨rule.events.pending ++
        if actions = [] then []
        else [(RuleChange.actionsUpdated actions.length).toEvent stamp rule.state.id
          rule.state.tenant]⟩⟩ := by
  have equivalent : Action.sameList rule.state.actions actions = true ↔ actions = [] := by
    rw [unset]
    cases actions <;> simp [Action.sameList]
  exact change_unless equivalent (fun same => by rw [same, ← unset]) current

/-- The first priority of a rule is noted, unless it is zero. -/
theorem setPriority_first (unset : rule.state.priority = 0) (current : rule.state.updatedAt = stamp.now)
    (priority : UInt32) :
    rule.setPriority priority stamp =
      ⟨{ rule.state with priority, updatedAt := stamp.now }, ⟨rule.events.pending ++
        if priority = 0 then []
        else [(RuleChange.priorityChanged 0 priority).toEvent stamp rule.state.id rule.state.tenant]⟩⟩ := by
  have equivalent : rule.state.priority = priority ↔ priority = 0 := by rw [unset, eq_comm]
  rw [← unset]
  exact change_unless (unset ▸ equivalent) (fun same => by rw [same]) current

end Setters

end Rule

namespace RuleDocument

variable (document : RuleDocument) (id : Uuid) (stamp : Stamp) (kind : RuleKind) (pipeline : Option Uuid)
  (tenant : String)

/-- This is the state of the rule that is made of a document. -/
def importedState : RuleState :=
  ⟨id, kind, pipeline, tenant, document.name, document.description, document.trigger, document.conditions,
    document.actions, document.priority, true, stamp.now, stamp.now⟩

/-- These are its events: first the creation, then one for each part of the document that says something. -/
def importedEvents : List Event :=
  (RuleChange.created kind pipeline document.name document.trigger).toEvent stamp id tenant ::
    (if document.description = "" then []
      else [RuleChange.descriptionUpdated.toEvent (stamp.later 1) id tenant]) ++
    (if document.conditions = [] then []
      else [(RuleChange.conditionsUpdated document.conditions.length).toEvent (stamp.later 2) id tenant]) ++
    (if document.actions = [] then []
      else [(RuleChange.actionsUpdated document.actions.length).toEvent (stamp.later 3) id tenant]) ++
    (if document.priority = 0 then []
      else [(RuleChange.priorityChanged 0 document.priority).toEvent (stamp.later 4) id tenant])

/-- The parts of a document are set one after the other, each at the time of the creation. -/
theorem toRule_of_accepts (accepts : Rule.Accepts kind pipeline tenant)
    (named : Text.blank document.name = false) :
    document.toRule id stamp kind pipeline tenant =
      .ok ⟨document.importedState id stamp kind pipeline tenant,
        ⟨document.importedEvents id stamp kind pipeline tenant⟩⟩ := by
  have created := Rule.create_of_accepts accepts named id stamp document.trigger
  rw [toRule, created]
  refine congrArg Except.ok ?_
  rw [Rule.setDescription_first, Rule.setConditions_first, Rule.setActions_first, Rule.setPriority_first]
  all_goals rfl

/-- A document is refused for what the creation of its rule is refused for, and for nothing else. -/
theorem toRule_eq_error_iff (error : RuleError) :
    document.toRule id stamp kind pipeline tenant = .error error ↔
      Rule.create id stamp kind pipeline tenant document.name document.trigger = .error error := by
  rw [toRule]
  cases Rule.create id stamp kind pipeline tenant document.name document.trigger with
  | error other => rfl
  | ok rule =>
      constructor <;> intro refused
      · cases refused
      · cases refused

end RuleDocument

namespace Rule

/-- A rule that is written into a document can be made again for anyone for whom rules can be created at all.
The copy says the same, judges facts in the same way, belongs to whom it was made for and is enabled, and its
events tell of its creation and of each part that says something. An import is refused exactly when the
creation of the rule is, and for the same reason. -/
theorem transfer_preserves :
    (∀ (rule : Rule) (id : Uuid) (stamp : Stamp) (kind : RuleKind) (pipeline : Option Uuid) (tenant : String),
      Text.blank rule.state.name = false → (∀ condition ∈ rule.state.conditions, condition.Named) →
      Accepts kind pipeline tenant →
      ∃ document copy, decodeValue RuleDocument.decoder rule.toDocument.encode = .ok document ∧
        document.toRule id stamp kind pipeline tenant = .ok copy ∧
        copy.toDocument = rule.toDocument ∧
        (∀ facts, copy.conditionsHold facts = rule.conditionsHold facts) ∧
        (copy.state.kind = kind ∧ copy.state.pipeline = pipeline ∧ copy.state.tenant = tenant) ∧
        copy.state.enabled = true ∧
        copy.pendingEvents = rule.toDocument.importedEvents id stamp kind pipeline tenant) ∧
    ∀ (document : RuleDocument) (id : Uuid) (stamp : Stamp) (kind : RuleKind) (pipeline : Option Uuid)
      (tenant : String) (error : RuleError),
      document.toRule id stamp kind pipeline tenant = .error error ↔
        create id stamp kind pipeline tenant document.name document.trigger = .error error := by
  refine ⟨fun rule id stamp kind pipeline tenant hasName named accepts => ?_,
    RuleDocument.toRule_eq_error_iff⟩
  have decoded := RuleDocument.decode_encode (show rule.toDocument.Named from named)
  have made := rule.toDocument.toRule_of_accepts id stamp kind pipeline tenant accepts hasName
  exact ⟨_, _, decoded, made, rfl, fun _ => rfl, ⟨rfl, rfl, rfl⟩, rfl, rfl⟩

/-- This rule is disabled. It has a condition, whose operator has two names, and an action. -/
def disabledRule : Rule :=
  ofState ⟨⟨1⟩, .custom, none, "tenant", "rule", "", .tagAdded, [⟨"stage", Operator.ofName "equals", .null⟩],
    [Action.ofKind .addTag], 0, false, .epoch, .epoch⟩

/-- The copy belongs to a pipeline of another tenant. -/
theorem disabledRule_copy :
    ∃ document copy, decodeValue RuleDocument.decoder disabledRule.toDocument.encode = .ok document ∧
      document.toRule ⟨2⟩ ⟨⟨0⟩, .epoch⟩ .followUp (some ⟨9⟩) "other" = .ok copy ∧
      copy.toDocument = disabledRule.toDocument ∧ copy.state.enabled = true ∧
      copy.pendingEvents.map Event.type =
        ["automation.created", "automation.conditions_updated", "automation.actions_updated"] := by
  have accepts : Accepts .followUp (some ⟨9⟩) "other" :=
    ⟨⟨0⟩, ⟨⟨0⟩, .epoch⟩, "name", .tagAdded, _, rfl⟩
  have named : ∀ condition ∈ disabledRule.state.conditions, condition.Named := by
    intro condition member
    obtain rfl := List.mem_singleton.mp member
    exact ⟨"equals", rfl⟩
  obtain ⟨document, copy, decoded, made, same, _, _, enabled, events⟩ :=
    transfer_preserves.1 disabledRule ⟨2⟩ ⟨⟨0⟩, .epoch⟩ .followUp (some ⟨9⟩) "other" (by decide) named
      accepts
  exact ⟨document, copy, decoded, made, same, enabled, congrArg (List.map Event.type) events⟩

end Rule

end ContactRules
