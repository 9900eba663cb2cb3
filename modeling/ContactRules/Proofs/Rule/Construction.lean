/-
This file proves which rules can be made, and that what is checked then holds for the life of a rule.
-/

import ContactRules.Proofs.Rule.Transfer
import ContactRules.Settings.Definition

namespace ContactRules

open ContactRules.Calendar
open ContactRules.Wire

/-- A charter is what a rule is made with and keeps for good. -/
structure RuleCharter where
  id : Uuid
  kind : RuleKind
  pipeline : Option Uuid
  tenant : String
  name : String
  trigger : Trigger
  createdAt : Instant

def RuleState.charter (state : RuleState) : RuleCharter :=
  ⟨state.id, state.kind, state.pipeline, state.tenant, state.name, state.trigger, state.createdAt⟩

namespace RuleCharter

variable {charter : RuleCharter}

def HasTenant (charter : RuleCharter) : Prop :=
  ∃ character ∈ charter.tenant.toList, Text.isBlank character = false

def HasName (charter : RuleCharter) : Prop :=
  ∃ character ∈ charter.name.toList, Text.isBlank character = false

/-- Some kinds of rules need a pipeline, and the nil identifier names none. -/
def HasPipeline (charter : RuleCharter) : Prop :=
  charter.kind ∈ [.pipelineAutomation, .followUp, .reengagement, .onboarding] →
    ∃ pipeline, charter.pipeline = some pipeline ∧ pipeline ≠ Uuid.nil

/-- A rule can be made with a charter that meets these requirements. -/
structure Sound (charter : RuleCharter) : Prop where
  tenant : charter.HasTenant
  name : charter.HasName
  pipeline : charter.HasPipeline

/-- This is the fault of the first requirement that a charter does not meet. -/
inductive FirstFault (charter : RuleCharter) : RuleError → Prop
  | tenant (missing : ¬ charter.HasTenant) : FirstFault charter .missingTenant
  | name (tenant : charter.HasTenant) (missing : ¬ charter.HasName) : FirstFault charter .missingName
  | pipeline (tenant : charter.HasTenant) (name : charter.HasName) (missing : ¬ charter.HasPipeline) :
      FirstFault charter (.pipelineRequired charter.kind)

/-- A charter that is sound has no fault. -/
theorem Sound.faultless (sound : charter.Sound) (error : RuleError) : ¬ charter.FirstFault error := by
  rintro (missing | ⟨_, missing⟩ | ⟨_, _, missing⟩)
  · exact missing sound.tenant
  · exact missing sound.name
  · exact missing sound.pipeline

/-- A charter has a fault unless it is sound. -/
theorem sound_or_firstFault (charter : RuleCharter) :
    charter.Sound ∨ ∃ error, charter.FirstFault error := by
  by_cases tenant : charter.HasTenant
  · by_cases name : charter.HasName
    · by_cases pipeline : charter.HasPipeline
      · exact Or.inl ⟨tenant, name, pipeline⟩
      · exact Or.inr ⟨_, .pipeline tenant name pipeline⟩
    · exact Or.inr ⟨_, .name tenant name⟩
  · exact Or.inr ⟨_, .tenant tenant⟩

/-- A tenant is blank when it has no character that is not. -/
theorem blank_tenant_iff (charter : RuleCharter) :
    Text.blank charter.tenant = true ↔ ¬ charter.HasTenant := by
  rw [HasTenant, ← Text.blank_eq_false_iff, Bool.not_eq_false]

/-- A name is blank when it has no character that is not. -/
theorem blank_name_iff (charter : RuleCharter) : Text.blank charter.name = true ↔ ¬ charter.HasName := by
  rw [HasName, ← Text.blank_eq_false_iff, Bool.not_eq_false]

/-- The kinds that need a pipeline are those that are scoped to one, and the nil identifier is not a name. -/
theorem pipeline_missing_iff (charter : RuleCharter) :
    (charter.kind.isPipelineScoped && !Rule.namesPipeline charter.pipeline) = true ↔
      ¬ charter.HasPipeline := by
  have needed : charter.kind.isPipelineScoped = true ↔
      charter.kind ∈ [.pipelineAutomation, .followUp, .reengagement, .onboarding] := by
    cases charter.kind <;> simp [RuleKind.isPipelineScoped]
  have named : Rule.namesPipeline charter.pipeline = true ↔
      ∃ pipeline, charter.pipeline = some pipeline ∧ pipeline ≠ Uuid.nil := by
    have isNil_iff (id : Uuid) : id.isNil = true ↔ id = Uuid.nil := by
      obtain ⟨bits⟩ := id
      simp [Uuid.isNil, Uuid.nil]
    cases charter.pipeline with
    | none => simp [Rule.namesPipeline]
    | some pipeline => simp [Rule.namesPipeline, ← isNil_iff]
  rw [HasPipeline, ← needed, ← named, Bool.and_eq_true, Bool.not_eq_true', Classical.not_imp,
    Bool.not_eq_true]

/-- The requirements are checked in their order, and the first one that is not met is told. -/
theorem check_eq_error_iff (charter : RuleCharter) (error : RuleError) :
    Rule.check charter.kind charter.pipeline charter.tenant charter.name = .error error ↔
      charter.FirstFault error := by
  classical
  unfold Rule.check
  simp only [blank_tenant_iff, blank_name_iff, pipeline_missing_iff]
  constructor
  · intro refused
    split at refused
    · rename_i missing
      cases refused
      exact .tenant missing
    · rename_i tenant
      split at refused
      · rename_i missing
        cases refused
        exact .name (Classical.not_not.mp tenant) missing
      · rename_i name
        split at refused
        · rename_i missing
          cases refused
          exact .pipeline (Classical.not_not.mp tenant) (Classical.not_not.mp name) missing
        · cases refused
  · rintro (missing | ⟨tenant, missing⟩ | ⟨tenant, name, missing⟩)
    · rw [if_pos missing]
    · rw [if_neg (not_not_intro tenant), if_pos missing]
    · rw [if_neg (not_not_intro tenant), if_neg (not_not_intro name), if_pos missing]

/-- A rule is made with a charter exactly when the charter is sound. Otherwise the first fault is told. -/
structure Founds (charter : RuleCharter) (made : Except RuleError Rule) : Prop where
  accepted : (∃ rule, made = .ok rule) ↔ charter.Sound
  refused : ∀ error, made = .error error ↔ charter.FirstFault error
  charter : ∀ rule, made = .ok rule → rule.state.charter = charter

/-- Whoever tells first faults and nothing else refuses no charter that is sound. -/
theorem Founds.of_refused {made : Except RuleError Rule}
    (refused : ∀ error, made = .error error ↔ charter.FirstFault error)
    (kept : ∀ rule, made = .ok rule → rule.state.charter = charter) : charter.Founds made where
  accepted := by
    cases made with
    | ok rule =>
        refine iff_of_true ⟨rule, rfl⟩ (charter.sound_or_firstFault.resolve_right ?_)
        rintro ⟨error, fault⟩
        cases (refused error).mpr fault
    | error error =>
        refine iff_of_false ?_ fun sound => sound.faultless error ((refused error).mp rfl)
        rintro ⟨rule, accepted⟩
        cases accepted
  refused := refused
  charter := kept

/-- A rule that has been made has a charter that is sound. -/
theorem Founds.sound {made : Except RuleError Rule} (founds : charter.Founds made) {rule : Rule}
    (isRule : made = .ok rule) : rule.state.charter.Sound := by
  rw [founds.charter rule isRule]
  exact founds.accepted.mp ⟨rule, isRule⟩

/-- A scheduled rule is made with a charter and a schedule. The schedule is looked at only when the charter is
sound. -/
structure FoundsScheduled (charter : RuleCharter) (schedule : Schedule)
    (made : Except DefinitionError ScheduledRule) : Prop where
  accepted : (∃ scheduled, made = .ok scheduled) ↔ charter.Sound ∧ schedule.validate = .ok ()
  refusedRule : ∀ error, made = .error (.rule error) ↔ charter.FirstFault error
  refusedSchedule : ∀ error,
    made = .error (.schedule error) ↔ charter.Sound ∧ schedule.validate = .error error
  charter : ∀ scheduled, made = .ok scheduled →
    scheduled.rule.state.charter = charter ∧ scheduled.schedule = schedule

/-- A scheduled rule that has been made has a charter that is sound. -/
theorem FoundsScheduled.sound {schedule : Schedule} {made : Except DefinitionError ScheduledRule}
    (founds : charter.FoundsScheduled schedule made) {scheduled : ScheduledRule}
    (isRule : made = .ok scheduled) : scheduled.rule.state.charter.Sound := by
  rw [(founds.charter scheduled isRule).1]
  exact (founds.accepted.mp ⟨scheduled, isRule⟩).1

end RuleCharter

/-- These are the fields of a rule that can be changed. -/
inductive RuleField where
  | conditions
  | actions
  | description
  | priority
  | enabled
deriving DecidableEq

/-- A step is for one field of a rule, or only for its events. -/
def RuleStep.field? : RuleStep → Option RuleField
  | setConditions _ _ => some .conditions
  | setActions _ _ => some .actions
  | setDescription _ _ => some .description
  | setPriority _ _ => some .priority
  | enable _ => some .enabled
  | disable _ => some .enabled
  | peek => none
  | drain => none

/-- Two states differ in one field and in the time of the change at most. -/
structure RuleState.SameBut (field? : Option RuleField) (before after : RuleState) : Prop where
  charter : after.charter = before.charter
  conditions : field? ≠ some .conditions → after.conditions = before.conditions
  actions : field? ≠ some .actions → after.actions = before.actions
  description : field? ≠ some .description → after.description = before.description
  priority : field? ≠ some .priority → after.priority = before.priority
  enabled : field? ≠ some .enabled → after.enabled = before.enabled
  updatedAt : field? = none → after.updatedAt = before.updatedAt

namespace RuleStep

/-- A step assigns to its own field only. -/
theorem assign_sameBut (state : RuleState) (step : RuleStep) :
    state.SameBut step.field? (step.assign state) := by
  cases step <;> constructor <;> simp [assign, field?, RuleState.charter]

/-- A step changes its own field at most, whether it alters something or not. -/
theorem next_sameBut (state : RuleState) (step : RuleStep) : state.SameBut step.field? (step.next state) := by
  cases alters : step.alters state with
  | true =>
      rw [next_of_altered alters]
      exact assign_sameBut state step
  | false =>
      rw [next_of_unaltered alters]
      exact ⟨rfl, fun _ => rfl, fun _ => rfl, fun _ => rfl, fun _ => rfl, fun _ => rfl, fun _ => rfl⟩

/-- No step changes what a rule was made with. -/
theorem foldl_next_charter (state : RuleState) (steps : List RuleStep) :
    (steps.foldl next state).charter = state.charter := by
  induction steps generalizing state with
  | nil => rfl
  | cons step steps inductionHypothesis =>
      rw [List.foldl_cons, inductionHypothesis, (next_sameBut state step).charter]

end RuleStep

/-- A rule has the charter that it was made with, although an import takes steps of its own. -/
theorem RuleOrigin.charter_of_rule (origin : RuleOrigin) {rule : Rule} (isRule : origin.rule = .ok rule) :
    rule.state.charter = origin.start.charter := by
  rw [(rule_events isRule).1, RuleStep.foldl_next_charter]

namespace Rule

/-- Nothing but the check refuses to create a rule. -/
theorem create_eq_error_iff {id : Uuid} {stamp : Stamp} {kind : RuleKind} {pipeline : Option Uuid}
    {tenant name : String} {trigger : Trigger} {error : RuleError} :
    create id stamp kind pipeline tenant name trigger = .error error ↔
      check kind pipeline tenant name = .error error := by
  unfold create
  refine bind_eq_error.trans (or_iff_left ?_)
  rintro ⟨_, _, refused⟩
  cases refused

/-- A rule is created with each charter that is sound, and with no other one. -/
theorem create_founds (id : Uuid) (stamp : Stamp) (kind : RuleKind) (pipeline : Option Uuid)
    (tenant name : String) (trigger : Trigger) :
    (RuleCharter.mk id kind pipeline tenant name trigger stamp.now).Founds
      (create id stamp kind pipeline tenant name trigger) := by
  refine .of_refused (fun error => ?_) fun rule created => ?_
  · rw [create_eq_error_iff, ← RuleCharter.check_eq_error_iff]
  · exact RuleOrigin.charter_of_rule (.created id stamp kind pipeline tenant name trigger) created

end Rule

/-- A document founds a rule just as its creation does. -/
theorem RuleDocument.toRule_founds (document : RuleDocument) (id : Uuid) (stamp : Stamp) (kind : RuleKind)
    (pipeline : Option Uuid) (tenant : String) :
    (RuleCharter.mk id kind pipeline tenant document.name document.trigger stamp.now).Founds
      (document.toRule id stamp kind pipeline tenant) := by
  refine .of_refused (fun error => ?_) fun rule made => ?_
  · rw [toRule_eq_error_iff]
    exact (Rule.create_founds id stamp kind pipeline tenant document.name document.trigger).refused error
  · exact RuleOrigin.charter_of_rule (.imported document id stamp kind pipeline tenant) made

namespace ScheduledRule

variable {rule : Rule} {schedule : Schedule} {now : Instant}

/-- A rule is scheduled when its schedule is valid. It has not been fired yet. -/
theorem create_eq_ok {scheduled : ScheduledRule} :
    create rule schedule now = .ok scheduled ↔
      schedule.validate = .ok () ∧ scheduled = ⟨rule, schedule, none, schedule.next? now⟩ := by
  unfold create
  refine bind_eq_ok.trans ⟨?_, ?_⟩
  · rintro ⟨_, valid, made⟩
    cases made
    exact ⟨valid, rfl⟩
  · rintro ⟨valid, rfl⟩
    exact ⟨(), valid, rfl⟩

/-- A rule is not scheduled when its schedule is refused, and for no other reason. -/
theorem create_eq_error {error : ScheduleError} :
    create rule schedule now = .error error ↔ schedule.validate = .error error := by
  unfold create
  refine bind_eq_error.trans (or_iff_left ?_)
  rintro ⟨_, _, refused⟩
  cases refused

end ScheduledRule

namespace RuleDefinition

variable {definition : RuleDefinition} {id : Uuid} {stamp : Stamp} {now : Instant}

/-- A definition is built by making its rule and then scheduling it. -/
theorem build_eq_ok {scheduled : ScheduledRule} :
    definition.build id stamp now = .ok scheduled ↔
      ∃ rule, definition.rule.toRule id stamp definition.kind definition.pipeline definition.tenant =
        .ok rule ∧ ScheduledRule.create rule definition.schedule now = .ok scheduled := by
  simp only [build, bind_eq_ok, mapError_eq_ok]

/-- A definition is refused with the fault of its rule, or else with that of its schedule. -/
theorem build_eq_error {error : DefinitionError} :
    definition.build id stamp now = .error error ↔
      (∃ cause, definition.rule.toRule id stamp definition.kind definition.pipeline definition.tenant =
        .error cause ∧ .rule cause = error) ∨
      ∃ rule, definition.rule.toRule id stamp definition.kind definition.pipeline definition.tenant =
        .ok rule ∧ ∃ cause, definition.schedule.validate = .error cause ∧ .schedule cause = error := by
  simp only [build, bind_eq_error, mapError_eq_error, mapError_eq_ok, ScheduledRule.create_eq_error]

/-- A definition founds its rule, and is refused for its schedule only when the charter is sound. -/
theorem build_founds (definition : RuleDefinition) (id : Uuid) (stamp : Stamp) (now : Instant) :
    (RuleCharter.mk id definition.kind definition.pipeline definition.tenant definition.rule.name
      definition.rule.trigger stamp.now).FoundsScheduled definition.schedule
        (definition.build id stamp now) := by
  have founds := definition.rule.toRule_founds id stamp definition.kind definition.pipeline definition.tenant
  refine ⟨?_, fun error => ?_, fun error => ?_, fun scheduled isBuilt => ?_⟩
  · simp only [build_eq_ok, ScheduledRule.create_eq_ok, ← founds.accepted]
    exact ⟨fun ⟨_, rule, made, valid, _⟩ => ⟨⟨rule, made⟩, valid⟩,
      fun ⟨⟨rule, made⟩, valid⟩ => ⟨_, rule, made, valid, rfl⟩⟩
  · simp only [build_eq_error, ← founds.refused, DefinitionError.rule.injEq, exists_eq_right, reduceCtorEq,
      and_false, exists_false, or_false]
  · simp only [build_eq_error, ← founds.accepted, DefinitionError.schedule.injEq, exists_eq_right,
      reduceCtorEq, and_false, exists_false, false_or, exists_and_right]
  · obtain ⟨rule, made, created⟩ := build_eq_ok.mp isBuilt
    obtain ⟨_, rfl⟩ := ScheduledRule.create_eq_ok.mp created
    exact ⟨founds.charter rule made, rfl⟩

end RuleDefinition

namespace Rule

/-- A rule may be created, made of a document or made of a definition. -/
inductive Made : Rule → Prop
  | created {id : Uuid} {stamp : Stamp} {kind : RuleKind} {pipeline : Option Uuid} {tenant name : String}
      {trigger : Trigger} {rule : Rule} :
      create id stamp kind pipeline tenant name trigger = .ok rule → Made rule
  | imported {document : RuleDocument} {id : Uuid} {stamp : Stamp} {kind : RuleKind}
      {pipeline : Option Uuid} {tenant : String} {rule : Rule} :
      document.toRule id stamp kind pipeline tenant = .ok rule → Made rule
  | defined {definition : RuleDefinition} {id : Uuid} {stamp : Stamp} {now : Instant}
      {scheduled : ScheduledRule} :
      definition.build id stamp now = .ok scheduled → Made scheduled.rule

/-- In whatever way a rule is made, its charter is sound. -/
theorem Made.sound {rule : Rule} (made : rule.Made) : rule.state.charter.Sound := by
  cases made with
  | created isRule => exact (create_founds _ _ _ _ _ _ _).sound isRule
  | imported isRule => exact (RuleDocument.toRule_founds _ _ _ _ _ _).sound isRule
  | defined isBuilt => exact (RuleDefinition.build_founds _ _ _ _).sound isBuilt

/-- No history changes what a rule was made with. -/
theorem replay_charter (rule : Rule) (steps : List RuleStep) :
    (rule.replay steps).2.state.charter = rule.state.charter := by
  rw [replay_state, RuleStep.foldl_next_charter]

/-- A rule can be made, in any of the three ways, exactly when its tenant and its name are not blank and its
pipeline is named if its kind needs one. Otherwise the first of these faults is told, and the schedule of a
definition is looked at only when there is none. No later step changes what was checked or anything else that a
rule is made with: a step changes its own field and the time of the change at most, and tells of it. -/
theorem charter_holds_for_life :
    (∀ (id : Uuid) (stamp : Stamp) (kind : RuleKind) (pipeline : Option Uuid) (tenant name : String)
      (trigger : Trigger),
      (RuleCharter.mk id kind pipeline tenant name trigger stamp.now).Founds
        (create id stamp kind pipeline tenant name trigger)) ∧
    (∀ (document : RuleDocument) (id : Uuid) (stamp : Stamp) (kind : RuleKind) (pipeline : Option Uuid)
      (tenant : String),
      (RuleCharter.mk id kind pipeline tenant document.name document.trigger stamp.now).Founds
        (document.toRule id stamp kind pipeline tenant)) ∧
    (∀ (definition : RuleDefinition) (id : Uuid) (stamp : Stamp) (now : Instant),
      (RuleCharter.mk id definition.kind definition.pipeline definition.tenant definition.rule.name
        definition.rule.trigger stamp.now).FoundsScheduled definition.schedule
          (definition.build id stamp now)) ∧
    (∀ rule : Rule, rule.Made → ∀ steps,
      (rule.replay steps).2.state.charter = rule.state.charter ∧
        (rule.replay steps).2.state.charter.Sound) ∧
    ∀ (rule : Rule) (step : RuleStep),
      rule.state.SameBut step.field? (rule.step step).2.state ∧
        (rule.step step).2.state = (if step.alters rule.state then step.assign rule.state else rule.state) ∧
        (rule.step step).1 ++ (rule.step step).2.pendingEvents =
          rule.pendingEvents ++ (step.event? rule.state).toList := by
  refine ⟨create_founds, RuleDocument.toRule_founds, RuleDefinition.build_founds, fun rule made steps => ?_,
    fun rule step => ⟨?_, rule.step_state step, rule.step_events step⟩⟩
  · rw [replay_charter]
    exact ⟨rfl, made.sound⟩
  · rw [step_state]
    exact RuleStep.next_sameBut rule.state step

/-- This definition is of a kind that needs a pipeline. -/
def followUpDefinition : RuleDefinition :=
  ⟨"tenant", some ⟨9⟩, .followUp, ⟨"rule", "about", .scheduled, [], [], 3⟩, .daily 9 30⟩

/-- The rule of the definition is given another priority and is disabled. It still has its charter, and the
requirements of its kind are met. -/
theorem followUpDefinition_keeps_charter :
    ∃ scheduled, followUpDefinition.build ⟨1⟩ ⟨⟨0⟩, .epoch⟩ .epoch = .ok scheduled ∧
      let later := (scheduled.rule.replay [.setPriority 5 ⟨⟨5⟩, .epoch⟩, .drain, .disable ⟨⟨6⟩, .epoch⟩]).2
      later.state.charter = ⟨⟨1⟩, .followUp, some ⟨9⟩, "tenant", "rule", .scheduled, .epoch⟩ ∧
        later.state.charter.Sound ∧ later.state.enabled = false := by
  obtain ⟨_, _, definitions, lives, _⟩ := charter_holds_for_life
  obtain ⟨scheduled, isBuilt⟩ :
      ∃ scheduled, followUpDefinition.build ⟨1⟩ ⟨⟨0⟩, .epoch⟩ .epoch = .ok scheduled := ⟨_, rfl⟩
  obtain ⟨kept, sound⟩ := lives scheduled.rule (.defined isBuilt)
    [.setPriority 5 ⟨⟨5⟩, .epoch⟩, .drain, .disable ⟨⟨6⟩, .epoch⟩]
  refine ⟨scheduled, isBuilt, ?_, sound, ?_⟩
  · rw [kept]
    exact ((definitions followUpDefinition ⟨1⟩ ⟨⟨0⟩, .epoch⟩ .epoch).charter scheduled isBuilt).1
  · cases isBuilt
    rfl

end Rule

end ContactRules
