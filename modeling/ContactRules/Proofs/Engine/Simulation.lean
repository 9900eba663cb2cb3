/-
This file proves that two engines run alike when their attempts do.
-/

import ContactRules.Proofs.Engine.Progress
import ContactRules.Proofs.Runner.Marking

namespace ContactRules

open ContactRules.Calendar

variable {σ τ α : Type}

/-- Two results are alike when they differ in the states only, and the states are related. -/
def Alike (related : σ → τ → Prop) (first : α × σ) (second : α × τ) : Prop :=
  first.1 = second.1 ∧ related first.2 second.2

namespace Engine

variable {first : Engine σ} {second : Engine τ} {related : σ → τ → Prop}

/-- From related states both engines answer an action alike. -/
def Follows (first : Engine σ) (second : Engine τ) (related : σ → τ → Prop) (context : Context)
    (action : Action) : Prop :=
  ∀ before after, related before after →
    Alike related (first.attempt action context before) (second.attempt action context after)

/-- Both engines answer alike to all actions that a run has left. -/
def Progress.Followed (first : Engine σ) (second : Engine τ) (related : σ → τ → Prop) : Progress → Prop
  | running _ context _ _ rest => ∀ action ∈ rest, first.Follows second related context action
  | finished _ => True

/-- Engines that answer alike give one answer, and their states stay related. -/
theorem Follows.exists_answer {context : Context} {action : Action}
    (follows : first.Follows second related context action) {before : σ} {after : τ}
    (start : related before after) :
    ∃ answer next otherNext, first.attempt action context before = (answer, next) ∧
      second.attempt action context after = (answer, otherNext) ∧ related next otherNext := by
  obtain ⟨same, kept⟩ := follows before after start
  exact ⟨_, _, (second.attempt action context after).2, rfl, Prod.ext same.symm rfl, kept⟩

/-- Engines answer alike to an action that is performed at once when they perform it alike. -/
theorem follows_of_perform {context : Context} {action : Action} (prompt : action.isDelayed = false)
    (alike : ∀ before after, related before after →
      Alike related (first.perform action context before) (second.perform action context after)) :
    first.Follows second related context action := by
  intro before after start
  obtain ⟨same, kept⟩ := alike before after start
  simp only [attempt, prompt, Bool.false_eq_true, if_false, same]
  exact ⟨rfl, kept⟩

/-- Actions are run alike when each of them is answered alike, since the first failure comes at the same place. -/
theorem runActions_alike {context : Context} {actions : List Action}
    (follows : ∀ action ∈ actions, first.Follows second related context action) (index : Nat)
    (tally : Tally) {before : σ} {after : τ} (start : related before after) :
    Alike related (first.runActions context index tally actions before)
      (second.runActions context index tally actions after) := by
  induction actions generalizing index tally before after with
  | nil => exact ⟨rfl, start⟩
  | cons action rest inductionHypothesis =>
      obtain ⟨here, below⟩ := List.forall_mem_cons.mp follows
      obtain ⟨⟨error⟩ | ⟨⟩, next, otherNext, one, other, kept⟩ := here.exists_answer start
      · rw [runActions_cons_error one, runActions_cons_error other]
        exact ⟨rfl, kept⟩
      · rw [runActions_cons_ok one, runActions_cons_ok other]
        exact inductionHypothesis below _ _ kept

section Runs

variable {run : Progress} {before : σ} {after : τ}

/-- What is left of a run goes alike. -/
theorem finish_alike (followed : run.Followed first second related) (start : related before after) :
    Alike related (first.finish run before) (second.finish run after) := by
  cases run with
  | finished outcome => exact ⟨rfl, start⟩
  | running rule context index tally rest =>
      obtain ⟨same, kept⟩ := runActions_alike followed index tally start
      simp only [finish, same]
      exact ⟨rfl, kept⟩

/-- A turn goes alike, and leaves actions that both engines answer alike. -/
theorem advance_alike (followed : run.Followed first second related) (start : related before after) :
    Alike related (first.advance run before) (second.advance run after) ∧
      (first.advance run before).1.Followed first second related := by
  cases run with
  | finished outcome => exact ⟨⟨rfl, start⟩, trivial⟩
  | running rule context index tally rest =>
      cases rest with
      | nil => exact ⟨⟨rfl, start⟩, trivial⟩
      | cons action rest =>
          obtain ⟨here, below⟩ := List.forall_mem_cons.mp followed
          obtain ⟨⟨error⟩ | ⟨⟩, next, otherNext, one, other, kept⟩ := here.exists_answer start
          · simp only [advance, one, other]
            exact ⟨⟨rfl, kept⟩, trivial⟩
          · simp only [advance, one, other]
            exact ⟨⟨rfl, kept⟩, below⟩

end Runs

/-- Turns go alike, and leave runs that both engines go on with alike. -/
theorem takeTurns_alike (turns : List Nat) {runs : List Progress}
    (followed : ∀ run ∈ runs, run.Followed first second related) {before : σ} {after : τ}
    (start : related before after) :
    Alike related (first.takeTurns turns runs before) (second.takeTurns turns runs after) ∧
      ∀ run ∈ (first.takeTurns turns runs before).1, run.Followed first second related := by
  induction turns generalizing runs before after with
  | nil => exact ⟨⟨rfl, start⟩, followed⟩
  | cons turn turns inductionHypothesis =>
      simp only [takeTurns]
      cases found : runs[turn]? with
      | none => exact inductionHypothesis followed start
      | some run =>
          obtain ⟨⟨same, kept⟩, left⟩ := advance_alike (followed run (List.mem_of_getElem? found)) start
          simp only [← same]
          refine inductionHypothesis (fun other isRun => ?_) kept
          rcases List.mem_or_eq_of_mem_set isRun with untouched | rfl
          · exact followed other untouched
          · exact left

/-- Runs that are finished one after the other are finished alike. -/
theorem finishAll_alike {runs : List Progress}
    (followed : ∀ run ∈ runs, run.Followed first second related) {before : σ} {after : τ}
    (start : related before after) :
    Alike related (first.finishAll runs before) (second.finishAll runs after) := by
  induction runs generalizing before after with
  | nil => exact ⟨rfl, start⟩
  | cons run rest inductionHypothesis =>
      obtain ⟨here, below⟩ := List.forall_mem_cons.mp followed
      obtain ⟨sameOutcome, between⟩ := finish_alike here start
      obtain ⟨sameOutcomes, kept⟩ := inductionHypothesis below between
      simp only [finishAll, sameOutcome, sameOutcomes]
      exact ⟨rfl, kept⟩

/-- Both engines answer alike to the actions of a rule, in the context that the rule stamps. -/
def FollowsRule (first : Engine σ) (second : Engine τ) (related : σ → τ → Prop) (context : Context)
    (rule : Rule) : Prop :=
  ∀ action ∈ rule.state.actions, first.Follows second related (rule.stamp context) action

/-- A run that begins has the actions of its rule left, or none. -/
theorem FollowsRule.begin {context : Context} {rule : Rule}
    (follows : first.FollowsRule second related context rule) (facts : Facts) :
    (begin facts context rule).Followed first second related := by
  unfold Engine.begin
  split
  · exact follows
  · trivial

/-- A rule runs alike when its actions are answered alike in the context that it stamps. -/
theorem runRule_alike {context : Context} {rule : Rule}
    (follows : first.FollowsRule second related context rule) (facts : Facts) {before : σ} {after : τ}
    (start : related before after) :
    Alike related (first.runRule facts context rule before) (second.runRule facts context rule after) := by
  rw [← finish_begin, ← finish_begin]
  exact finish_alike (follows.begin facts) start

/-- Rules that run together do so alike in any turns. -/
theorem runTogether_alike (turns : List Nat) {context : Context} {rules : List Rule}
    (follows : ∀ rule ∈ rules, first.FollowsRule second related context rule) (facts : Facts)
    {before : σ} {after : τ} (start : related before after) :
    Alike related (first.runTogether turns facts context rules before)
      (second.runTogether turns facts context rules after) := by
  have followed : ∀ run ∈ rules.map (begin facts context), run.Followed first second related := by
    rw [List.forall_mem_map]
    exact fun rule isRule => (follows rule isRule).begin facts
  obtain ⟨⟨same, between⟩, left⟩ := takeTurns_alike turns followed start
  simp only [runTogether, ← same]
  exact finishAll_alike left between

/-- Engines that answer alike to the enabled rules of a trigger run the trigger alike. -/
theorem runTrigger_alike (sameMode : first.mode = second.mode) {source : RuleSource} {pipeline : Uuid}
    {trigger : Trigger} {context : Context}
    (follows : ∀ rules, source.listening pipeline trigger = .ok rules → ∀ rule ∈ rules,
      rule.state.enabled = true → first.FollowsRule second related context rule)
    (facts : Facts) {before : σ} {after : τ} (start : related before after) :
    Alike related (first.runTrigger source pipeline trigger facts context before)
      (second.runTrigger source pipeline trigger facts context after) := by
  cases listed : source.listening pipeline trigger with
  | error error =>
      simp only [runTrigger, listed]
      exact ⟨rfl, start⟩
  | ok rules =>
      have sameTurns : first.turns = second.turns := by rw [turns, turns, sameMode]
      have enabledFollow : ∀ rule ∈ rules.filter fun rule => rule.state.enabled,
          first.FollowsRule second related context rule := by
        intro rule isEnabled
        obtain ⟨member, enabled⟩ := List.mem_filter.mp isEnabled
        exact follows rules listed rule member enabled
      obtain ⟨same, kept⟩ := runTogether_alike second.turns enabledFollow facts start
      simp only [runTrigger_listening _ listed, sameTurns, same]
      exact ⟨rfl, kept⟩

/-- A rule that is asked for runs alike, and so does a request that is refused. -/
theorem runById_alike {source : RuleSource} {id : Uuid} {context : Context}
    (follows : ∀ rule, source.find id = .ok rule → rule.state.enabled = true →
      first.FollowsRule second related context rule)
    (facts : Facts) {before : σ} {after : τ} (start : related before after) :
    Alike related (first.runById source id facts context before)
      (second.runById source id facts context after) := by
  cases found : source.find id with
  | error error =>
      simp only [runById, found]
      exact ⟨rfl, start⟩
  | ok rule =>
      by_cases enabled : rule.state.enabled
      · obtain ⟨same, kept⟩ := runRule_alike (follows rule found enabled) facts start
        simp only [runById, found, enabled, if_true, same]
        exact ⟨rfl, kept⟩
      · simp only [runById, found, enabled]
        exact ⟨rfl, start⟩

end Engine

namespace Runner

variable {first : Engine σ} {second : Engine τ} {related : σ → τ → Prop}

/-- Scheduled rules are fired alike, each in its own context. -/
theorem fireAll_alike (now : Instant) {due : List ScheduledRule}
    (follows : ∀ scheduled ∈ due,
      first.FollowsRule second related scheduled.context scheduled.rule)
    {before : σ} {after : τ} (start : related before after) :
    Alike related (fireAll first now due before) (fireAll second now due after) := by
  induction due generalizing before after with
  | nil => exact ⟨rfl, start⟩
  | cons scheduled rest inductionHypothesis =>
      obtain ⟨here, below⟩ := List.forall_mem_cons.mp follows
      obtain ⟨sameOutcome, between⟩ := Engine.runRule_alike here (scheduled.facts now) start
      obtain ⟨sameOutcomes, kept⟩ := inductionHypothesis below between
      simp only [fireAll, fire, sameOutcome, sameOutcomes]
      exact ⟨rfl, kept⟩

end Runner

end ContactRules
