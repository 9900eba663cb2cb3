/-
This file proves that a tick marks each rule that was due once, and no other rule.
-/

import ContactRules.Engine.Runner
import ContactRules.Proofs.Roster

namespace ContactRules

open ContactRules.Calendar

variable {σ : Type}

namespace Runner

/-- A rule that was due has been fired. -/
def markDue (now : Instant) (scheduled : ScheduledRule) : ScheduledRule :=
  if scheduled.isDue now then scheduled.markFired now else scheduled

/-- A mark does not change the identifier of a rule. -/
theorem identity_markDue (now : Instant) (scheduled : ScheduledRule) :
    identity (markDue now scheduled) = identity scheduled := by
  unfold markDue
  split <;> rfl

/-- After a tick the rules that were due are marked, and those that never fire again are dropped. -/
def settle (runner : Runner) (now : Instant) : Runner :=
  { runner with
    rules := (runner.rules.map (markDue now) (identity_markDue now)).filter fun scheduled =>
      !scheduled.isExhausted now }

/-- This fires rules one after the other. -/
def fireAll {σ : Type} (engine : Engine σ) (now : Instant) :
    List ScheduledRule → σ → List Outcome × σ
  | [], state => ([], state)
  | scheduled :: rest, state =>
      let (outcome, state) := fire engine now scheduled state
      let (outcomes, state) := fireAll engine now rest state
      (outcome :: outcomes, state)

/-- These marks are made one after the other. -/
def markAll (runner : Runner) (now : Instant) (ids : List Uuid) : Runner :=
  ids.foldl (fun runner id => runner.mark now id) runner

/-- What the rules do and how they are marked do not concern each other. -/
theorem fireDue_eq (engine : Engine σ) (now : Instant) (due : List ScheduledRule) (runner : Runner)
    (state : σ) :
    fireDue engine now due runner state =
      ((fireAll engine now due state).1, runner.markAll now (due.map identity),
        (fireAll engine now due state).2) := by
  induction due generalizing runner state with
  | nil => rfl
  | cons scheduled rest inductionHypothesis =>
      simp only [fireDue, fireAll, inductionHypothesis]
      rfl

/-- A mark goes to the one rule with the identifier, and leaves the others and their order as they are. -/
theorem members_mark (runner : Runner) (now : Instant) (id : Uuid) :
    (runner.mark now id).rules.members =
      runner.rules.members.map fun scheduled =>
        if identity scheduled = id then scheduled.markFired now else scheduled := by
  unfold mark
  cases found : runner.rules.find? id with
  | none =>
      have absent : ∀ scheduled ∈ runner.rules.members, identity scheduled ≠ id := by
        simpa [Roster.find?] using found
      refine (List.map_id _).symm.trans (List.map_congr_left ?_)
      exact fun scheduled isMember => (if_neg (absent scheduled isMember)).symm
  | some held =>
      obtain ⟨isMember, rfl⟩ := Roster.find?_eq_some_iff.mp found
      have kept : identity (held.markFired now) = identity held := rfl
      refine (Roster.putMember_of_mem runner.rules.distinct isMember kept).trans (List.map_congr_left ?_)
      intro scheduled isOther
      -- The rule that was looked up is the only one with its identifier.
      split
      · rename_i same
        rw [Roster.eq_of_identity isOther isMember same]
      · rfl

/-- No rule is marked twice when no two marks are for one rule. -/
theorem members_markAll (runner : Runner) (now : Instant) {ids : List Uuid} (distinct : ids.Nodup) :
    (runner.markAll now ids).rules.members =
      runner.rules.members.map fun scheduled =>
        if identity scheduled ∈ ids then scheduled.markFired now else scheduled := by
  induction ids generalizing runner with
  | nil => simp [markAll]
  | cons id ids inductionHypothesis =>
      obtain ⟨fresh, tail⟩ := List.nodup_cons.mp distinct
      have rest := inductionHypothesis (runner.mark now id) tail
      rw [members_mark, List.map_map] at rest
      refine rest.trans (List.map_congr_left fun scheduled _ => ?_)
      have kept : identity (scheduled.markFired now) = identity scheduled := rfl
      by_cases same : identity scheduled = id
      · simp [same, kept, fresh]
      · simp [same]

/-- Marks neither start nor stop a runner. -/
theorem running_markAll (runner : Runner) (now : Instant) (ids : List Uuid) :
    (runner.markAll now ids).running = runner.running := by
  induction ids generalizing runner with
  | nil => rfl
  | cons id ids inductionHypothesis =>
      refine (inductionHypothesis (runner.mark now id)).trans ?_
      unfold mark
      cases runner.rules.find? id <;> rfl

/-- A rule of the runner has its identifier among those that are due exactly when it is due itself. -/
theorem mem_due_identity {runner : Runner} {now : Instant} {scheduled : ScheduledRule}
    (isMember : scheduled ∈ runner.rules.members) :
    identity scheduled ∈ (runner.due now).map identity ↔ scheduled.isDue now = true := by
  constructor
  · intro listed
    obtain ⟨other, isDue, same⟩ := List.mem_map.mp listed
    obtain ⟨isOther, due⟩ := List.mem_filter.mp isDue
    rwa [← Roster.eq_of_identity isOther isMember same]
  · exact fun due => List.mem_map_of_mem (List.mem_filter.mpr ⟨isMember, due⟩)

/-- No rule is due twice at one instant. -/
theorem due_distinct (runner : Runner) (now : Instant) : ((runner.due now).map identity).Nodup :=
  runner.rules.distinct.sublist (List.filter_sublist.map identity)

/-- A tick fires the rules that are due one after the other, and leaves the rules as if it had marked those
that were due all at once. -/
theorem tick_eq (runner : Runner) (engine : Engine σ) (now : Instant) (state : σ) :
    runner.tick engine now state =
      ((fireAll engine now (runner.due now) state).1, runner.settle now,
        (fireAll engine now (runner.due now) state).2) := by
  have marked : (runner.markAll now ((runner.due now).map identity)).rules =
      runner.rules.map (markDue now) (identity_markDue now) := by
    refine Roster.ext ((members_markAll runner now (runner.due_distinct now)).trans ?_)
    refine List.map_congr_left fun scheduled isMember => ?_
    simp only [mem_due_identity isMember, markDue]
  have swept : (runner.markAll now ((runner.due now).map identity)).sweep now = runner.settle now := by
    rw [sweep, marked, running_markAll, settle]
  simp only [tick, fireDue_eq, swept]

end Runner

end ContactRules
