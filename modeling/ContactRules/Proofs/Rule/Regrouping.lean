/-
This file proves that a group of conditions keeps its meaning when its members are regrouped.
-/

import Mathlib.Logic.Relation
import ContactRules.Proofs.Rule.Criteria

namespace ContactRules

variable {facts : Facts}

/-- The order of the results that are joined does not matter. -/
theorem Logic.join_perm (logic : Logic) {results reordered : List Bool} (perm : results.Perm reordered) :
    logic.join results = logic.join reordered := by
  cases logic with
  | all => exact perm.all_eq
  | any => exact perm.any_eq

namespace Criteria

/-- A group is rearranged when its conditions or its groups change their order, when a group in it that has its
logic gives way to its own members, or when a group in it is rearranged. A group without members holds, so it may
not give way where any of the members must hold. -/
inductive Rearranges : Criteria → Criteria → Prop where
  | conditions {logic : Logic} {conditions reordered : List Condition} {groups : List Criteria} :
      conditions.Perm reordered → Rearranges (mk logic conditions groups) (mk logic reordered groups)
  | groups {logic : Logic} {conditions : List Condition} {groups reordered : List Criteria} :
      groups.Perm reordered → Rearranges (mk logic conditions groups) (mk logic conditions reordered)
  | splice {logic : Logic} {conditions : List Condition} {before after : List Criteria} {inner : Criteria} :
      inner.logic = logic → (logic = .any → inner.isEmpty = false) →
      Rearranges (mk logic conditions (before ++ inner :: after))
        (mk logic (conditions ++ inner.conditions) (before ++ inner.groups ++ after))
  | inside {logic : Logic} {conditions : List Condition} {before after : List Criteria}
      {inner changed : Criteria} :
      Rearranges inner changed →
      Rearranges (mk logic conditions (before ++ inner :: after))
        (mk logic conditions (before ++ changed :: after))

variable {logic : Logic} {conditions : List Condition} {before after : List Criteria}
variable {group inner changed : Criteria}

/-- A group with a group in it is not empty. -/
theorem isEmpty_around : (mk logic conditions (before ++ inner :: after)).isEmpty = false := by
  simp [isEmpty]

/-- A group that has the logic of the group around it gives way to its members, unless it holds for lack of any. -/
theorem holds_splice (same : inner.logic = logic) (filled : logic = .any → inner.isEmpty = false) :
    (mk logic conditions (before ++ inner :: after)).holds facts =
      (mk logic (conditions ++ inner.conditions) (before ++ inner.groups ++ after)).holds facts := by
  obtain ⟨innerLogic, innerConditions, innerGroups⟩ := inner
  obtain rfl : innerLogic = logic := same
  cases innerLogic with
  | all =>
      simp only [holds_all, Condition.allHold, List.all_append, List.all_cons, conditions_mk, groups_mk]
      ac_rfl
  | any =>
      have innerFilled := filled rfl
      have splicedFilled :
          (mk .any (conditions ++ innerConditions) (before ++ innerGroups ++ after)).isEmpty = false := by
        rw [← Bool.not_eq_true, isEmpty_mk] at innerFilled ⊢
        simp only [List.append_eq_nil_iff]
        exact fun ⟨⟨_, noConditions⟩, ⟨_, noGroups⟩, _⟩ => innerFilled ⟨noConditions, noGroups⟩
      rw [conditions_mk, groups_mk, holds_any isEmpty_around, holds_any splicedFilled]
      simp only [List.any_append, List.any_cons, holds_any innerFilled]
      ac_rfl

/-- Rearranging a group at one place keeps its result. -/
theorem Rearranges.holds_eq (rearranges : Rearranges group changed) : group.holds facts = changed.holds facts := by
  induction rearranges with
  | conditions perm =>
      rw [holds_mk, holds_mk, Logic.join_perm _ ((perm.map _).append_right _)]
      simp only [isEmpty, conditions_mk, groups_mk, perm.isEmpty_eq]
  | groups perm =>
      rw [holds_mk, holds_mk, Logic.join_perm _ ((perm.map _).append_left _)]
      simp only [isEmpty, conditions_mk, groups_mk, perm.isEmpty_eq]
  | splice same filled => exact holds_splice same filled
  | inside _ inductionHypothesis =>
      simp only [holds_mk, isEmpty_around, List.map_append, List.map_cons, inductionHypothesis]

/-- Rearranging a group at any places, forth and back, keeps its result. -/
theorem holds_eq_of_eqvGen (regrouped : Relation.EqvGen Rearranges group changed) :
    group.holds facts = changed.holds facts :=
  have sameResult : Equivalence fun first second : Criteria => first.holds facts = second.holds facts :=
    ⟨fun _ => rfl, Eq.symm, Eq.trans⟩
  sameResult.eqvGen_iff.mp (regrouped.mono fun _ _ rearranges => rearranges.holds_eq)

/-- The groups of a group give way one after the other, from the first to the last. -/
theorem dissolves_flatMap (conditions : List Condition) {groups : List Criteria}
    (flat : ∀ inner ∈ groups, Relation.ReflTransGen Rearranges inner (mk logic inner.leaves []))
    (filled : logic = .any → ∀ inner ∈ groups, inner.leaves ≠ []) :
    Relation.ReflTransGen Rearranges (mk logic conditions groups)
      (mk logic (conditions ++ groups.flatMap leaves) []) := by
  -- Each group that gives way adds to the conditions, so the induction is for all lists of them.
  induction groups generalizing conditions with
  | nil => simpa using Relation.ReflTransGen.refl
  | cons inner rest inductionHypothesis =>
      have innerFlat : Relation.ReflTransGen Rearranges (mk logic conditions (inner :: rest))
          (mk logic conditions (mk logic inner.leaves [] :: rest)) :=
        (flat inner List.mem_cons_self).lift (fun group => mk logic conditions ([] ++ group :: rest))
          fun _ _ => .inside
      have spliced : Rearranges (mk logic conditions ([] ++ mk logic inner.leaves [] :: rest))
          (mk logic (conditions ++ inner.leaves) ([] ++ [] ++ rest)) :=
        .splice rfl fun any => by simpa [isEmpty] using filled any inner List.mem_cons_self
      have restFlat := inductionHypothesis (conditions ++ inner.leaves)
        (fun other member => flat other (List.mem_cons_of_mem _ member))
        fun any other member => filled any other (List.mem_cons_of_mem _ member)
      rw [List.flatMap_cons, ← List.append_assoc]
      exact (innerFlat.tail spliced).trans restFlat

/-- A group has leaves when no group within it is empty. -/
theorem leaves_ne_nil (filled : ∀ member, Within member group → member.isEmpty = false) :
    group.leaves ≠ [] := by
  induction group with
  | mk logic conditions groups inductionHypothesis =>
      rw [leaves_mk]
      intro noLeaves
      obtain ⟨rfl, noneInside⟩ := List.append_eq_nil_iff.mp noLeaves
      cases groups with
      | nil => exact nomatch filled _ .itself
      | cons inner rest =>
          have innerLeaves := List.flatMap_eq_nil_iff.mp noneInside inner List.mem_cons_self
          exact inductionHypothesis inner List.mem_cons_self
            (fun member within => filled member (.inside List.mem_cons_self within)) innerLeaves

/-- A group of one logic dissolves into the list of its leaves, if no group in it is empty where any of the
members must hold. -/
theorem dissolves_leaves (uniform : ∀ member, Within member group → member.logic = logic)
    (filled : logic = .any → ∀ member, Within member group → member.isEmpty = false) :
    Relation.ReflTransGen Rearranges group (mk logic group.leaves []) := by
  induction group with
  | mk outer conditions groups inductionHypothesis =>
      obtain rfl : outer = logic := uniform _ .itself
      rw [leaves_mk]
      refine dissolves_flatMap conditions (fun inner member => ?_) fun any inner member => ?_
      · exact inductionHypothesis inner member (fun other within => uniform other (.inside member within))
          fun any other within => filled any other (.inside member within)
      · exact leaves_ne_nil fun other within => filled any other (.inside member within)

/-- The result of a group of one logic is that of the list of its leaves. -/
theorem holds_eq_leaves (uniform : ∀ member, Within member group → member.logic = logic)
    (filled : logic = .any → ∀ member, Within member group → member.isEmpty = false) :
    group.holds facts = (mk logic group.leaves []).holds facts :=
  holds_eq_of_eqvGen (Relation.EqvGen.reflTransGen_le_eqvGen _ _ _ (dissolves_leaves uniform filled))

/-- Where any of the members must hold, a group with an empty one at any depth holds. -/
theorem holds_of_empty_within {empty : Criteria} (within : Within empty group) (isEmpty : empty.isEmpty = true)
    (uniform : ∀ member, Within member group → member.logic = .any) : group.holds facts = true := by
  induction within with
  | itself => exact holds_of_isEmpty isEmpty
  | @inside group inner member _ inductionHypothesis =>
      have innerHolds := inductionHypothesis fun other within => uniform other (.inside member within)
      have filled : group.isEmpty = false := by
        simp [Criteria.isEmpty, List.ne_nil_of_mem member]
      obtain ⟨logic, conditions, groups⟩ := group
      obtain rfl : logic = .any := uniform _ .itself
      rw [holds_any filled, Bool.or_eq_true]
      exact .inr (List.any_eq_true.mpr ⟨inner, member, innerHolds⟩)

/-- A group that is rearranged, step by step and in either direction, keeps its result for all facts. So a group
in which each group asks for all members holds when all its leaves hold. A group in which each group asks for any
member holds when any of its leaves holds, but it always holds when there is an empty group in it. -/
theorem regrouping_keeps_result (facts : Facts) (group : Criteria) :
    (∀ changed, Relation.EqvGen Rearranges group changed → changed.holds facts = group.holds facts) ∧
    ((∀ member, Within member group → member.logic = .all) →
      group.holds facts = Condition.allHold group.leaves facts) ∧
    ((∀ member, Within member group → member.logic = .any) →
      ((∀ member, Within member group → member.isEmpty = false) →
        (group.holds facts = true ↔ ∃ leaf ∈ group.leaves, leaf.holds facts = true)) ∧
      ((∃ member, Within member group ∧ member.isEmpty = true) → group.holds facts = true)) := by
  refine ⟨fun changed regrouped => (holds_eq_of_eqvGen regrouped).symm, fun uniform => ?_, fun uniform => ⟨?_, ?_⟩⟩
  · rw [holds_eq_leaves uniform nofun]
    exact holds_allOf group.leaves
  · intro filled
    have flatFilled : (mk .any group.leaves []).isEmpty = false := by
      simpa [isEmpty] using leaves_ne_nil filled
    rw [holds_eq_leaves uniform fun _ => filled, holds_any flatFilled, List.any_nil, Bool.or_false]
    exact List.any_eq_true
  · rintro ⟨empty, within, isEmpty⟩
    exact holds_of_empty_within within isEmpty uniform

/-- These groups stand within each other and have one logic. The innermost group has the given conditions. -/
def welcome (logic : Logic) (innermost : List Condition) : Criteria :=
  mk logic [⟨"status", .equals, .text "lead"⟩]
    [mk logic [⟨"guest", .equals, .bool true⟩] [mk logic innermost []]]

/-- The groups that ask for any member can be dissolved and the conditions turned round. The groups that ask for
all members hold as the list of their leaves does, and an empty group that stands innermost lets a contact without
any facts pass. -/
theorem welcome_keeps_result :
    let facts : Facts := (∅ : Facts).insert "score" (.number (.ofNat 90))
    let scored : Condition := ⟨"score", .greaterThan, .number (.ofNat 80)⟩
    let loose := welcome .any [scored]
    let strict := welcome .all [scored]
    let lenient := welcome .any []
    let turned := mk .any loose.leaves.reverse []
    (Relation.EqvGen Rearranges loose turned ∧ turned.holds facts = loose.holds facts) ∧
      ((∀ member, Within member loose → member.logic = .any ∧ member.isEmpty = false) ∧
        (loose.holds facts = true ↔ ∃ leaf ∈ loose.leaves, leaf.holds facts = true)) ∧
      ((∀ member, Within member strict → member.logic = .all) ∧
        strict.holds facts = Condition.allHold strict.leaves facts) ∧
      ((∀ member, Within member lenient → member.logic = .any) ∧
        (∃ member, Within member lenient ∧ member.isEmpty = true) ∧ lenient.holds ∅ = true) := by
  intro facts scored loose strict lenient turned
  have looseMembers : ∀ member, Within member loose → member.logic = .any ∧ member.isEmpty = false := by
    simp [loose, welcome, within_mk, isEmpty]
  have strictMembers : ∀ member, Within member strict → member.logic = .all := by
    simp [strict, welcome, within_mk]
  have lenientMembers : ∀ member, Within member lenient → member.logic = .any := by
    simp [lenient, welcome, within_mk]
  have hasEmpty : ∃ member, Within member lenient ∧ member.isEmpty = true :=
    ⟨mk .any [] [], .inside List.mem_cons_self (.inside List.mem_cons_self .itself), rfl⟩
  have uniform := fun member within => (looseMembers member within).1
  have filled := fun member within => (looseMembers member within).2
  have regrouped : Relation.EqvGen Rearranges loose turned :=
    Relation.EqvGen.reflTransGen_le_eqvGen _ _ _
      ((dissolves_leaves uniform fun _ => filled).tail (.conditions loose.leaves.reverse_perm.symm))
  obtain ⟨keeps, _, ofAny⟩ := regrouping_keeps_result facts loose
  refine ⟨⟨regrouped, keeps turned regrouped⟩, ⟨looseMembers, (ofAny uniform).1 filled⟩, ⟨strictMembers, ?_⟩, ?_⟩
  · exact (regrouping_keeps_result facts strict).2.1 strictMembers
  · exact ⟨lenientMembers, hasEmpty, ((regrouping_keeps_result ∅ lenient).2.2 lenientMembers).2 hasEmpty⟩

end Criteria

end ContactRules
