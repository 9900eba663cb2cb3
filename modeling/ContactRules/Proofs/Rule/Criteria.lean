/-
This file proves what a group of conditions says about its members, at any depth.
-/

import ContactRules.Rule.Facts

namespace ContactRules

namespace Criteria

variable {facts : Facts} {logic : Logic} {conditions : List Condition} {groups : List Criteria}

@[simp] theorem logic_mk : (mk logic conditions groups).logic = logic := rfl
@[simp] theorem conditions_mk : (mk logic conditions groups).conditions = conditions := rfl
@[simp] theorem groups_mk : (mk logic conditions groups).groups = groups := rfl

/-- What holds of a group when it holds of each group in it holds of all groups. -/
@[elab_as_elim, induction_eliminator]
theorem induction {motive : Criteria → Prop}
    (mk : ∀ (logic : Logic) (conditions : List Condition) (groups : List Criteria),
      (∀ group ∈ groups, motive group) → motive (.mk logic conditions groups))
    (group : Criteria) : motive group :=
  match group with
  | .mk logic conditions groups =>
      mk logic conditions groups fun member _ => induction mk member

mutual

/-- These are the conditions of a group and of all groups in it, at any depth. -/
def leaves : Criteria → List Condition
  | mk _ conditions groups => conditions ++ leavesOf groups

def leavesOf : List Criteria → List Condition
  | [] => []
  | group :: rest => leaves group ++ leavesOf rest

end

/-- The leaves of groups are those of each of them, in order. -/
theorem leavesOf_eq_flatMap (groups : List Criteria) : leavesOf groups = groups.flatMap leaves := by
  induction groups with
  | nil => rfl
  | cons group rest inductionHypothesis => rw [leavesOf, inductionHypothesis, List.flatMap_cons]

/-- The leaves of a group are its own conditions and the leaves of its groups. -/
theorem leaves_mk : (mk logic conditions groups).leaves = conditions ++ groups.flatMap leaves := by
  rw [leaves, leavesOf_eq_flatMap]

/-- A group stands in another one, at any depth, or is that one. -/
inductive Within (member : Criteria) : Criteria → Prop where
  | itself : Within member member
  | inside {group inner : Criteria} : inner ∈ group.groups → Within member inner → Within member group

/-- A group lies within another one when it is that group or lies within one of its groups. -/
theorem within_mk {member : Criteria} :
    Within member (mk logic conditions groups) ↔
      member = mk logic conditions groups ∨ ∃ inner ∈ groups, Within member inner := by
  constructor
  · rintro (_ | ⟨inside, within⟩)
    · exact .inl rfl
    · exact .inr ⟨_, inside, within⟩
  · rintro (rfl | ⟨inner, inside, within⟩)
    · exact .itself
    · exact .inside inside within

/-- A group holds when it has no members or when the results of its members join to that. -/
theorem holds_mk :
    (mk logic conditions groups).holds facts =
      ((mk logic conditions groups).isEmpty ||
        logic.join ((conditions.map fun condition => condition.holds facts) ++
          groups.map fun group => group.holds facts)) := by
  rw [holds, results_eq_map]
  show _ = (conditions.isEmpty && groups.isEmpty || _)
  cases conditions.isEmpty && groups.isEmpty <;> rfl

/-- A group without members holds. -/
theorem holds_of_isEmpty {group : Criteria} (empty : group.isEmpty = true) : group.holds facts = true := by
  cases group with
  | mk logic conditions groups => rw [holds_mk, empty, Bool.true_or]

/-- A group is empty when it has neither conditions nor groups. -/
theorem isEmpty_mk :
    (mk logic conditions groups).isEmpty = true ↔ conditions = [] ∧ groups = [] := by
  simp [isEmpty]

/-- All members must hold. It does not matter here that a group without members holds. -/
theorem holds_all :
    (mk .all conditions groups).holds facts =
      (Condition.allHold conditions facts && groups.all fun group => group.holds facts) := by
  rw [holds_mk, Logic.join, List.all_append, List.all_map, List.all_map]
  cases isEmpty : (mk .all conditions groups).isEmpty with
  | false => rfl
  | true =>
      obtain ⟨rfl, rfl⟩ := isEmpty_mk.mp isEmpty
      rfl

/-- Any member must hold, if there is one. -/
theorem holds_any (filled : (mk .any conditions groups).isEmpty = false) :
    (mk .any conditions groups).holds facts =
      (conditions.any (fun condition => condition.holds facts) || groups.any fun group => group.holds facts) := by
  rw [holds_mk, filled, Bool.false_or, Logic.join, List.any_append, List.any_map, List.any_map]
  rfl

/-- A group of conditions that must all hold is the list of these conditions. -/
theorem holds_allOf (conditions : List Condition) :
    (allOf conditions).holds facts = Condition.allHold conditions facts := by
  rw [allOf, holds_all, List.all_nil, Bool.and_true]

end Criteria

end ContactRules
