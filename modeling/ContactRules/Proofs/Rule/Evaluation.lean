/-
This file proves that conditions see only the fields that they name and that groups of them are monotone.
-/

import Mathlib.Data.List.Forall2
import ContactRules.Proofs.Json.Sameness
import ContactRules.Proofs.Rule.Criteria

namespace ContactRules

open ContactRules.Json

section Values

variable {left right : Value}

/-- Values that are the same stand for numbers of one exact value, or for none. -/
theorem quanta_toNumber?_of_same (same : left.same right = true) :
    (toNumber? left).map Double.quanta = (toNumber? right).map Double.quanta := by
  rcases Value.cases_of_same same with rfl | ⟨_, _, rfl, rfl, alike⟩ | ⟨_, _, rfl, rfl⟩ | ⟨_, _, rfl, rfl⟩
  · rfl
  · exact congrArg some (Number.quanta_eq_of_same alike)
  · rfl
  · rfl

/-- A comparison of numbers sees only their exact values. -/
theorem compareNumbers_eq (actual expected : Value) (holds : Int → Int → Bool) :
    compareNumbers actual expected holds =
      (((toNumber? actual).map Double.quanta).any fun left =>
        ((toNumber? expected).map Double.quanta).any fun right => holds left right) := by
  rw [compareNumbers]
  cases toNumber? actual <;> cases toNumber? expected <;> rfl

/-- Values that are the same compare alike with any number. -/
theorem compareNumbers_of_same (same : left.same right = true) (expected : Value) (holds : Int → Int → Bool) :
    compareNumbers left expected holds = compareNumbers right expected holds := by
  rw [compareNumbers_eq, compareNumbers_eq, quanta_toNumber?_of_same same]

/-- Values that are the same begin with the same texts. -/
theorem startsWith_of_same (same : left.same right = true) (expected : Value) :
    startsWith left expected = startsWith right expected := by
  rcases Value.cases_of_same same with rfl | ⟨_, _, rfl, rfl, _⟩ | ⟨_, _, rfl, rfl⟩ | ⟨_, _, rfl, rfl⟩
  all_goals rfl

/-- Values that are alike are members of the same lists. -/
theorem isMember_of_alike (alike : left.Alike right) (expected : Value) :
    isMember left expected = isMember right expected := by
  cases expected with
  | list items => simp only [isMember, alike.same_right]
  | _ => rfl

/-- No operator can tell values apart that are alike. -/
theorem Operator.compare_of_alike (operator : Operator) (alike : left.Alike right) (expected : Value) :
    operator.compare left expected = operator.compare right expected := by
  rcases alike.eq_or_same with rfl | same
  · rfl
  · cases operator with
    | equals => exact alike.same_left expected
    | notEquals => exact congrArg not (alike.same_left expected)
    | greaterThan => exact compareNumbers_of_same same expected fun left right => right < left
    | greaterThanOrEqual => exact compareNumbers_of_same same expected fun left right => right ≤ left
    | lessThan => exact compareNumbers_of_same same expected fun left right => left < right
    | lessThanOrEqual => exact compareNumbers_of_same same expected fun left right => left ≤ right
    | contains => exact startsWith_of_same same expected
    | isIn => exact isMember_of_alike alike expected
    | other name => rfl

end Values

variable {left right facts : Facts}

/-- Two tables of facts agree on a field when neither has it or when both have it with values that are alike. -/
def Facts.AgreeOn (left right : Facts) (field : String) : Prop :=
  Option.Rel Value.Alike (left.get? field) (right.get? field)

namespace Condition

/-- A condition depends only on the fact that it asks for, up to values that are alike. -/
theorem holds_of_agreeOn {condition : Condition} (agree : left.AgreeOn right condition.field) :
    condition.holds left = condition.holds right := by
  revert agree
  unfold Facts.AgreeOn holds
  generalize left.get? condition.field = mine, right.get? condition.field = theirs
  rintro (alike | _)
  · exact condition.operator.compare_of_alike alike condition.value
  · rfl

/-- A condition on a field that no fact has does not hold. -/
theorem holds_of_missing {condition : Condition} (missing : facts.get? condition.field = none) :
    condition.holds facts = false := by
  rw [holds, missing]

/-- A condition stands for another one when it is that one or asks for a field that no fact has. -/
def Masks (facts : Facts) (mask leaf : Condition) : Prop :=
  mask = leaf ∨ facts.get? mask.field = none

/-- A condition that stands for another one and holds lets the other one hold. -/
theorem Masks.holds {mask leaf : Condition} (masks : mask.Masks facts leaf) (holds : mask.holds facts = true) :
    leaf.holds facts = true := by
  rcases masks with rfl | missing
  · exact holds
  · rw [holds_of_missing missing] at holds
    cases holds

end Condition

/-- No result is lost when those that are joined are kept. -/
theorem Logic.join_mono (logic : Logic) {results others : List Bool}
    (pairs : List.Forall₂ (fun result other => result = true → other = true) results others)
    (holds : logic.join results = true) : logic.join others = true := by
  induction pairs with
  | nil => exact holds
  | @cons result other results others head _ inductionHypothesis =>
      cases logic with
      | all =>
          obtain ⟨first, rest⟩ := Bool.and_eq_true_iff.mp holds
          exact Bool.and_eq_true_iff.mpr ⟨head first, inductionHypothesis rest⟩
      | any =>
          rcases (Bool.or_eq_true _ _).mp holds with first | rest
          · exact (Bool.or_eq_true _ _).mpr (.inl (head first))
          · exact (Bool.or_eq_true _ _).mpr (.inr (inductionHypothesis rest))

namespace Criteria

/-- Two groups have the same shape, and their leaves are related place by place. -/
inductive Leafwise (related : Condition → Condition → Prop) : Criteria → Criteria → Prop where
  | mk {logic : Logic} {conditions others : List Condition} {groups changed : List Criteria} :
      List.Forall₂ related conditions others → List.Forall₂ (Leafwise related) groups changed →
      Leafwise related (mk logic conditions groups) (mk logic others changed)

variable {related : Condition → Condition → Prop} {group changed : Criteria}

/-- A group has the shape of itself, and each leaf is at its own place. -/
theorem leafwise_self (self : ∀ leaf ∈ group.leaves, related leaf leaf) : Leafwise related group group := by
  induction group with
  | mk logic conditions groups inductionHypothesis =>
      rw [leaves_mk] at self
      refine .mk (List.forall₂_same.mpr fun leaf member => ?_) (List.forall₂_same.mpr fun inner member => ?_)
      · exact self leaf (List.mem_append_left _ member)
      · refine inductionHypothesis inner member fun leaf inside => ?_
        exact self leaf (List.mem_append_right _ (List.mem_flatMap.mpr ⟨inner, member, inside⟩))

/-- A group holds when one of the same shape holds whose leaves hold less often. -/
theorem Leafwise.holds (leafwise : Leafwise related group changed)
    (keeps : ∀ leaf other, related leaf other → leaf.holds left = true → other.holds right = true)
    (holds : group.holds left = true) : changed.holds right = true := by
  induction group generalizing changed with
  | mk logic conditions groups inductionHypothesis =>
      cases leafwise with
      | @mk _ _ others _ changed leaves inner =>
          have isEmpty_eq :
              (Criteria.mk logic conditions groups).isEmpty = (Criteria.mk logic others changed).isEmpty := by
            cases leaves <;> cases inner <;> rfl
          have leafResults : List.Forall₂ (fun result other => result = true → other = true)
              (conditions.map fun condition => condition.holds left)
              (others.map fun other => other.holds right) := by
            rw [List.forall₂_map_left_iff, List.forall₂_map_right_iff]
            exact leaves.imp keeps
          have groupResults : List.Forall₂ (fun result other => result = true → other = true)
              (groups.map fun group => group.holds left) (changed.map fun group => group.holds right) := by
            rw [List.forall₂_map_left_iff, List.forall₂_map_right_iff]
            -- The induction hypothesis is about members, so each pair has to come with its membership.
            have membersOf := (List.forall₂_and_left _ _).mpr ⟨fun group member => member, inner⟩
            exact membersOf.imp fun group other pair => inductionHypothesis group pair.1 pair.2
          rw [holds_mk, Bool.or_eq_true] at holds ⊢
          exact holds.imp (isEmpty_eq ▸ ·) (logic.join_mono (List.rel_append leafResults groupResults))

end Criteria

/-- A result is read off conditions when it depends only on the fields that they name and is not lost as long as
those that hold keep holding. -/
structure ReadOff (leaves : List Condition) (result : Facts → Bool) : Prop where
  named {left right : Facts} : (∀ leaf ∈ leaves, left.AgreeOn right leaf.field) → result left = result right
  kept {left right : Facts} :
    (∀ leaf ∈ leaves, leaf.holds left = true → leaf.holds right = true) →
      result left = true → result right = true

/-- A result that is kept with its conditions depends only on their fields. -/
theorem ReadOff.of_kept {leaves : List Condition} {result : Facts → Bool}
    (kept : ∀ left right : Facts, (∀ leaf ∈ leaves, leaf.holds left = true → leaf.holds right = true) →
      result left = true → result right = true) : ReadOff leaves result where
  kept := kept _ _
  named agree := by
    have alike := fun leaf member => Condition.holds_of_agreeOn (agree leaf member)
    rw [Bool.eq_iff_iff]
    exact ⟨kept _ _ fun leaf member holds => alike leaf member ▸ holds,
      kept _ _ fun leaf member holds => (alike leaf member).symm ▸ holds⟩

/-- The result of a group is read off its leaves. -/
theorem Criteria.readOff (group : Criteria) : ReadOff group.leaves fun facts => group.holds facts :=
  .of_kept fun left right keeps =>
    have itself : Leafwise (fun leaf other => leaf.holds left = true → other.holds right = true) group group :=
      leafwise_self keeps
    itself.holds fun _ _ => id

/-- The result of a list of conditions is read off them. -/
theorem Condition.readOff (conditions : List Condition) : ReadOff conditions (allHold conditions) := by
  have leaves : (Criteria.allOf conditions).leaves = conditions := by
    rw [Criteria.allOf, Criteria.leaves_mk, List.flatMap_nil, List.append_nil]
  have readOff := (Criteria.allOf conditions).readOff
  simpa only [leaves, Criteria.holds_allOf] using readOff

/-- The results of groups and of lists of conditions are read off the conditions in them. A condition on a field
that no fact has does not hold, so conditions like that can stand for others only at the cost of a result. -/
theorem results_readOff_leaves (facts : Facts) :
    (∀ group : Criteria, ReadOff group.leaves fun facts => group.holds facts) ∧
    (∀ conditions, ReadOff conditions (Condition.allHold conditions)) ∧
    (∀ condition : Condition, facts.get? condition.field = none → condition.holds facts = false) ∧
    (∀ masked group, Criteria.Leafwise (Condition.Masks facts) masked group →
      masked.holds facts = true → group.holds facts = true) ∧
    (∀ masked conditions, List.Forall₂ (Condition.Masks facts) masked conditions →
      Condition.allHold masked facts = true → Condition.allHold conditions facts = true) := by
  have ofGroups (masked group : Criteria) (masks : Criteria.Leafwise (Condition.Masks facts) masked group) :
      masked.holds facts = true → group.holds facts = true :=
    masks.holds fun _ _ => Condition.Masks.holds
  refine ⟨Criteria.readOff, Condition.readOff, fun _ => Condition.holds_of_missing, ofGroups, ?_⟩
  intro masked conditions masks
  rw [← Criteria.holds_allOf, ← Criteria.holds_allOf]
  exact ofGroups _ _ (.mk masks .nil)

def unscored : Condition := ⟨"score", .equals, .number (.double .zero)⟩

def noLead : Condition := ⟨"status", .notEquals, .text "lead"⟩

/-- Two contacts differ in their source and in the sign of a score of zero, and neither has a status. A group that
asks for no score has one result for both. It keeps it when a condition on a missing field stands for the other
condition. -/
theorem unscored_read_off :
    let positive : Facts := (∅ : Facts).insert "score" (.number (.double .zero))
    let negative : Facts :=
      ((∅ : Facts).insert "source" (.text "web")).insert "score" (.number (.double (Double.zero.withSign true)))
    let group : Criteria := .mk .any [unscored] [.allOf [noLead]]
    let masked : Criteria := .mk .any [unscored] [.allOf [⟨"guest", .notEquals, .null⟩]]
    ((∀ leaf ∈ group.leaves, positive.AgreeOn negative leaf.field) ∧
        group.holds positive = group.holds negative ∧
        Condition.allHold group.leaves positive = Condition.allHold group.leaves negative) ∧
      ((∀ leaf ∈ group.leaves, leaf.holds positive = true → leaf.holds negative = true) ∧
        (group.holds positive = true → group.holds negative = true)) ∧
      (negative.get? noLead.field = none ∧ noLead.holds negative = false) ∧
      Criteria.Leafwise (Condition.Masks negative) masked group ∧
        masked.holds negative = true ∧ group.holds negative = true := by
  intro positive negative group masked
  obtain ⟨ofGroups, ofLists, missing, ofMasked, _⟩ := results_readOff_leaves negative
  have leaves : group.leaves = [unscored, noLead] := rfl
  have agree : ∀ leaf ∈ group.leaves, positive.AgreeOn negative leaf.field := by
    rw [leaves]
    exact List.forall_mem_cons.mpr ⟨.some (.inr ⟨rfl, rfl⟩), List.forall_mem_singleton.mpr .none⟩
  have keeps : ∀ leaf ∈ group.leaves, leaf.holds positive = true → leaf.holds negative = true := by
    rw [leaves]
    exact List.forall_mem_cons.mpr ⟨fun _ => rfl, List.forall_mem_singleton.mpr nofun⟩
  have masks : Criteria.Leafwise (Condition.Masks negative) masked group :=
    .mk (.cons (.inl rfl) .nil) (.cons (.mk (.cons (.inr rfl) .nil) .nil) .nil)
  refine ⟨⟨agree, (ofGroups group).named agree, (ofLists group.leaves).named agree⟩, ?_, ?_, masks, rfl, ?_⟩
  · exact ⟨keeps, (ofGroups group).kept keeps⟩
  · exact ⟨rfl, missing noLead rfl⟩
  · exact ofMasked masked group masks rfl

end ContactRules
