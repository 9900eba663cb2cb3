/-
This file defines facts and says when they meet conditions.
-/

import ContactRules.Rule.Condition

namespace ContactRules

open ContactRules.Json
open ContactRules.Wire

/-- Facts describe an occurrence. -/
abbrev Facts := Fields Value

namespace Facts

def decoder : Decoder Facts := Decoder.fields Decoder.value

def encode (facts : Facts) : Value := Value.ofFields facts

def same (left right : Facts) : Bool := Json.sameFields left right

end Facts

/-- Only a number has a numeric value. -/
def toNumber? : Value → Option Double
  | .number number => some number.toDouble
  | _ => none

/-- Numbers are compared by the doubles nearest to them. -/
def compareNumbers (actual expected : Value) (holds : Int → Int → Bool) : Bool :=
  match toNumber? actual, toNumber? expected with
  | some left, some right => holds left.quanta right.quanta
  | _, _ => false

/-- A text contains each text that it starts with. -/
def startsWith : Value → Value → Bool
  | .text actual, .text expected => expected.toList.isPrefixOf actual.toList
  | _, _ => false

def isMember (actual : Value) : Value → Bool
  | .list items => items.any fun item => item.same actual
  | _ => false

namespace Operator

/-- This compares a fact with the value of a condition. -/
def compare (operator : Operator) (actual expected : Value) : Bool :=
  match operator with
  | equals => actual.same expected
  | notEquals => !actual.same expected
  | greaterThan => compareNumbers actual expected fun left right => right < left
  | greaterThanOrEqual => compareNumbers actual expected fun left right => right ≤ left
  | lessThan => compareNumbers actual expected fun left right => left < right
  | lessThanOrEqual => compareNumbers actual expected fun left right => left ≤ right
  | contains => startsWith actual expected
  | isIn => isMember actual expected
  | other _ => false

end Operator

namespace Condition

/-- A condition on a field that no fact has does not hold, whatever its operator. -/
def holds (condition : Condition) (facts : Facts) : Bool :=
  match facts.get? condition.field with
  | some actual => condition.operator.compare actual condition.value
  | none => false

/-- Each of the conditions holds. -/
def allHold (conditions : List Condition) (facts : Facts) : Bool :=
  conditions.all fun condition => condition.holds facts

end Condition

namespace Logic

/-- This joins the results of the members of a group. -/
def join : Logic → List Bool → Bool
  | all, results => results.all id
  | any, results => results.any id

end Logic

namespace Criteria

mutual

/-- A group without members holds. -/
def holds (facts : Facts) : Criteria → Bool
  | mk logic conditions groups =>
      if conditions.isEmpty && groups.isEmpty then true
      else logic.join ((conditions.map fun condition => condition.holds facts) ++ results facts groups)

/-- These are the results of groups, in their order. -/
def results (facts : Facts) : List Criteria → List Bool
  | [] => []
  | group :: rest => holds facts group :: results facts rest

end

/-- The groups within a group are evaluated one by one. -/
theorem results_eq_map (facts : Facts) (groups : List Criteria) :
    results facts groups = groups.map (holds facts) := by
  induction groups with
  | nil => rfl
  | cons group rest inductionHypothesis => simp [results, inductionHypothesis]

end Criteria

end ContactRules
