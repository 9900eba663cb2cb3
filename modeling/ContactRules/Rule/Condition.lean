/-
This file defines the conditions of rules and groups of them.
-/

import ContactRules.Wire.Record

namespace ContactRules

open ContactRules.Json
open ContactRules.Wire

/-- A name that is no operator is kept, and a condition with it never holds. -/
inductive Operator where
  | equals
  | notEquals
  | greaterThan
  | greaterThanOrEqual
  | lessThan
  | lessThanOrEqual
  | contains
  | isIn
  | other (name : String)
deriving DecidableEq

namespace Operator

def name : Operator → String
  | equals => "eq"
  | notEquals => "ne"
  | greaterThan => "gt"
  | greaterThanOrEqual => "gte"
  | lessThan => "lt"
  | lessThanOrEqual => "lte"
  | contains => "contains"
  | isIn => "in"
  | other name => name

/-- Equality and its opposite have a long name too. -/
def ofName : String → Operator
  | "eq" => equals
  | "equals" => equals
  | "ne" => notEquals
  | "not_equals" => notEquals
  | "gt" => greaterThan
  | "gte" => greaterThanOrEqual
  | "lt" => lessThan
  | "lte" => lessThanOrEqual
  | "contains" => contains
  | "in" => isIn
  | name => other name

/-- This is the name of the operator within the library. -/
def label : Operator → String
  | equals => "Equals"
  | notEquals => "NotEquals"
  | greaterThan => "GreaterThan"
  | greaterThanOrEqual => "GreaterThanOrEqual"
  | lessThan => "LessThan"
  | lessThanOrEqual => "LessThanOrEqual"
  | contains => "Contains"
  | isIn => "In"
  | other _ => "Other"

def decoder : Decoder Operator := Decoder.map ofName Decoder.text

def encode (operator : Operator) : Value := .text operator.name

end Operator

/-- A condition compares a fact with a value. -/
structure Condition where
  field : String
  operator : Operator
  value : Value

namespace Condition

def same (left right : Condition) : Bool :=
  left.field == right.field && left.operator == right.operator && left.value.same right.value

def sameList : List Condition → List Condition → Bool
  | [], [] => true
  | left :: lefts, right :: rights => same left right && sameList lefts rights
  | _, _ => false

def record : Record Condition :=
  Condition.mk <$> Record.required "field" Decoder.text
    <*> Record.required "operator" Operator.decoder
    <*> Record.defaulted "value" Decoder.value .null

def decoder : Decoder Condition := record.decoder "RuleCondition"

def encode (condition : Condition) : Value :=
  .object [("field", .text condition.field), ("operator", condition.operator.encode),
    ("value", condition.value)]

end Condition

/-- All members of a group must hold, or any of them. -/
inductive Logic where
  | all
  | any
deriving DecidableEq

namespace Logic

def decoder : Decoder Logic :=
  Decoder.named [("AND", all), ("and", all), ("OR", any), ("or", any)]

def encode : Logic → Value
  | all => .text "AND"
  | any => .text "OR"

end Logic

/-- A group has conditions and further groups as its members. -/
inductive Criteria where
  | mk (logic : Logic) (conditions : List Condition) (groups : List Criteria)

namespace Criteria

def logic : Criteria → Logic
  | mk logic _ _ => logic

def conditions : Criteria → List Condition
  | mk _ conditions _ => conditions

def groups : Criteria → List Criteria
  | mk _ _ groups => groups

/-- This is a group in which each condition must hold. -/
def allOf (conditions : List Condition) : Criteria := mk .all conditions []

/-- This is a group in which any of the conditions must hold. -/
def anyOf (conditions : List Condition) : Criteria := mk .any conditions []

/-- This adds a member to a group. -/
def withGroup (group member : Criteria) : Criteria :=
  mk group.logic group.conditions (group.groups ++ [member])

def isEmpty (group : Criteria) : Bool :=
  group.conditions.isEmpty && group.groups.isEmpty

mutual

/-- Lists without members are left out. -/
def encode : Criteria → Value
  | mk logic conditions groups =>
      .object (("logic", logic.encode) ::
        (if conditions.isEmpty then [] else [("conditions", .list (conditions.map Condition.encode))]) ++
        (match groups with
          | [] => []
          | first :: rest => [("groups", .list (encode first :: encodeAll rest))]))

def encodeAll : List Criteria → List Value
  | [] => []
  | group :: rest => encode group :: encodeAll rest

end

/-- This decodes groups that are nested at most as deep as the bound. -/
def decoderWithin : Nat → Decoder Criteria
  | 0 => fun _ node => .error (node.complain "struct ConditionGroup")
  | bound + 1 =>
      let record : Record Criteria :=
        mk <$> Record.defaulted "logic" Logic.decoder .all
          <*> Record.defaulted "conditions" (Decoder.list Condition.decoder) []
          <*> Record.defaulted "groups" (Decoder.list (decoderWithin bound)) []
      record.decoder "ConditionGroup"

/-- A group is nested no deeper than its node. -/
def decoder : Decoder Criteria := fun medium node =>
  decoderWithin (node.depth + 1) medium node

end Criteria

end ContactRules
