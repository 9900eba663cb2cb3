/-
This file defines the values of a document and their equality.
-/

import ContactRules.Fields
import ContactRules.Json.Number

namespace ContactRules.Json

/-- An object lists its fields in the order in which they are written. -/
inductive Value where
  | null
  | bool (value : Bool)
  | number (value : Number)
  | text (value : String)
  | list (items : List Value)
  | object (fields : List (String × Value))

namespace Value

instance : Inhabited Value := ⟨.null⟩

mutual

/-- Lists are the same item by item, and objects are the same field by field in any order. -/
def same : Value → Value → Bool
  | .null, .null => true
  | .bool left, .bool right => left == right
  | .number left, .number right => left.same right
  | .text left, .text right => left == right
  | .list left, .list right => sameItems left right
  | .object left, .object right => left.length == right.length && sameFields left right
  | _, _ => false

def sameItems : List Value → List Value → Bool
  | [], [] => true
  | left :: lefts, right :: rights => same left right && sameItems lefts rights
  | _, _ => false

/-- Each field of the first list has its like in the second. -/
def sameFields : List (String × Value) → List (String × Value) → Bool
  | [], _ => true
  | field :: rest, others =>
      (match others.lookup field.1 with
        | some other => same field.2 other
        | none => false) && sameFields rest others

end

instance : BEq Value := ⟨same⟩

mutual

/-- This is the number of lists and objects that a value has inside each other. -/
def depth : Value → Nat
  | .list items => itemsDepth items + 1
  | .object fields => fieldsDepth fields + 1
  | _ => 0

def itemsDepth : List Value → Nat
  | [] => 0
  | item :: rest => max (depth item) (itemsDepth rest)

def fieldsDepth : List (String × Value) → Nat
  | [] => 0
  | field :: rest => max (depth field.2) (fieldsDepth rest)

end

/-- This is the field of an object, if the value is an object that has it. -/
def field? (value : Value) (name : String) : Option Value :=
  match value with
  | .object fields => fields.lookup name
  | _ => none

/-- This is a field of an object. A field that is not there is null. -/
def get (value : Value) (name : String) : Value := (value.field? name).getD .null

/-- These are the items of a list. Other values have none. -/
def items : Value → List Value
  | .list items => items
  | _ => []

/-- These are the fields of an object. Other values have none. -/
def entries : Value → List (String × Value)
  | .object fields => fields
  | _ => []

def ofNat (value : Nat) : Value :=
  .number (Number.ofNat value)

def ofFields (fields : Fields Value) : Value :=
  .object fields.entries

/-- This is the value of something that may be absent. -/
def ofOption {α : Type} (encode : α → Value) : Option α → Value
  | none => .null
  | some value => encode value

end Value

/-- A field that is left out when there is nothing to write. -/
def optionalField {α : Type} (name : String) (encode : α → Value) : Option α → List (String × Value)
  | none => []
  | some value => [(name, encode value)]

/-- Two tables are the same when they hold the same values under the same names. -/
def sameFields (left right : Fields Value) : Bool :=
  (Value.ofFields left).same (Value.ofFields right)

end ContactRules.Json
