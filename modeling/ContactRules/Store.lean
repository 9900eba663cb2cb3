/-
This file defines the store of rules.
-/

import ContactRules.Roster
import ContactRules.Rule.Basic

namespace ContactRules

/-- The reasons why a store does not answer. -/
inductive StoreError where
  | notFound (id : Uuid)
  | storage (reason : String)
deriving DecidableEq

namespace StoreError

def message : StoreError → String
  | notFound id => "automation not found: " ++ id.text
  | storage reason => "storage error: " ++ reason

/-- This is the short name of an error, for programs. -/
def code : StoreError → String
  | notFound _ => "not_found"
  | storage _ => "storage"

def isNotFound : StoreError → Bool
  | notFound _ => true
  | storage _ => false

end StoreError

instance : Identified RuleState := ⟨RuleState.id⟩

/-- A store keeps the states of rules. Events of rules are not stored. -/
structure Store where
  states : Roster RuleState

namespace Store

def empty : Store := ⟨Roster.empty⟩

def count (store : Store) : Nat := store.states.size

/-- The last state that is saved of a rule is kept. -/
def save (store : Store) (rule : Rule) : Store := ⟨store.states.put rule.state⟩

def find (store : Store) (id : Uuid) : Except StoreError Rule :=
  match store.states.find? id with
  | some state => .ok (Rule.ofState state)
  | none => .error (.notFound id)

def delete (store : Store) (id : Uuid) : Except StoreError Store :=
  if store.states.has id then .ok ⟨store.states.remove id⟩ else .error (.notFound id)

/-- Rules of less priority number come first, and rules of one priority are in the order of their names. -/
def comesBefore (left right : RuleState) : Bool :=
  left.priority < right.priority || left.priority = right.priority && left.name ≤ right.name

/-- These are the rules that pass a test, in their order. -/
def list (store : Store) (keep : RuleState → Bool) : List Rule :=
  ((store.states.members.filter keep).mergeSort comesBefore).map Rule.ofState

def ofPipeline (store : Store) (pipeline : Uuid) : List Rule :=
  store.list fun state => state.pipeline = some pipeline

/-- These are the rules of a pipeline that listen to a trigger, whether they are enabled or not. -/
def listening (store : Store) (pipeline : Uuid) (trigger : Trigger) : List Rule :=
  store.list fun state => state.pipeline = some pipeline && state.trigger = trigger

def enabledIn (store : Store) (pipeline : Uuid) : List Rule :=
  store.list fun state => state.pipeline = some pipeline && state.enabled

end Store

/-- Rules are read from a source, which may fail to answer. -/
structure RuleSource where
  find : Uuid → Except StoreError Rule
  listening : Uuid → Trigger → Except StoreError (List Rule)

/-- A store is a source that always answers. -/
def Store.source (store : Store) : RuleSource where
  find := store.find
  listening := fun pipeline trigger => .ok (store.listening pipeline trigger)

end ContactRules
