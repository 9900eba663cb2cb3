/-
This file defines registries, which find the handler of an action.
-/

import ContactRules.Dispatch.Handler

namespace ContactRules

/-- A registry holds at most one handler of each kind. -/
structure Registry (σ : Type) where
  handler? : ActionKind → Option (Handler σ)
  keyed : ∀ kind handler, handler? kind = some handler → handler.kind = kind

namespace Registry

variable {σ : Type}

def empty : Registry σ := ⟨fun _ => none, fun _ _ found => nomatch found⟩

/-- A handler takes the place of an earlier one of its kind. -/
def register (registry : Registry σ) (handler : Handler σ) : Registry σ where
  handler? := fun kind => if kind = handler.kind then some handler else registry.handler? kind
  keyed := by
    intro kind found same
    split at same
    · rename_i atKind
      cases same
      exact atKind.symm
    · exact registry.keyed kind found same

def has (registry : Registry σ) (kind : ActionKind) : Bool :=
  (registry.handler? kind).isSome

/-- This removes the handler of a kind. -/
def unregister (registry : Registry σ) (kind : ActionKind) : Registry σ where
  handler? := fun other => if other = kind then none else registry.handler? other
  keyed := by
    intro other found same
    split at same
    · cases same
    · exact registry.keyed other found same

/-- This removes the handler of a kind, and says whether there was one. -/
def withdraw (registry : Registry σ) (kind : ActionKind) : Bool × Registry σ :=
  (registry.has kind, registry.unregister kind)

/-- These are the kinds with a handler, in the order of their declaration. -/
def kinds (registry : Registry σ) : List ActionKind :=
  ActionKind.all.filter registry.has

def size (registry : Registry σ) : Nat := registry.kinds.length

def isEmpty (registry : Registry σ) : Bool := registry.kinds.isEmpty

/-- This registers the handler of a kind if its collaborator is present. -/
def registerKind (team : Team σ) (registry : Registry σ) (kind : ActionKind) :
    Registry σ :=
  match team kind.role with
  | some perform => registry.register (Handler.ofMember kind perform)
  | none => registry

/-- This registers the handlers of all kinds that the team serves. -/
def registerTeam (registry : Registry σ) (team : Team σ) : Registry σ :=
  ActionKind.all.foldl (registerKind team) registry

def ofTeam (team : Team σ) : Registry σ :=
  empty.registerTeam team

/-- This is the number of kinds that have a handler only in the second registry. -/
def newKinds (before after : Registry σ) : Nat := after.size - before.size

/-- This registers the handlers that the team serves, and says how many kinds had none before. -/
def enlist (registry : Registry σ) (team : Team σ) : Nat × Registry σ :=
  let after := registry.registerTeam team
  (registry.newKinds after, after)

/-- This leaves an action to the handler of its kind. -/
def execute (registry : Registry σ) (action : Action) (context : Context) :
    Attempt σ ActionError := fun state =>
  match registry.handler? action.kind with
  | some handler => handler.perform action context state
  | none => (.error (.noHandler action.kind), state)

end Registry

end ContactRules
