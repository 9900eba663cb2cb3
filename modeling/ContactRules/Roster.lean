/-
This file defines rosters, which hold things under their identifiers.
-/

import ContactRules.Uuid

namespace ContactRules

/-- A thing that has an identifier. -/
class Identified (α : Type) where
  identity : α → Uuid

export Identified (identity)

/-- A roster holds at most one member with each identifier. -/
structure Roster (α : Type) [Identified α] where
  members : List α
  distinct : (members.map identity).Nodup

namespace Roster

variable {α : Type} [Identified α]

def empty : Roster α := ⟨[], List.nodup_nil⟩

def size (roster : Roster α) : Nat := roster.members.length

def isEmpty (roster : Roster α) : Bool := roster.members.isEmpty

def find? (roster : Roster α) (id : Uuid) : Option α :=
  roster.members.find? fun member => identity member = id

def has (roster : Roster α) (id : Uuid) : Bool := (roster.find? id).isSome

/-- This keeps the members that pass a test. -/
def filter (roster : Roster α) (keep : α → Bool) : Roster α where
  members := roster.members.filter keep
  distinct := roster.distinct.sublist (List.filter_sublist.map identity)

def remove (roster : Roster α) (id : Uuid) : Roster α :=
  roster.filter fun member => identity member != id

/-- A change of members leaves their identifiers as they are. -/
def map (roster : Roster α) (change : α → α)
    (keeps : ∀ member, identity (change member) = identity member) : Roster α where
  members := roster.members.map change
  distinct := by
    have same : identity ∘ change = (identity : α → Uuid) := funext keeps
    rw [List.map_map, same]
    exact roster.distinct

/-- This puts a member in the place of the one with its identifier, or at the end. -/
def putMember (member : α) : List α → List α
  | [] => [member]
  | first :: rest =>
      if identity first = identity member then member :: rest else first :: putMember member rest

/-- A roster gains no identifier but that of the member that is put. -/
theorem mem_map_putMember {member : α} {members : List α} {id : Uuid}
    (found : id ∈ (putMember member members).map identity) :
    id = identity member ∨ id ∈ members.map identity := by
  induction members with
  | nil => simpa [putMember] using found
  | cons first rest inductionHypothesis =>
      unfold putMember at found
      split at found
      · rename_i same
        rcases List.mem_cons.mp found with atHead | below
        · exact Or.inl atHead
        · exact Or.inr (List.mem_cons_of_mem _ below)
      · rcases List.mem_cons.mp found with atHead | below
        · exact Or.inr (by simp [atHead])
        · rcases inductionHypothesis below with new | old
          · exact Or.inl new
          · exact Or.inr (List.mem_cons_of_mem _ old)

/-- Each identifier occurs once, before and after. -/
theorem putMember_distinct (member : α) (members : List α)
    (distinct : (members.map identity).Nodup) : ((putMember member members).map identity).Nodup := by
  induction members with
  | nil => simp [putMember]
  | cons first rest inductionHypothesis =>
      have fresh := (List.nodup_cons.mp distinct).1
      have tail := (List.nodup_cons.mp distinct).2
      unfold putMember
      split
      · rename_i same
        rw [List.map_cons, ← same]
        exact distinct
      · rename_i different
        refine List.nodup_cons.mpr ⟨fun found => ?_, inductionHypothesis tail⟩
        rcases mem_map_putMember found with new | old
        · exact different new
        · exact fresh old

/-- A member takes the place of an earlier one with its identifier. -/
def put (roster : Roster α) (member : α) : Roster α :=
  ⟨putMember member roster.members, putMember_distinct member roster.members roster.distinct⟩

/-- The member that was put last is found under its identifier, and other members are not concerned. -/
theorem find?_put (roster : Roster α) (member : α) (id : Uuid) :
    (roster.put member).find? id = if identity member = id then some member else roster.find? id := by
  obtain ⟨members, distinct⟩ := roster
  simp only [put, find?]
  induction members with
  | nil => by_cases same : identity member = id <;> simp [putMember, same]
  | cons first rest inductionHypothesis =>
      have tail := inductionHypothesis (List.nodup_cons.mp distinct).2
      unfold putMember
      split
      · rename_i atHead
        by_cases same : identity member = id
        · simp [same]
        · simp [same, atHead]
      · rename_i different
        by_cases same : identity first = id
        · have apart : identity member ≠ id := fun equal => different (same.trans equal.symm)
          simp [same, apart]
        · simp [same, tail]

/-- A member that was removed is not found, and other members are not concerned. -/
theorem find?_remove (roster : Roster α) (removed id : Uuid) :
    (roster.remove removed).find? id = if id = removed then none else roster.find? id := by
  obtain ⟨members, distinct⟩ := roster
  simp only [remove, filter, find?]
  clear distinct
  induction members with
  | nil => simp
  | cons first rest inductionHypothesis =>
      by_cases same : id = removed
      · subst same
        by_cases atHead : identity first = id <;> simp [atHead]
      · by_cases atHead : identity first = id
        · simp [atHead, same]
        · by_cases gone : identity first = removed
          · simpa [gone, same, Ne.symm same] using inductionHypothesis
          · simpa [gone, atHead, same] using inductionHypothesis

end Roster

end ContactRules
