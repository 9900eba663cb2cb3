/-
This file proves how members of rosters are found by their identifiers.
-/

import ContactRules.Roster

namespace ContactRules.Roster

variable {α : Type} [Identified α]

theorem ext {left right : Roster α} (same : left.members = right.members) : left = right := by
  cases left
  cases same
  rfl

/-- A member is found under its own identifier. -/
theorem identity_of_find? {roster : Roster α} {id : Uuid} {member : α}
    (found : roster.find? id = some member) : identity member = id := by
  simpa using List.find?_some found

/-- Only members are found. -/
theorem mem_of_find? {roster : Roster α} {id : Uuid} {member : α}
    (found : roster.find? id = some member) : member ∈ roster.members :=
  List.mem_of_find?_eq_some found

/-- Every member is found by its identifier, because no two members share one. -/
theorem find?_of_mem {roster : Roster α} {member : α} (isMember : member ∈ roster.members) :
    roster.find? (identity member) = some member := by
  obtain ⟨members, distinct⟩ := roster
  simp only [find?]
  induction members with
  | nil => cases isMember
  | cons first rest inductionHypothesis =>
      obtain ⟨fresh, tail⟩ := List.nodup_cons.mp distinct
      rcases List.mem_cons.mp isMember with atHead | below
      · subst atHead
        simp
      · have different : identity first ≠ identity member := by
          intro same
          exact fresh (same ▸ List.mem_map_of_mem below)
        rw [List.find?_cons_of_neg (by simpa using different)]
        exact inductionHypothesis tail below

/-- Members with one identifier are the same. -/
theorem eq_of_identity {roster : Roster α} {member other : α} (isMember : member ∈ roster.members)
    (isOther : other ∈ roster.members) (same : identity member = identity other) : member = other := by
  have found := find?_of_mem isMember
  rw [same, find?_of_mem isOther] at found
  exact (Option.some.inj found).symm

/-- The member with an identifier is found, since no other member has it. -/
theorem find?_eq_some_iff {roster : Roster α} {id : Uuid} {member : α} :
    roster.find? id = some member ↔ member ∈ roster.members ∧ identity member = id := by
  constructor
  · intro found
    exact ⟨mem_of_find? found, identity_of_find? found⟩
  · rintro ⟨isMember, rfl⟩
    exact find?_of_mem isMember

/-- A member is found among those that are kept when it is one of them. -/
theorem find?_filter (roster : Roster α) (keep : α → Bool) (id : Uuid) :
    (roster.filter keep).find? id = (roster.find? id).filter keep := by
  apply Option.ext
  intro member
  rw [find?_eq_some_iff, Option.filter_eq_some_iff, find?_eq_some_iff]
  simp only [filter, List.mem_filter]
  constructor
  · rintro ⟨⟨isMember, kept⟩, same⟩
    exact ⟨⟨isMember, same⟩, kept⟩
  · rintro ⟨⟨isMember, same⟩, kept⟩
    exact ⟨⟨isMember, kept⟩, same⟩

/-- A member that is changed is found as it was, when its identifier is kept. -/
theorem find?_map (roster : Roster α) (change : α → α)
    (keeps : ∀ member, identity (change member) = identity member) (id : Uuid) :
    (roster.map change keeps).find? id = (roster.find? id).map change := by
  simp only [find?, map, List.find?_map, Function.comp_def, keeps]

/-- One member at most has an identifier. -/
theorem filter_identity (roster : Roster α) (id : Uuid) :
    roster.members.filter (fun member => identity member = id) = (roster.find? id).toList := by
  obtain ⟨members, distinct⟩ := roster
  simp only [find?]
  induction members with
  | nil => rfl
  | cons first rest inductionHypothesis =>
      obtain ⟨fresh, tail⟩ := List.nodup_cons.mp distinct
      by_cases same : identity first = id
      · have others : rest.filter (fun member => identity member = id) = [] := by
          rw [List.filter_eq_nil_iff]
          intro member isMember equal
          exact fresh (same.trans (of_decide_eq_true equal).symm ▸ List.mem_map_of_mem isMember)
        simp [same, others]
      · simp [same, inductionHypothesis tail]

/-- The order of the members does not matter to those who look for one. -/
theorem find?_of_perm {left right : Roster α} (reordered : left.members.Perm right.members) (id : Uuid) :
    left.find? id = right.find? id := by
  apply Option.ext
  intro member
  rw [find?_eq_some_iff, find?_eq_some_iff, reordered.mem_iff]

/-- A member takes the place of the one with its identifier. -/
theorem putMember_of_mem {held member : α} {members : List α} (distinct : (members.map identity).Nodup)
    (isMember : held ∈ members) (same : identity member = identity held) :
    putMember member members =
      members.map fun other => if identity other = identity held then member else other := by
  induction members with
  | nil => cases isMember
  | cons first rest inductionHypothesis =>
      obtain ⟨fresh, tail⟩ := List.nodup_cons.mp distinct
      rw [putMember, same, List.map_cons]
      by_cases atHead : identity first = identity held
      · have others : ∀ other ∈ rest, identity other ≠ identity held := fun other isOther sameOther =>
          fresh (atHead.trans sameOther.symm ▸ List.mem_map_of_mem isOther)
        rw [if_pos atHead, if_pos atHead]
        refine congrArg (member :: ·) (List.map_id _ |>.symm.trans (List.map_congr_left ?_))
        exact fun other isOther => (if_neg (others other isOther)).symm
      · have below : held ∈ rest := (List.mem_cons.mp isMember).resolve_left fun equal =>
          atHead (equal ▸ rfl)
        rw [if_neg atHead, if_neg atHead, inductionHypothesis tail below]

end ContactRules.Roster
