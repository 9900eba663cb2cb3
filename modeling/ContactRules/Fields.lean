/-
This file defines tables from names to values, in the order of their names.
-/

namespace ContactRules

universe u v

/-- A table holds each name once, and its entries stand in the order of the names. -/
structure Fields (α : Type u) where
  entries : List (String × α)
  sorted : entries.Pairwise fun left right => left.1 < right.1

namespace Fields

variable {α : Type u} {β : Type v}

def empty : Fields α := ⟨[], List.Pairwise.nil⟩

instance : EmptyCollection (Fields α) := ⟨empty⟩

instance : Inhabited (Fields α) := ⟨empty⟩

/-- This puts an entry in its place, and the new value wins over an old one. -/
def insertEntry (name : String) (value : α) : List (String × α) → List (String × α)
  | [] => [(name, value)]
  | entry :: rest =>
      if name < entry.1 then (name, value) :: entry :: rest
      else if name = entry.1 then (name, value) :: rest
      else entry :: insertEntry name value rest

/-- A list of entries gains no entry but the one that is inserted. -/
theorem mem_insertEntry {name : String} {value : α} {entries : List (String × α)}
    {entry : String × α} (member : entry ∈ insertEntry name value entries) :
    entry = (name, value) ∨ entry ∈ entries := by
  induction entries with
  | nil => simpa [insertEntry] using member
  | cons head rest inductionHypothesis =>
      unfold insertEntry at member
      split at member
      · simpa using member
      · split at member
        · rcases List.mem_cons.mp member with same | below
          · exact Or.inl same
          · exact Or.inr (List.mem_cons_of_mem _ below)
        · rcases List.mem_cons.mp member with same | below
          · exact Or.inr (by simp [same])
          · rcases inductionHypothesis below with new | old
            · exact Or.inl new
            · exact Or.inr (List.mem_cons_of_mem _ old)

/-- The entries stay in the order of their names, so that each name occurs once. -/
theorem insertEntry_sorted (name : String) (value : α) (entries : List (String × α))
    (sorted : entries.Pairwise fun left right => left.1 < right.1) :
    (insertEntry name value entries).Pairwise fun left right => left.1 < right.1 := by
  induction entries with
  | nil => simp [insertEntry]
  | cons head rest inductionHypothesis =>
      have above := (List.pairwise_cons.mp sorted).1
      have tail := (List.pairwise_cons.mp sorted).2
      unfold insertEntry
      split
      · rename_i before
        refine List.pairwise_cons.mpr ⟨fun entry member => ?_, sorted⟩
        rcases List.mem_cons.mp member with same | below
        · simpa [same] using before
        · exact String.lt_trans before (above entry below)
      · split
        · rename_i same
          refine List.pairwise_cons.mpr ⟨fun entry member => ?_, tail⟩
          simpa [same] using above entry member
        · rename_i notBefore different
          refine List.pairwise_cons.mpr ⟨fun entry member => ?_, inductionHypothesis tail⟩
          rcases mem_insertEntry member with new | old
          · have after : head.1 < name := by grind
            simpa [new] using after
          · exact above entry old

def insert (name : String) (value : α) (fields : Fields α) : Fields α :=
  ⟨insertEntry name value fields.entries, insertEntry_sorted name value fields.entries fields.sorted⟩

def get? (fields : Fields α) (name : String) : Option α :=
  fields.entries.lookup name

def isEmpty (fields : Fields α) : Bool :=
  fields.entries.isEmpty

def size (fields : Fields α) : Nat :=
  fields.entries.length

def names (fields : Fields α) : List String :=
  fields.entries.map Prod.fst

/-- The last entry of a name wins. -/
def ofList (entries : List (String × α)) : Fields α :=
  entries.foldl (fun fields entry => fields.insert entry.1 entry.2) empty

def map (change : α → β) (fields : Fields α) : Fields β where
  entries := fields.entries.map fun entry => (entry.1, change entry.2)
  sorted := List.pairwise_map.mpr fields.sorted

/-- The value that was inserted last is found under its name, and other names are not concerned. -/
theorem get?_insert (fields : Fields α) (name : String) (value : α) (wanted : String) :
    (fields.insert name value).get? wanted =
      if wanted = name then some value else fields.get? wanted := by
  obtain ⟨entries, sorted⟩ := fields
  simp only [insert, get?]
  induction entries with
  | nil =>
      by_cases same : wanted = name
      · simp [insertEntry, same]
      · simp [insertEntry, List.lookup_cons, same, beq_eq_false_iff_ne.mpr same]
  | cons head rest inductionHypothesis =>
      obtain ⟨key, stored⟩ := head
      have tail := inductionHypothesis (List.pairwise_cons.mp sorted).2
      simp only [insertEntry]
      split
      · by_cases same : wanted = name
        · simp [same]
        · simp [List.lookup_cons, same, beq_eq_false_iff_ne.mpr same]
      · split
        · rename_i equal
          by_cases same : wanted = name
          · simp [same]
          · have other : (wanted == key) = false := by
              rw [← equal]; exact beq_eq_false_iff_ne.mpr same
            simp [List.lookup_cons, same, beq_eq_false_iff_ne.mpr same, other]
        · rename_i notBefore different
          by_cases atHead : wanted = key
          · have apart : wanted ≠ name := fun same => different (same ▸ atHead)
            simp [atHead, show key ≠ name from fun h => different h.symm]
          · simp [List.lookup_cons, beq_eq_false_iff_ne.mpr atHead, tail]

@[simp] theorem get?_empty (name : String) : (empty : Fields α).get? name = none := rfl

end Fields

end ContactRules
