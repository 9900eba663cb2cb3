/-
This file proves what a record reads from a table of fields, and that fields which it does not know change nothing.
-/

import ContactRules.Proofs.Wire.Restore

namespace ContactRules

open ContactRules.Json
open ContactRules.Wire

namespace Fields

variable {fields others : Fields Value} {name : String} {value : Value}

/-- A table has at most one value under a name, the one that is found there. -/
theorem valuesUnder_entries (fields : Fields Value) (name : String) :
    valuesUnder name fields.entries = (fields.get? name).toList := by
  obtain ⟨entries, sorted⟩ := fields
  rw [get?]
  induction entries with
  | nil => rfl
  | cons entry rest inductionHypothesis =>
      obtain ⟨found, content⟩ := entry
      obtain ⟨below, sortedRest⟩ := List.pairwise_cons.mp sorted
      rw [valuesUnder_cons, List.lookup_cons]
      by_cases same : found = name
      · subst same
        -- No later entry has the name of the first one.
        have alone : valuesUnder found rest = [] := by
          rw [valuesUnder, List.map_eq_nil_iff, List.filter_eq_nil_iff]
          intro other isOther named
          exact String.ne_of_lt (below other isOther) (of_decide_eq_true named).symm
        simp [alone]
      · have different : (name == found) = false := beq_eq_false_iff_ne.mpr fun alike => same alike.symm
        simp only [same, if_false, different]
        exact inductionHypothesis sortedRest

/-- The entries of a table are the values that are found under their names. -/
theorem mem_entries_iff : (name, value) ∈ fields.entries ↔ fields.get? name = some value := by
  rw [← Option.mem_toList, ← valuesUnder_entries]
  simp [valuesUnder]

/-- Tables that have the same values under certain names have the same entries under these names. -/
theorem filter_entries_congr {names : List String} (same : ∀ name ∈ names, fields.get? name = others.get? name) :
    (fields.entries.filter fun entry => entry.1 ∈ names) =
      others.entries.filter fun entry => entry.1 ∈ names := by
  have sortedHere := fields.sorted.filter fun entry => decide (entry.1 ∈ names)
  have sortedThere := others.sorted.filter fun entry => decide (entry.1 ∈ names)
  have apart (left right : String × Value) (before : left.1 < right.1) : left ≠ right :=
    fun alike => String.ne_of_lt before (congrArg Prod.fst alike)
  have members : (fields.entries.filter fun entry => entry.1 ∈ names).Perm
      (others.entries.filter fun entry => entry.1 ∈ names) := by
    rw [List.perm_ext_iff_of_nodup (sortedHere.imp (apart _ _)) (sortedThere.imp (apart _ _))]
    rintro ⟨name, value⟩
    simp only [List.mem_filter, mem_entries_iff, decide_eq_true_eq]
    exact and_congr_left fun member => by rw [same name member]
  exact members.eq_of_pairwise (fun left right _ _ before after => absurd after (String.lt_asymm before))
    sortedHere sortedThere

end Fields

namespace Wire

section Decoders

variable {α : Type} {decoder : Decoder α}

theorem decode_text_iff {content : Value} {value : String} :
    decodeValue Decoder.text content = .ok value ↔ content = .text value := by
  cases content <;> simp [decodeValue, Decoder.text, Decoder.textOf, Node.opened]

/-- An identifier is read from its text. -/
theorem decode_uuid_iff {content : Value} {id : Uuid} :
    decodeValue Decoder.uuid content = .ok id ↔ ∃ text, content = .text text ∧ Uuid.ofText text = .ok id := by
  simp only [decodeValue, Decoder.uuid, Decoder.refine, bind_eq_ok, mapError_eq_ok]
  cases content <;> simp [Decoder.textOf, Node.opened]

/-- Null is read as nothing, and all else is decoded. -/
theorem decode_optional_iff {content : Value} {value : Option α} :
    decodeValue (Decoder.optional decoder) content = .ok value ↔
      content = .null ∧ value = none ∨
        content ≠ .null ∧ ∃ present, decodeValue decoder content = .ok present ∧ value = some present := by
  have mapped : Decoder.map some decoder .tree (.known content) = .ok value ↔
      ∃ present, decodeValue decoder content = .ok present ∧ value = some present := by
    simp only [Decoder.map, bind_eq_ok]
    exact exists_congr fun present => and_congr_right fun _ => ⟨fun same => (Except.ok.inj same).symm,
      fun same => congrArg Except.ok same.symm⟩
  cases content with
  | null => simp [decodeValue, Decoder.optional, Node.opened, eq_comm]
  | _ =>
      simp only [reduceCtorEq, false_and, ne_eq, not_false_eq_true, true_and, false_or]
      exact mapped

/-- A name stands alone, or as the only field of an object, with null as its value. -/
theorem decode_named_iff {names : List (String × α)} {content : Value} {value : α} :
    decodeValue (Decoder.named names) content = .ok value ↔
      ∃ name, names.lookup name = some value ∧ (content = .text name ∨ content = .object [(name, .null)]) := by
  cases content with
  | text name => cases found : names.lookup name <;> simp [decodeValue, Decoder.named, Node.opened, found]
  | object fields =>
      rcases fields with _ | ⟨⟨name, inner⟩, _ | ⟨other, rest⟩⟩
      · simp [decodeValue, Decoder.named, Node.opened]
      · cases found : names.lookup name <;> cases inner <;>
          simp [decodeValue, Decoder.named, Node.opened, found, bind, Except.bind, pure, Except.pure]
      · simp [decodeValue, Decoder.named, Node.opened]
  | _ => simp [decodeValue, Decoder.named, Node.opened]

end Decoders

namespace Record

variable {α β : Type} {names others : List String}

/-- A record passes over the fields that it does not know. -/
theorem Knows.takeFields_filter {record : Record α} (knows : record.Knows names) (state : record.State)
    (entries : List (String × Value)) :
    takeFields record .tree state (known entries) =
      takeFields record .tree state (known (entries.filter fun entry => entry.1 ∈ names)) := by
  induction entries generalizing state with
  | nil => rfl
  | cons entry rest inductionHypothesis =>
      obtain ⟨name, content⟩ := entry
      rw [List.filter_cons]
      by_cases member : name ∈ names
      · obtain ⟨taken, takes⟩ := knows.takes name member .tree (.known content) state
        rw [if_pos (decide_eq_true member), takeFields_of_taken takes, takeFields_of_taken takes]
        cases taken with
        | error error => rfl
        | ok next => exact inductionHypothesis next
      · have ignored := knows.ignores name member .tree (.known content) state
        rw [if_neg (by simpa using member), takeFields_of_ignored ignored]
        exact inductionHypothesis state

/-- What a record reads depends only on the names that it knows. -/
theorem Knows.ofFields_congr {record : Record α} (knows : record.Knows names) {fields others : Fields Value}
    (same : ∀ name ∈ names, fields.get? name = others.get? name) :
    record.ofFields fields.entries = record.ofFields others.entries := by
  simp only [ofFields, fromObject]
  rw [knows.takeFields_filter, Fields.filter_entries_congr same, ← knows.takeFields_filter]

/-- A field is decoded where it stands. Where it does not, another value may stand in. -/
def Holds (decoder : Decoder α) (absent : Option α) (value : α) : Option Value → Prop
  | some content => decodeValue decoder content = .ok value
  | none => absent = some value

/-- A required field must be there, and is decoded. -/
theorem holds_required_iff {decoder : Decoder α} {value : α} {found : Option Value} :
    Holds decoder none value found ↔ ∃ content, found = some content ∧ decodeValue decoder content = .ok value := by
  cases found <;> simp [Holds]

/-- A field with a default is decoded where it stands, and where it does not the default stands in. -/
theorem holds_defaulted_iff {decoder : Decoder α} {absent value : α} {found : Option Value} :
    Holds decoder (some absent) value found ↔
      found = none ∧ value = absent ∨
        ∃ content, found = some content ∧ decodeValue decoder content = .ok value := by
  cases found <;> simp [Holds, eq_comm]

/-- A record knows certain names, and what it reads from a table of fields has a property and nothing else has
it. -/
structure Reads (record : Record α) (names : List String) (fields : Fields Value) (property : α → Prop) :
    Prop where
  knows : record.Knows names
  reads : ∀ value, record.ofFields fields.entries = .ok value ↔ property value

variable {fields : Fields Value}

/-- A single field reads what is found under its name. -/
theorem reads_field (name : String) (decoder : Decoder α) (absent short : Option α) :
    (field name decoder absent short).Reads [name] fields fun value =>
      Holds decoder absent value (fields.get? name) where
  knows := knows_field name decoder absent short
  reads value := by
    rw [(single_field name decoder absent short).ofFields_iff, Fields.valuesUnder_entries]
    cases fields.get? name <;> rfl

/-- Two parts that share no name read a table independently. -/
theorem Reads.seq {record : Record (α → β)} {part : Record α} {builds : (α → β) → Prop} {property : α → Prop}
    (read : record.Reads names fields builds) (readPart : part.Reads others fields property)
    (apart : ∀ name ∈ names, name ∉ others := by decide) :
    (record <*> part).Reads (names ++ others) fields fun value =>
      ∃ build piece, builds build ∧ property piece ∧ build piece = value where
  knows := knows_apply read.knows readPart.knows
  reads value := by
    refine (ofFields_apply read.knows readPart.knows apart fields.entries value).trans ?_
    simp only [read.reads, readPart.reads]

/-- A changed part reads what the part reads, and changes it. -/
theorem Reads.map {part : Record α} {property : α → Prop} (change : α → β)
    (read : part.Reads names fields property) :
    (change <$> part).Reads names fields fun value => ∃ piece, property piece ∧ change piece = value where
  knows := knows_apply (knows_pure change) read.knows
  reads value := by
    refine (ofFields_apply (knows_pure change) read.knows nofun fields.entries value).trans ?_
    simp only [ofFields_pure, read.reads, Except.ok.injEq]
    constructor
    · rintro ⟨_, piece, rfl, holds, same⟩
      exact ⟨piece, holds, same⟩
    · rintro ⟨piece, holds, same⟩
      exact ⟨_, piece, rfl, holds, same⟩

end Record

end Wire

end ContactRules
