/-
This file proves that the decoders of single values restore what was encoded.
-/

import ContactRules.Proofs.Calendar.Timestamp
import ContactRules.Proofs.Uuid
import ContactRules.Proofs.Wire.Record
import ContactRules.Rule.Action
import ContactRules.Schedule.Basic

namespace ContactRules

open ContactRules.Json
open ContactRules.Wire

namespace Wire

section Scalars

theorem decode_text (content : String) : decodeValue Decoder.text (.text content) = .ok content := rfl

theorem decode_bool (content : Bool) : decodeValue Decoder.bool (.bool content) = .ok content := rfl

theorem decode_value (content : Value) : decodeValue Decoder.value content = .ok content := by
  simp only [decodeValue, Decoder.value, Decoder.valueOf]

/-- A number below the limit of its field is read back. -/
theorem decode_unsigned {limit value : Nat} (expected : String) (bound : value < limit)
    (fits : limit ≤ UInt64.size) :
    decodeValue (Decoder.unsigned limit expected) (Value.ofNat value) = .ok value := by
  have small : value < UInt64.size := Nat.lt_of_lt_of_le bound fits
  have same : (UInt64.ofNat value).toNat = value := UInt64.toNat_ofNat_of_lt' small
  simp only [decodeValue, Decoder.unsigned, Value.ofNat, Number.ofNat, if_pos small, Node.opened, same,
    if_pos bound]

theorem decode_word32 (word : UInt32) : decodeValue Decoder.word32 (Value.ofNat word.toNat) = .ok word := by
  have read := decode_unsigned "u32" word.toNat_lt (by decide)
  exact bind_eq_ok.mpr ⟨word.toNat, read, by rw [UInt32.ofNat_toNat]; rfl⟩

theorem decode_word64 (word : UInt64) : decodeValue Decoder.word64 (Value.ofNat word.toNat) = .ok word := by
  have read := decode_unsigned "u64" word.toNat_lt (Nat.le_refl _)
  exact bind_eq_ok.mpr ⟨word.toNat, read, by rw [UInt64.ofNat_toNat]; rfl⟩

/-- Identifiers are read back from their texts. -/
theorem decode_uuid (id : Uuid) : decodeValue Decoder.uuid id.encode = .ok id :=
  bind_eq_ok.mpr ⟨id.text, rfl, congrArg (Except.mapError DecodeError.uuid) id.ofText_text⟩

/-- Instants are read back from their texts. -/
theorem decode_instant (instant : Calendar.Instant) :
    decodeValue Decoder.instant instant.encode = .ok instant :=
  bind_eq_ok.mpr ⟨instant.text, rfl, congrArg (Except.mapError DecodeError.timestamp) instant.ofText_text⟩

/-- A name is read as what the list of names gives for it. -/
theorem decode_named {α : Type} {names : List (String × α)} {name : String} {chosen : α}
    (found : names.lookup name = some chosen) :
    decodeValue (Decoder.named names) (.text name) = .ok chosen := by
  simp only [decodeValue, Decoder.named, Node.opened, found]

end Scalars

section Optional

variable {α : Type} {decoder : Decoder α}

/-- Only null is taken for nothing. -/
theorem decode_some {content : Value} {value : α} (isPresent : content ≠ .null)
    (restored : decodeValue decoder content = .ok value) :
    decodeValue (Decoder.optional decoder) content = .ok (some value) := by
  have mapped : Decoder.map some decoder .tree (.known content) = .ok (some value) :=
    bind_eq_ok.mpr ⟨value, restored, rfl⟩
  cases content with
  | null => exact absurd rfl isPresent
  | _ => exact mapped

theorem decode_some_text (content : String) :
    decodeValue (Decoder.optional Decoder.text) (.text content) = .ok (some content) :=
  decode_some nofun (decode_text content)

theorem decode_some_uuid (id : Uuid) :
    decodeValue (Decoder.optional Decoder.uuid) id.encode = .ok (some id) :=
  decode_some nofun (decode_uuid id)

theorem decode_some_instant (instant : Calendar.Instant) :
    decodeValue (Decoder.optional Decoder.instant) instant.encode = .ok (some instant) :=
  decode_some nofun (decode_instant instant)

/-- An optional value is read back, given that no value is encoded as null. -/
theorem decode_ofOption {encode : α → Value} (isPresent : ∀ value, encode value ≠ .null)
    (restored : ∀ value, decodeValue decoder (encode value) = .ok value) (content : Option α) :
    decodeValue (Decoder.optional decoder) (Value.ofOption encode content) = .ok content := by
  cases content with
  | none => rfl
  | some value => exact decode_some (isPresent value) (restored value)

end Optional

section Lists

variable {α : Type} {decoder : Decoder α} {encode : α → Value}

/-- Items that are read back one by one are read back one after the other. -/
theorem mapM_known {values : List α}
    (restored : ∀ value ∈ values, decodeValue decoder (encode value) = .ok value) :
    ((values.map encode).map Node.known).mapM (decoder .tree) = .ok values := by
  induction values with
  | nil => rfl
  | cons value rest inductionHypothesis =>
      rw [List.forall_mem_cons] at restored
      rw [List.map_cons, List.map_cons, List.mapM_cons, inductionHypothesis restored.2]
      exact bind_eq_ok.mpr ⟨value, restored.1, rfl⟩

/-- A list is read back when its items are. -/
theorem decode_list {values : List α}
    (restored : ∀ value ∈ values, decodeValue decoder (encode value) = .ok value) :
    decodeValue (Decoder.list decoder) (.list (values.map encode)) = .ok values :=
  bind_eq_ok.mpr ⟨values, mapM_known restored, rfl⟩

end Lists

end Wire

namespace Fields

variable {α : Type}

/-- An entry whose name comes after all others is put last. -/
theorem insertEntry_last {name : String} (value : α) {entries : List (String × α)}
    (below : ∀ entry ∈ entries, entry.1 < name) :
    insertEntry name value entries = entries ++ [(name, value)] := by
  induction entries with
  | nil => rfl
  | cons entry rest inductionHypothesis =>
      rw [List.forall_mem_cons] at below
      have notBefore : ¬ name < entry.1 := String.lt_asymm below.1
      have different : name ≠ entry.1 := fun same => String.lt_irrefl _ (same ▸ below.1)
      rw [insertEntry, if_neg notBefore, if_neg different, inductionHypothesis below.2, List.cons_append]

/-- Entries that come in the order of their names are put one after the other. -/
theorem entries_foldl_insert (rest : List (String × α)) (fields : Fields α)
    (sorted : (fields.entries ++ rest).Pairwise fun left right => left.1 < right.1) :
    (rest.foldl (fun fields entry => fields.insert entry.1 entry.2) fields).entries =
      fields.entries ++ rest := by
  induction rest generalizing fields with
  | nil => rw [List.foldl_nil, List.append_nil]
  | cons entry rest inductionHypothesis =>
      have below : ∀ other ∈ fields.entries, other.1 < entry.1 := fun other member =>
        (List.pairwise_append.mp sorted).2.2 other member entry List.mem_cons_self
      have inserted : (fields.insert entry.1 entry.2).entries = fields.entries ++ [entry] :=
        insertEntry_last entry.2 below
      rw [List.append_cons, ← inserted] at sorted
      rw [List.foldl_cons, inductionHypothesis _ sorted, inserted, ← List.append_cons]

/-- A table without entries is the empty one. -/
theorem empty_of_isEmpty {fields : Fields α} (isEmpty : fields.isEmpty = true) : empty = fields := by
  obtain ⟨entries, sorted⟩ := fields
  obtain rfl : entries = [] := List.isEmpty_iff.mp isEmpty
  rfl

/-- A table is built again from its entries. -/
theorem ofList_entries (fields : Fields α) : ofList fields.entries = fields := by
  have same : (ofList fields.entries).entries = fields.entries :=
    entries_foldl_insert fields.entries empty fields.sorted
  revert same
  cases ofList fields.entries
  rintro rfl
  rfl

end Fields

namespace Wire

section Tables

variable {α : Type} {decoder : Decoder α} {encode : α → Value}

/-- When a decoder takes exactly what was encoded, it takes exactly the entries that were encoded one by one. -/
theorem mapM_entries_iff
    (decodes : ∀ content value, decodeValue decoder content = .ok value ↔ content = encode value)
    {contents : List (String × Value)} {entries : List (String × α)} :
    (contents.map fun field => (field.1, Node.known field.2)).mapM
        (fun entry => do return (entry.1, ← decoder .tree entry.2)) = (.ok entries : Except DecodeError _) ↔
      contents = entries.map fun entry => (entry.1, encode entry.2) := by
  induction contents generalizing entries with
  | nil => cases entries <;> simp [pure, Except.pure]
  | cons field rest inductionHypothesis =>
      obtain ⟨name, content⟩ := field
      have decodesHere (value : α) : decoder .tree (.known content) = .ok value ↔ content = encode value :=
        decodes content value
      rw [List.map_cons, List.mapM_cons]
      simp only [bind_eq_ok, decodesHere, inductionHypothesis]
      constructor
      · rintro ⟨_, ⟨value, rfl, same⟩, read, rfl, whole⟩
        obtain rfl := Except.ok.inj same
        obtain rfl := Except.ok.inj whole
        rfl
      · intro same
        cases entries with
        | nil => cases same
        | cons entry read =>
            obtain ⟨sameEntry, rfl⟩ := List.cons.inj same
            obtain ⟨rfl, rfl⟩ := Prod.mk.inj sameEntry
            exact ⟨_, ⟨entry.2, rfl, rfl⟩, read, rfl, rfl⟩

/-- The entries of an object are decoded one by one, and the last one of a name wins. -/
theorem decode_fields_iff
    (decodes : ∀ content value, decodeValue decoder content = .ok value ↔ content = encode value)
    {content : Value} {table : Fields α} :
    decodeValue (Decoder.fields decoder) content = .ok table ↔
      ∃ entries, content = .object (entries.map fun entry => (entry.1, encode entry.2)) ∧
        table = Fields.ofList entries := by
  cases content with
  | object contents =>
      simp only [decodeValue, Decoder.fields, Node.opened, bind_eq_ok, mapM_entries_iff decodes, Value.object.injEq]
      refine exists_congr fun entries => and_congr_right fun _ => ?_
      constructor
      · rintro ⟨_, _, same⟩
        exact (Except.ok.inj same).symm
      · rintro rfl
        exact ⟨(), rfl, rfl⟩
  | _ => simp [decodeValue, Decoder.fields, Node.opened]

end Tables

/-- Only the value itself is decoded as a value. -/
theorem decode_value_iff {content value : Value} :
    decodeValue Decoder.value content = .ok value ↔ content = value := by
  rw [decode_value, Except.ok.injEq]

/-- A table of fields is read back. -/
theorem decode_fields (fields : Fields Value) :
    decodeValue (Decoder.fields Decoder.value) (Value.ofFields fields) = .ok fields := by
  have decodes (content value : Value) : decodeValue Decoder.value content = .ok value ↔ content = id value :=
    decode_value_iff
  refine (decode_fields_iff decodes).mpr ⟨fields.entries, ?_, ?_⟩
  · exact congrArg Value.object (List.map_id fields.entries).symm
  · exact fields.ofList_entries.symm

end Wire

namespace Kind

/-- All kinds of the type are listed, each with a name of its own. -/
class Lawful (α : Type) [Kind α] : Prop where
  mem_all : ∀ kind : α, kind ∈ (all : List α)
  names_nodup : ((all : List α).map name).Nodup

variable {α : Type} [Kind α]

/-- Where no two kinds share a name, a name tells its kind. -/
theorem lookup_name {kinds : List α} (distinct : (kinds.map name).Nodup) {kind : α} (member : kind ∈ kinds) :
    (kinds.map fun kind => (name kind, kind)).lookup (name kind) = some kind := by
  induction kinds with
  | nil => cases member
  | cons first rest inductionHypothesis =>
      rw [List.map_cons, List.nodup_cons] at distinct
      rcases List.mem_cons.mp member with rfl | later
      · rw [List.map_cons, List.lookup_cons_self]
      · have different : name kind ≠ name first := fun same =>
          distinct.1 (same ▸ List.mem_map_of_mem later)
        rw [List.map_cons, List.lookup_cons, beq_eq_false_iff_ne.mpr different]
        exact inductionHypothesis distinct.2 later

/-- Kinds are read back from their names. -/
theorem decode_encode [Lawful α] (kind : α) : decodeValue decoder (encode kind) = .ok kind :=
  decode_named (lookup_name Lawful.names_nodup (Lawful.mem_all kind))

/-- Kinds are read back where they are optional. -/
theorem decode_some_encode [Lawful α] (kind : α) :
    decodeValue (Decoder.optional decoder) (encode kind) = .ok (some kind) :=
  decode_some nofun (decode_encode kind)

instance : Lawful Trigger := ⟨Trigger.mem_all, by decide⟩

instance : Lawful RuleKind := ⟨RuleKind.mem_all, by decide⟩

instance : Lawful ActionKind := ⟨ActionKind.mem_all, by decide⟩

instance : Lawful Recurrence := ⟨Recurrence.mem_all, by decide⟩

end Kind

end ContactRules
