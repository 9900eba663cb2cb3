/-
This file proves that identifiers are read back from their texts.
-/

import ContactRules.Uuid
import Mathlib.Algebra.Ring.Nat

namespace ContactRules.Uuid

section Digits

/-- The digits of identifiers are read back, are not hyphens, and take one byte each. -/
theorem digit_spec {value : Nat} (bound : value < 16) :
    digitValue? (digit value) = some value ∧ digit value ≠ '-' ∧ (digit value).utf8Size = 1 := by
  revert value
  decide

/-- The last digit comes off the end. -/
theorem valueOf?_append_digit (front : List Char) {value : Nat} (bound : value < 16) :
    valueOf? (front ++ [digit value]) = (valueOf? front).map (· * 16 + value) := by
  rw [valueOf?, List.foldlM_append, ← valueOf?]
  cases valueOf? front with
  | none => rfl
  | some read => simp [(digit_spec bound).1]

/-- Digits are read as the value that they write, as far as there is room for it. -/
theorem valueOf?_digits (value count : Nat) :
    valueOf? (digits value count) = some (value % 16 ^ count) := by
  induction count generalizing value with
  | zero => simp [digits, valueOf?, Nat.mod_one]
  | succ count inductionHypothesis =>
      rw [digits, valueOf?_append_digit _ (Nat.mod_lt _ (by decide)), inductionHypothesis, Option.map_some,
        Nat.pow_succ', Nat.mod_mul, Nat.mul_comm (value / 16 % _), Nat.add_comm]

/-- A value is written with as many digits as there is room for. -/
theorem length_digits (value count : Nat) : (digits value count).length = count := by
  induction count generalizing value with
  | zero => rfl
  | succ count inductionHypothesis => rw [digits, List.length_append, inductionHypothesis]; rfl

/-- Only digits are written for a value. -/
theorem mem_digits {value count : Nat} {character : Char} (member : character ∈ digits value count) :
    ∃ place < 16, character = digit place := by
  induction count generalizing value with
  | zero => cases member
  | succ count inductionHypothesis =>
      rcases List.mem_append.mp member with front | last
      · exact inductionHypothesis front
      · exact ⟨value % 16, Nat.mod_lt _ (by decide), List.mem_singleton.mp last⟩

end Digits

section Groups

/-- Characters without a hyphen are one group. -/
theorem groups_plain {group : List Char} (plain : ∀ character ∈ group, character ≠ '-') :
    groups group = [group] := by
  induction group with
  | nil => rfl
  | cons character rest inductionHypothesis =>
      rw [List.forall_mem_cons] at plain
      rw [groups, inductionHypothesis plain.2]
      exact plain.1

/-- A hyphen ends a group. -/
theorem groups_hyphen {group : List Char} (plain : ∀ character ∈ group, character ≠ '-')
    (rest : List Char) : groups (group ++ '-' :: rest) = group :: groups rest := by
  induction group with
  | nil => rfl
  | cons character others inductionHypothesis =>
      rw [List.forall_mem_cons] at plain
      rw [List.cons_append, groups, inductionHypothesis plain.2]
      exact plain.1

/-- The groups of a hyphenated text have the given lengths, and together they are the text. -/
theorem groups_hyphenate (length : Nat) (lengths : List Nat) (characters : List Char)
    (plain : ∀ character ∈ characters, character ≠ '-')
    (size : characters.length = (length :: lengths).sum) :
    (groups (hyphenate (length :: lengths) characters)).map List.length = length :: lengths ∧
      (groups (hyphenate (length :: lengths) characters)).flatten = characters := by
  induction lengths generalizing length characters with
  | nil => simp_all [hyphenate, groups_plain plain]
  | cons next lengths inductionHypothesis =>
      have plainFirst : ∀ character ∈ characters.take length, character ≠ '-' := fun character member =>
        plain character (List.mem_of_mem_take member)
      have plainRest : ∀ character ∈ characters.drop length, character ≠ '-' := fun character member =>
        plain character (List.mem_of_mem_drop member)
      rw [List.sum_cons] at size
      have sizeRest : (characters.drop length).length = (next :: lengths).sum := by
        rw [List.length_drop, size, Nat.add_sub_cancel_left]
      obtain ⟨lengthsRest, flatRest⟩ := inductionHypothesis next _ plainRest sizeRest
      rw [hyphenate, groups_hyphen plainFirst, List.map_cons, List.flatten_cons, lengthsRest, flatRest,
        List.length_take, Nat.min_eq_left (size ▸ Nat.le_add_right _ _), List.take_append_drop]
      · exact ⟨rfl, rfl⟩
      · nofun

end Groups

section Size

/-- A text of characters of one byte has as many bytes as characters. -/
theorem utf8ByteSize_ofList {characters : List Char}
    (narrow : ∀ character ∈ characters, character.utf8Size = 1) :
    (String.ofList characters).utf8ByteSize = characters.length := by
  induction characters with
  | nil => rfl
  | cons character rest inductionHypothesis =>
      rw [List.forall_mem_cons] at narrow
      rw [String.ofList_cons, String.utf8ByteSize_append, String.utf8ByteSize_singleton, narrow.1,
        inductionHypothesis narrow.2, List.length_cons, Nat.add_comm]

/-- Hyphens are all that is added to the characters. -/
theorem mem_hyphenate {lengths : List Nat} {characters : List Char} {character : Char}
    (member : character ∈ hyphenate lengths characters) : character = '-' ∨ character ∈ characters := by
  fun_induction hyphenate lengths characters with
  | case1 => cases member
  | case2 => exact Or.inr member
  | case3 length rest characters _ inductionHypothesis =>
      rcases List.mem_append.mp member with first | later
      · exact Or.inr (List.mem_of_mem_take first)
      · rcases List.mem_cons.mp later with hyphen | rest
        · exact Or.inl hyphen
        · exact (inductionHypothesis rest).imp_right List.mem_of_mem_drop

end Size

/-- The text of an identifier is read as this identifier. -/
theorem ofText_text (id : Uuid) : ofText id.text = .ok id := by
  have plain : ∀ character ∈ digits id.bits.toNat 32, character ≠ '-' := by
    intro character member
    obtain ⟨value, bound, rfl⟩ := mem_digits member
    exact (digit_spec bound).2.1
  have narrow : ∀ character ∈ hyphenate groupLengths (digits id.bits.toNat 32), character.utf8Size = 1 := by
    intro character member
    rcases mem_hyphenate member with rfl | digit
    · rfl
    · obtain ⟨value, bound, rfl⟩ := mem_digits digit
      exact (digit_spec bound).2.2
  have size : id.text.utf8ByteSize = 36 := by
    rw [text, utf8ByteSize_ofList narrow]
    simp [hyphenate, groupLengths, length_digits]
  have value : valueOf? (digits id.bits.toNat 32) = some id.bits.toNat := by
    rw [valueOf?_digits]
    exact congrArg some (Nat.mod_eq_of_lt id.bits.isLt)
  obtain ⟨lengths, flat⟩ := groups_hyphenate 8 [4, 4, 4, 12] _ plain (length_digits _ 32)
  have read : ofGroups id.text.toList = .ok id := by
    rw [text, String.toList_ofList, ofGroups, groupLengths, lengths, flat, value]
    have same : BitVec.ofNat 128 id.bits.toNat = id.bits := by simp
    exact congrArg (fun bits => Except.ok (Uuid.mk bits)) same
  have notBare : id.text.utf8ByteSize ≠ 32 := by rw [size]; decide
  have framed : framed? id.text.utf8ByteSize id.text.toList = some id.text.toList := if_pos size
  simp only [ofText, if_neg notBare, framed, read]

end ContactRules.Uuid
