/-
This file proves that values which are the same are so with the same further values.
-/

import ContactRules.Json.Value

namespace ContactRules.Json

namespace Number

variable {left right first second third : Number}

/-- Numbers that are the same as one number are the same. -/
theorem same_trans (start : first.same second = true) (finish : second.same third = true) :
    first.same third = true := by
  cases first <;> cases second <;> cases third <;> simp_all [same, Double.sameValue]

/-- Numbers that are the same have the same exact value as doubles. -/
theorem quanta_eq_of_same (alike : left.same right = true) : left.toDouble.quanta = right.toDouble.quanta := by
  cases left <;> cases right <;> simp_all [same, toDouble, Double.sameValue]

end Number

namespace Value

variable {other second third : Value}

/-- Only null is the same as null. -/
theorem null_same_iff : null.same other = true ↔ other = null := by
  cases other <;> simp [same]

/-- Only the same truth value is the same as a truth value. -/
theorem bool_same_iff {value : Bool} : (bool value).same other = true ↔ other = bool value := by
  cases other with
  | bool another => simp [same, @eq_comm _ another]
  | _ => simp [same]

/-- Only a number is the same as a number. -/
theorem number_same_iff {value : Number} :
    (number value).same other = true ↔ ∃ another, other = number another ∧ value.same another = true := by
  cases other <;> simp [same]

/-- Only an equal text is the same as a text. -/
theorem text_same_iff {value : String} : (text value).same other = true ↔ other = text value := by
  cases other with
  | text another => simp [same, @eq_comm _ another]
  | _ => simp [same]

/-- Only a list whose items are the same, place by place, is the same as a list. -/
theorem list_same_iff {items : List Value} :
    (list items).same other = true ↔ ∃ others, other = list others ∧ sameItems items others = true := by
  cases other <;> simp [same]

/-- Only an object of as many fields is the same as an object, and the fields under each name are the same. -/
theorem object_same_iff {fields : List (String × Value)} :
    (object fields).same other = true ↔
      ∃ others, other = object others ∧ fields.length = others.length ∧ sameFields fields others = true := by
  cases other <;> simp [same]

/-- Values that are the same are equal, or they are numbers, lists or objects. -/
theorem cases_of_same {left right : Value} (alike : left.same right = true) :
    left = right ∨
      (∃ value another, left = number value ∧ right = number another ∧ value.same another = true) ∨
      (∃ items others, left = list items ∧ right = list others) ∨
      ∃ fields others, left = object fields ∧ right = object others := by
  cases left with
  | null => exact .inl (null_same_iff.mp alike).symm
  | bool value => exact .inl (bool_same_iff.mp alike).symm
  | text value => exact .inl (text_same_iff.mp alike).symm
  | number value =>
      obtain ⟨another, isNumber, same⟩ := number_same_iff.mp alike
      exact .inr (.inl ⟨value, another, rfl, isNumber, same⟩)
  | list items =>
      obtain ⟨others, isList, _⟩ := list_same_iff.mp alike
      exact .inr (.inr (.inl ⟨items, others, rfl, isList⟩))
  | object fields =>
      obtain ⟨others, isObject, _⟩ := object_same_iff.mp alike
      exact .inr (.inr (.inr ⟨fields, others, rfl, isObject⟩))

/-- A field that is found in the first list has its like in the second. -/
theorem exists_of_sameFields {fields others : List (String × Value)} (alike : sameFields fields others = true)
    {name : String} {value : Value} (found : fields.lookup name = some value) :
    ∃ other, others.lookup name = some other ∧ value.same other = true := by
  induction fields with
  | nil => cases found
  | cons field rest inductionHypothesis =>
      rw [sameFields, Bool.and_eq_true] at alike
      obtain ⟨atField, atRest⟩ := alike
      rw [List.lookup_cons] at found
      split at found
      · rename_i isName
        obtain rfl := Option.some.inj found
        rw [← eq_of_beq isName] at atField
        split at atField
        · rename_i other isOther
          exact ⟨other, isOther, atField⟩
        · cases atField
      · exact inductionHypothesis atRest found

mutual

/-- Values that are the same as one value are the same, at any depth. -/
theorem same_trans : (first : Value) → {second third : Value} → first.same second = true →
    second.same third = true → first.same third = true
  | null, _, _, start, finish => null_same_iff.mp start ▸ finish
  | bool _, _, _, start, finish => bool_same_iff.mp start ▸ finish
  | text _, _, _, start, finish => text_same_iff.mp start ▸ finish
  | number _, _, _, start, finish => by
      obtain ⟨_, rfl, alike⟩ := number_same_iff.mp start
      obtain ⟨_, rfl, further⟩ := number_same_iff.mp finish
      exact Number.same_trans alike further
  | list items, _, _, start, finish => by
      obtain ⟨_, rfl, alike⟩ := list_same_iff.mp start
      obtain ⟨others, rfl, further⟩ := list_same_iff.mp finish
      exact list_same_iff.mpr ⟨others, rfl, sameItems_trans items alike further⟩
  | object fields, _, _, start, finish => by
      obtain ⟨_, rfl, size, alike⟩ := object_same_iff.mp start
      obtain ⟨others, rfl, furtherSize, further⟩ := object_same_iff.mp finish
      exact object_same_iff.mpr ⟨others, rfl, size.trans furtherSize, sameFields_trans fields alike further⟩

/-- Lists whose items are the same as those of one list, place by place, are the same. -/
theorem sameItems_trans : (first : List Value) → {second third : List Value} →
    sameItems first second = true → sameItems second third = true → sameItems first third = true
  | [], [], _, _, finish => finish
  | item :: rest, other :: others, last :: lasts, start, finish => by
      rw [sameItems, Bool.and_eq_true] at start finish ⊢
      exact ⟨same_trans item start.1 finish.1, sameItems_trans rest start.2 finish.2⟩

/-- Fields that are in a second object, whose fields are in a third one, are in the third one. -/
theorem sameFields_trans : (first : List (String × Value)) → {second third : List (String × Value)} →
    sameFields first second = true → sameFields second third = true → sameFields first third = true
  | [], _, _, _, _ => by rw [sameFields]
  | (name, value) :: rest, second, third, start, finish => by
      rw [sameFields, Bool.and_eq_true] at start ⊢
      obtain ⟨atName, atRest⟩ := start
      refine ⟨?_, sameFields_trans rest atRest finish⟩
      split at atName
      · rename_i other isOther
        obtain ⟨last, isLast, further⟩ := exists_of_sameFields finish isOther
        rw [isLast]
        exact same_trans value atName further
      · cases atName

end

/-- Values are alike when they are equal, or when each is the same as the other. -/
def Alike (left right : Value) : Prop :=
  left = right ∨ (left.same right = true ∧ right.same left = true)

namespace Alike

variable {left right : Value}

/-- Values that are alike are equal or the same. -/
theorem eq_or_same (alike : left.Alike right) : left = right ∨ left.same right = true :=
  alike.imp_right And.left

/-- Of values that are alike, each may stand for the other on the left of a comparison. -/
theorem same_left (alike : left.Alike right) (value : Value) : left.same value = right.same value := by
  rcases alike with rfl | ⟨forth, back⟩
  · rfl
  · rw [Bool.eq_iff_iff]
    exact ⟨same_trans right back, same_trans left forth⟩

/-- Of values that are alike, each may stand for the other on the right of a comparison. -/
theorem same_right (alike : left.Alike right) (value : Value) : value.same left = value.same right := by
  rcases alike with rfl | ⟨forth, back⟩
  · rfl
  · rw [Bool.eq_iff_iff]
    exact ⟨fun isLeft => same_trans value isLeft forth, fun isRight => same_trans value isRight back⟩

end Alike

end Value

end ContactRules.Json
