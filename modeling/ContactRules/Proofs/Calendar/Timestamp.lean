/-
This file proves that instants are read back from their texts.
-/

import ContactRules.Calendar.Timestamp
import ContactRules.Proofs.Calendar.Gregorian
import Mathlib.Algebra.Ring.Nat

namespace ContactRules.Calendar

open ContactRules.Text

namespace Timestamp

/-- These characters are so many decimal digits and stand for the value. -/
structure Spells (characters : List Char) (size value : Nat) : Prop where
  digits : ∀ character ∈ characters, character.isDigit = true
  length : characters.length = size
  value : Nat.ofDigitChars 10 characters 0 = value

section Digits

variable {character : Char}

/-- The code of a digit lies between those of zero and nine. -/
theorem digit_bounds (digit : character.isDigit = true) : 48 ≤ character.toNat ∧ character.toNat ≤ 57 := by
  simp only [Char.isDigit, ge_iff_le, Bool.and_eq_true, decide_eq_true_eq] at digit
  exact digit

/-- The value of a digit is its place among the digits. -/
theorem digitValue?_digit (digit : character.isDigit = true) :
    digitValue? character = some (character.toNat - '0'.toNat) :=
  if_pos (digit_bounds digit)

/-- A digit is not blank. -/
theorem isBlank_digit (digit : character.isDigit = true) : isBlank character = false := by
  have bounds := digit_bounds digit
  simp only [isBlank, blankRanges, List.any_cons, List.any_nil]
  grind

/-- Digits are taken up to the wanted count, or up to something else. -/
theorem takeDigits_append {digits rest : List Char} (areDigits : ∀ character ∈ digits, character.isDigit = true)
    {count : Nat} (fits : digits.length ≤ count)
    (ends : digits.length = count ∨ ∀ character ∈ rest.head?, digitValue? character = none) :
    takeDigits count (digits ++ rest) = (digits.map fun character => character.toNat - '0'.toNat, rest) := by
  induction digits generalizing count with
  | nil =>
      cases count with
      | zero => rfl
      | succ count =>
          cases rest with
          | nil => rfl
          | cons character rest =>
              have other := ends.resolve_left (by simp) character (by simp)
              simp [takeDigits, other]
  | cons character others inductionHypothesis =>
      cases count with
      | zero => exact absurd fits (by simp)
      | succ count =>
          rw [List.forall_mem_cons] at areDigits
          have restTaken := inductionHypothesis areDigits.2 (Nat.le_of_succ_le_succ fits)
            (ends.imp_left Nat.succ.inj)
          simp [takeDigits, digitValue?_digit areDigits.1, restTaken]

/-- The value of digits is that of the decimal number that they write. -/
theorem valueOfDigits_map (characters : List Char) :
    valueOfDigits (characters.map fun character => character.toNat - '0'.toNat) =
      Nat.ofDigitChars 10 characters 0 := by
  rw [valueOfDigits, List.foldl_map, Nat.ofDigitChars_eq_foldl]
  simp only [Nat.mul_comm]

end Digits

section Numbers

variable {characters : List Char} {size value : Nat}

/-- What is spelled starts with a digit. -/
theorem Spells.cons_of_pos (spells : Spells characters size value) (positive : 0 < size) :
    ∃ first others, characters = first :: others ∧ first.isDigit = true := by
  cases characters with
  | nil => exact absurd spells.length (Nat.ne_of_lt positive)
  | cons first others => exact ⟨first, others, rfl, spells.digits first List.mem_cons_self⟩

/-- A number is read off its digits when all that may be taken are there, or when something else follows. -/
theorem number_append (rest : List Char) (spells : Spells characters size value) (positive : 0 < size)
    {count : Nat} (fits : size ≤ count)
    (ends : size = count ∨ ∀ character ∈ rest.head?, digitValue? character = none) :
    number count (characters ++ rest) = .ok (value, rest) := by
  obtain ⟨first, others, rfl, _⟩ := spells.cons_of_pos positive
  rw [← spells.length] at fits ends
  have taken := takeDigits_append spells.digits fits ends
  rw [List.cons_append] at taken ⊢
  have value := valueOfDigits_map (first :: others)
  rw [spells.value] at value
  simp only [number, taken, List.map_cons] at value ⊢
  rw [value]

/-- Nothing is dropped before a character that is not blank. -/
theorem dropBlank_cons {character : Char} {rest : List Char} (notBlank : isBlank character = false) :
    dropBlank (character :: rest) = character :: rest := by
  rw [dropBlank, List.dropWhile_cons, notBlank]
  rfl

/-- Nothing is dropped before a number. -/
theorem dropBlank_append (rest : List Char) (spells : Spells characters size value) (positive : 0 < size) :
    dropBlank (characters ++ rest) = characters ++ rest := by
  obtain ⟨first, others, rfl, digit⟩ := spells.cons_of_pos positive
  exact dropBlank_cons (isBlank_digit digit)

end Numbers

end Timestamp

open Timestamp

namespace Instant

/-- Each number is spelled by its decimal digits. -/
theorem spells_toDigits (value : Nat) : Spells (Nat.toDigits 10 value) (Nat.toDigits 10 value).length value where
  digits _ member := Nat.isDigit_of_mem_toDigits (by decide) (by decide) member
  length := rfl
  value := Nat.ofDigitChars_ten_toDigits

/-- A number that is padded is its decimal digits after as many zeros as are missing. -/
theorem toList_padded (count value : Nat) :
    (padded count value).toList =
      List.replicate (count - (Nat.toDigits 10 value).length) '0' ++ Nat.toDigits 10 value := by
  simp [padded, Nat.repr_eq_ofList_toDigits]

/-- Zeros in front do not change what is spelled. -/
theorem spells_padded (count value : Nat) :
    Spells (padded count value).toList (max count (Nat.toDigits 10 value).length) value where
  digits character member := by
    rw [toList_padded, List.mem_append] at member
    rcases member with zero | digit
    · rw [List.eq_of_mem_replicate zero]
      rfl
    · exact (spells_toDigits value).digits character digit
  length := by
    rw [toList_padded, List.length_append, List.length_replicate]
    omega
  value := by
    rw [toList_padded, Nat.ofDigitChars_append, Nat.ofDigitChars_replicate_zero]
    simp

/-- A number that fits has exactly so many digits. -/
theorem spells_padded_of_lt (count : Nat) {value : Nat} (positive : 0 < count) (bound : value < 10 ^ count) :
    Spells (padded count value).toList count value := by
  have fits : (Nat.toDigits 10 value).length ≤ count :=
    (Nat.length_toDigits_le_iff (by decide) positive).mpr bound
  have spells := spells_padded count value
  rwa [Nat.max_eq_left fits] at spells

end Instant

namespace Timestamp

section Steps

variable {rest : List Char}

/-- A separator is read off itself. -/
theorem separator_cons {expected : Char} (notBlank : isBlank expected = false) :
    separator expected (expected :: rest) = .ok ((), rest) := by
  simp [separator, dropBlank_cons notBlank]

theorem between_letter : between ('T' :: rest) = .ok ((), rest) := by
  simp [between]

/-- A field is read off two digits when its value is within the limits. -/
theorem field_padded {least most value : Nat} (bounds : least ≤ value ∧ value ≤ most) (small : most < 100) :
    field least most ((Instant.padded 2 value).toList ++ rest) = .ok (value, rest) := by
  have spells := Instant.spells_padded_of_lt 2 (by decide) (Nat.lt_of_le_of_lt bounds.2 small)
  have read := number_append rest spells (by decide) (Nat.le_refl 2) (Or.inl rfl)
  simp [field, dropBlank_append rest spells, read, bounds, bind, Except.bind]

/-- A year before zero has a sign, and all digits after it are read. -/
theorem year_minus {characters : List Char} {value : Nat} (bound : value ≤ 0x80000000)
    (read : number characters.length characters = .ok (value, rest)) :
    year ('-' :: characters) = .ok (-value, rest) := by
  have start : dropBlank ('-' :: characters) = '-' :: characters := dropBlank_cons (by decide)
  have inRange : (-0x80000000 : Int) ≤ -value ∧ (-value : Int) < 0x80000000 := by omega
  simp only [year, start, read, bind, Except.bind, if_pos inRange]

/-- A year beyond four digits has a sign, and all digits after it are read. -/
theorem year_plus {characters : List Char} {value : Nat} (bound : value < 0x80000000)
    (read : number characters.length characters = .ok (value, rest)) :
    year ('+' :: characters) = .ok (value, rest) := by
  have start : dropBlank ('+' :: characters) = '+' :: characters := dropBlank_cons (by decide)
  have inRange : (-0x80000000 : Int) ≤ value ∧ (value : Int) < 0x80000000 := by omega
  simp only [year, start, read, bind, Except.bind, if_pos inRange]

/-- A year without a sign has four digits. -/
theorem year_digit {first : Char} {others : List Char} {value : Nat} (digit : first.isDigit = true)
    (bound : value < 0x80000000) (read : number 4 (first :: others) = .ok (value, rest)) :
    year (first :: others) = .ok (value, rest) := by
  have start : dropBlank (first :: others) = first :: others := dropBlank_cons (isBlank_digit digit)
  have inRange : (-0x80000000 : Int) ≤ value ∧ (value : Int) < 0x80000000 := by omega
  rw [year, start]
  split
  · rename_i same
    obtain ⟨rfl, _⟩ := List.cons.inj same
    cases digit
  · rename_i same
    obtain ⟨rfl, _⟩ := List.cons.inj same
    cases digit
  · simp only [read, bind, Except.bind, if_pos inRange]

/-- A year with a sign may have any number of digits, and one without has four. -/
theorem year_yearText {value : Int} (bounds : -0x80000000 ≤ value ∧ value < 0x80000000) :
    year ((Instant.yearText value).toList ++ '-' :: rest) = .ok (value, '-' :: rest) := by
  by_cases plain : 0 ≤ value ∧ value ≤ 9999
  · have spells : Spells (Instant.padded 4 value.toNat).toList 4 value.toNat :=
      Instant.spells_padded_of_lt 4 (by decide) (by omega)
    have read := number_append ('-' :: rest) spells (by decide) (Nat.le_refl 4) (Or.inl rfl)
    obtain ⟨first, others, characters, digit⟩ := spells.cons_of_pos (by decide)
    have same : ((value.toNat : Nat) : Int) = value := Int.toNat_of_nonneg plain.1
    rw [characters] at read
    rw [Instant.yearText, if_pos plain, characters]
    exact (year_digit digit (by omega) read).trans (by rw [same])
  · have spells := Instant.spells_padded 4 value.natAbs
    have ends : ∀ character ∈ ('-' :: rest).head?, digitValue? character = none := by
      rintro _ ⟨⟩
      rfl
    have fits : max 4 (Nat.toDigits 10 value.natAbs).length ≤
        ((Instant.padded 4 value.natAbs).toList ++ '-' :: rest).length := by
      rw [List.length_append, spells.length]
      exact Nat.le_add_right _ _
    have read := number_append _ spells (by omega) fits (Or.inr ends)
    rw [Instant.yearText, if_neg plain, String.toList_append]
    by_cases below : value < 0
    · have same : -(value.natAbs : Int) = value := by omega
      rw [if_pos below]
      exact (year_minus (by omega) read).trans (by rw [same])
    · have same : (value.natAbs : Int) = value := by omega
      rw [if_neg below]
      exact (year_plus (by omega) read).trans (by rw [same])

/-- The digits after the point that are left out are zeros. -/
theorem fraction_padded {size value : Nat} (positive : 0 < size) (most : size ≤ 9) (bound : value < 10 ^ size) :
    fraction ('.' :: ((Instant.padded size value).toList ++ ['Z'])) = .ok (value * Nat.pow 10 (9 - size), ['Z']) := by
  have spells := Instant.spells_padded_of_lt size positive bound
  have ends : ∀ character ∈ ['Z'].head?, digitValue? character = none := by
    rintro _ ⟨⟩
    rfl
  have taken := takeDigits_append spells.digits (spells.length ▸ most) (Or.inr ends)
  have value := valueOfDigits_map (Instant.padded size value).toList
  rw [spells.value] at value
  have length := spells.length
  obtain ⟨first, others, characters, _⟩ := spells.cons_of_pos positive
  rw [characters] at taken value length ⊢
  rw [List.cons_append] at taken ⊢
  rw [List.map_cons] at taken value
  simp only [fraction, taken, value, List.length_cons, List.length_map]
  rw [← length]
  rfl

/-- The parts of a second are read back from the fewest digits that are exact. -/
theorem fraction_fractionText {nanosecond : Nat} (bound : nanosecond < 1000000000) :
    fraction ((Instant.fractionText nanosecond).toList ++ ['Z']) = .ok (nanosecond, ['Z']) := by
  have point (size value : Nat) : ("." ++ Instant.padded size value).toList ++ ['Z'] =
      '.' :: ((Instant.padded size value).toList ++ ['Z']) := by
    rw [String.toList_append]
    rfl
  unfold Instant.fractionText
  split
  · rename_i zero
    rw [zero]
    rfl
  split
  · have whole : nanosecond / 1000000 * Nat.pow 10 6 = nanosecond := by
      show nanosecond / 1000000 * 1000000 = nanosecond
      omega
    rw [point, fraction_padded (by decide) (by decide) (by omega), whole]
  split
  · have whole : nanosecond / 1000 * Nat.pow 10 3 = nanosecond := by
      show nanosecond / 1000 * 1000 = nanosecond
      omega
    rw [point, fraction_padded (by decide) (by decide) (by omega), whole]
  · have whole : nanosecond * Nat.pow 10 0 = nanosecond := Nat.mul_one nanosecond
    rw [point, fraction_padded (by decide) (by decide) bound, whole]

end Steps

end Timestamp

namespace Instant

/-- The years of instants are far from the bounds of a reader. -/
theorem year_bounds (instant : Instant) : -0x80000000 ≤ instant.date.year ∧ instant.date.year < 0x80000000 := by
  have range := instant.dayRange
  have spec := yearOfDay_spec instant.day
  have lower := firstDayOfYear_bounds (Date.yearOfDay instant.day)
  have upper := firstDayOfYear_bounds (Date.yearOfDay instant.day + 1)
  have same : instant.date.year = Date.yearOfDay instant.day := rfl
  simp only [firstDay, lastDay] at range
  omega

/-- The date of an instant stands for its day. -/
theorem dayOfDate?_date (instant : Instant) : dayOfDate? instant.date = some instant.day := by
  have parts : instant.date = ⟨monthOf instant.day / 12, (monthOf instant.day % 12).toNat + 1,
      (Date.ofDayNumber instant.day).day⟩ := by
    rw [← ofDayNumber_year, ← ofDayNumber_month]
    rfl
  have place := ofDayNumber_day instant.day
  have starts := startOfMonth_monthOf_le instant.day
  have ends := lt_startOfMonth_monthOf_succ instant.day
  rw [startOfMonth_succ] at ends
  have inside : isRepresentable instant.day = true := isRepresentable_iff.mpr instant.dayRange
  rw [parts, dayOfDate?_eq_some_iff]
  exact ⟨by omega, by omega, inside⟩

/-- The date of an instant has a month of the year and a day of the month. -/
theorem date_bounds (instant : Instant) :
    (1 ≤ instant.date.month ∧ instant.date.month ≤ 12) ∧ 1 ≤ instant.date.day ∧ instant.date.day ≤ 31 := by
  obtain ⟨leastMonth, mostMonth, leastDay, place, ends⟩ := ofDayNumber_spec instant.day
  have most := lengthOfMonth_le (Date.ofDayNumber instant.day).monthNumber
  rw [startOfMonth_succ] at ends
  exact ⟨⟨leastMonth, mostMonth⟩, leastDay, by simp only [date]; omega⟩

/-- A leap second is read as the sixtieth second. -/
theorem reading_text (instant : Instant) :
    Timestamp.reading instant.text.toList =
      .ok (⟨instant.date, instant.hour, instant.minute,
        instant.second % 60 + instant.nanosecond / 1000000000, instant.nanosecond % 1000000000, 0⟩, []) := by
  have spelled : instant.text.toList = (yearText instant.date.year).toList ++ '-' ::
      ((padded 2 instant.date.month).toList ++ '-' :: ((padded 2 instant.date.day).toList ++ 'T' ::
        ((padded 2 instant.hour).toList ++ ':' :: ((padded 2 instant.minute).toList ++ ':' ::
          ((padded 2 (instant.second % 60 + instant.nanosecond / 1000000000)).toList ++
            ((fractionText (instant.nanosecond % 1000000000)).toList ++ ['Z'])))))) := by
    simp [text, localText]
  obtain ⟨month, day⟩ := instant.date_bounds
  have hour : 0 ≤ instant.hour ∧ instant.hour ≤ 23 := by
    have bound := instant.secondBound
    simp only [Instant.hour]
    omega
  have minute : 0 ≤ instant.minute ∧ instant.minute ≤ 59 := by
    simp only [Instant.minute]
    omega
  have second : 0 ≤ instant.second % 60 + instant.nanosecond / 1000000000 ∧
      instant.second % 60 + instant.nanosecond / 1000000000 ≤ 60 := by
    have bound := instant.nanosecond_lt
    omega
  have part : instant.nanosecond % 1000000000 < 1000000000 := Nat.mod_lt _ (by decide)
  have hyphen : isBlank '-' = false := by decide
  have colon : isBlank ':' = false := by decide
  have offset : Timestamp.offset (dropBlank ['Z']) = .ok (0, []) := by decide
  rw [spelled]
  simp only [Timestamp.reading, year_yearText instant.year_bounds, separator_cons hyphen,
    separator_cons colon, between_letter, field_padded month (by decide), field_padded day (by decide),
    field_padded hour (by decide), field_padded minute (by decide), field_padded second (by decide),
    fraction_fractionText part, offset, bind, Except.bind]

/-- A reading in universal time stands for the instant whose day, second and parts it gives. -/
theorem toInstant_eq {reading : Timestamp.Reading} {instant : Instant}
    (day : dayOfDate? reading.date = some instant.day) (universal : reading.offset = 0)
    (second : reading.hour * 3600 + reading.minute * 60 + (if reading.second = 60 then 59 else reading.second) =
      instant.second)
    (part : reading.nanosecond + (if reading.second = 60 then 1000000000 else 0) = instant.nanosecond) :
    reading.toInstant = .ok instant := by
  have bound := instant.secondBound
  have sameDay : instant.day + (instant.second : Int) / 86400 = instant.day := by omega
  have sameSecond : ((instant.second : Int) % 86400).toNat = instant.second := by omega
  simp only [Timestamp.Reading.toInstant, day, universal, second, part, Int.sub_zero, sameDay, sameSecond]
  rw [if_neg (by decide), dif_pos instant.dayRange, dif_pos bound, dif_pos instant.nanosecondBound]

/-- The text of an instant is read as this instant. -/
theorem ofText_text (instant : Instant) : ofText instant.text = .ok instant := by
  have second : instant.hour * 3600 + instant.minute * 60 + instant.second % 60 = instant.second := by
    simp only [Instant.hour, Instant.minute]
    omega
  have bound := instant.nanosecondBound
  simp only [ofText, reading_text, bind, Except.bind, List.all_nil, if_true]
  refine toInstant_eq instant.dayOfDate?_date rfl ?_ ?_
  · dsimp only
    split <;> omega
  · dsimp only
    split <;> omega

end Instant

end ContactRules.Calendar
