/-
This file proves that the order of texts is the order of their bytes.
-/

namespace ContactRules.Text

/-- These are the bytes of a text. -/
def bytes (text : String) : List UInt8 := text.toList.flatMap String.utf8EncodeChar

/-- Bytes are in the order of their numbers. -/
theorem byte_lt_iff {left right : Nat} (leftBound : left < 256) (rightBound : right < 256) :
    UInt8.ofNat left < UInt8.ofNat right ↔ left < right := by
  rw [UInt8.lt_iff_toNat_lt, UInt8.toNat_ofNat_of_lt' leftBound, UInt8.toNat_ofNat_of_lt' rightBound]

/-- Different numbers are different bytes. -/
theorem byte_eq_iff {left right : Nat} (leftBound : left < 256) (rightBound : right < 256) :
    UInt8.ofNat left = UInt8.ofNat right ↔ left = right := by
  rw [← UInt8.toNat_inj, UInt8.toNat_ofNat_of_lt' leftBound, UInt8.toNat_ofNat_of_lt' rightBound]

/-- A smaller character has smaller bytes, and they differ before either of the two ends. -/
theorem utf8EncodeChar_append_lt {smaller larger : Char} (less : smaller < larger) (rest others : List UInt8) :
    String.utf8EncodeChar smaller ++ rest < String.utf8EncodeChar larger ++ others := by
  have order : smaller.val.toNat < larger.val.toNat := less
  have limit : larger.val.toNat < 0x110000 := by
    have valid := larger.valid
    simp only [UInt32.isValidChar, Nat.isValidChar] at valid
    omega
  simp only [String.utf8EncodeChar]
  generalize smaller.val.toNat = low at *
  generalize larger.val.toNat = high at *
  have parts (value : Nat) (bound : value < 0x110000) : value = value / 262144 * 262144 +
      value / 4096 % 64 * 4096 + value / 64 % 64 * 64 + value % 64 ∧ value / 262144 % 8 = value / 262144 := by omega
  have lowParts := parts low (by omega)
  have highParts := parts high limit
  -- Each of the two characters takes one to four bytes, and the first byte tells how many.
  repeat' split
  all_goals
    simp only [List.cons_append, List.nil_append, List.cons_lt_cons_iff]
    simp (disch := omega) only [byte_lt_iff, byte_eq_iff]
    omega

/-- A text that comes first in the order of characters comes first in the order of bytes. -/
theorem flatMap_utf8EncodeChar_lt {smaller larger : List Char} (less : smaller < larger) :
    smaller.flatMap String.utf8EncodeChar < larger.flatMap String.utf8EncodeChar := by
  induction smaller generalizing larger with
  | nil =>
      cases larger with
      | nil => exact absurd less (List.lt_irrefl [])
      | cons character rest =>
          rw [List.flatMap_nil, List.flatMap_cons]
          cases encoded : String.utf8EncodeChar character with
          | nil => exact absurd encoded String.utf8EncodeChar_ne_nil
          | cons byte bytes => exact List.nil_lt_cons _ _
  | cons character rest inductionHypothesis =>
      cases larger with
      | nil => exact absurd less (List.not_lt_nil _)
      | cons other others =>
          rw [List.flatMap_cons, List.flatMap_cons]
          rcases List.cons_lt_cons_iff.mp less with first | ⟨rfl, later⟩
          · exact utf8EncodeChar_append_lt first _ _
          · exact List.append_left_lt (inductionHypothesis later)

/-- Texts are in the order of their bytes. -/
theorem bytes_le_iff (left right : String) : bytes left ≤ bytes right ↔ left ≤ right := by
  have ascending {smaller larger : String} (less : smaller < larger) : bytes smaller < bytes larger :=
    flatMap_utf8EncodeChar_lt less
  constructor
  · exact fun ordered greater => ordered (ascending greater)
  · intro ordered bytesGreater
    by_cases same : left = right
    · exact List.lt_irrefl _ (same ▸ bytesGreater)
    · have less : left < right := String.not_le.mp fun greater =>
        same (String.le_antisymm ordered greater)
      exact List.lt_asymm (ascending less) bytesGreater

end ContactRules.Text
