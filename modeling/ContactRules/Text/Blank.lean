/-
This file defines blank characters and blank texts.
-/

namespace ContactRules.Text

/-- These are the closed ranges of code points with the White_Space property. -/
def blankRanges : List (Nat × Nat) :=
  [(0x09, 0x0D), (0x20, 0x20), (0x85, 0x85), (0xA0, 0xA0), (0x1680, 0x1680), (0x2000, 0x200A),
    (0x2028, 0x2029), (0x202F, 0x202F), (0x205F, 0x205F), (0x3000, 0x3000)]

def isBlank (character : Char) : Bool :=
  blankRanges.any fun range => range.1 ≤ character.toNat && character.toNat ≤ range.2

/-- A text is blank when each of its characters is. -/
def blank (text : String) : Bool :=
  text.toList.all isBlank

/-- This drops the blank characters at the start. -/
def dropBlank (characters : List Char) : List Char :=
  characters.dropWhile isBlank

/-- A text is not blank when one of its characters is not. -/
theorem blank_eq_false_iff (text : String) :
    blank text = false ↔ ∃ character ∈ text.toList, isBlank character = false := by
  simp [blank]

end ContactRules.Text
