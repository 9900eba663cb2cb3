/-
This file proves that the comparison of numbers is coherent, although they are rounded before they are compared.
-/

import ContactRules.Proofs.Decimal.Rounding
import ContactRules.Proofs.Rule.Evaluation

namespace ContactRules

open ContactRules.Json

namespace Operator

variable {actual expected : Number}

theorem greaterThan_iff : greaterThan.compare (.number actual) (.number expected) = true ↔
    expected.toDouble.quanta < actual.toDouble.quanta := decide_eq_true_iff

theorem greaterThanOrEqual_iff : greaterThanOrEqual.compare (.number actual) (.number expected) = true ↔
    expected.toDouble.quanta ≤ actual.toDouble.quanta := decide_eq_true_iff

theorem lessThan_iff : lessThan.compare (.number actual) (.number expected) = true ↔
    actual.toDouble.quanta < expected.toDouble.quanta := decide_eq_true_iff

theorem lessThanOrEqual_iff : lessThanOrEqual.compare (.number actual) (.number expected) = true ↔
    actual.toDouble.quanta ≤ expected.toDouble.quanta := decide_eq_true_iff

end Operator

namespace Json.Number

open Operator

variable {left right number : Number}

/-- This is the exact value of a number, in quanta. -/
def quanta : Number → Int
  | unsigned value => (value.toNat : Int) * Double.quantaPerUnit
  | negative value _ _ => value * Double.quantaPerUnit
  | double value => value.quanta

/-- A number is an integer, which is rounded, or a double, which is not. -/
theorem integer_or_double (number : Number) :
    (∃ integer : Int, number.quanta = integer * Double.quantaPerUnit ∧
      number.toDouble.quanta = (Double.ofInt integer).quanta) ∨ number.toDouble.quanta = number.quanta := by
  cases number with
  | unsigned value => exact Or.inl ⟨value.toNat, rfl, Double.quanta_ofNat value.toNat⟩
  | negative value _ _ => exact Or.inl ⟨value, rfl, rfl⟩
  | double value => exact Or.inr rfl

/-- The double that stands for a number is nearest to its exact value. -/
theorem toDouble_isNearest (number : Number) : number.toDouble.IsNearest number.quanta := by
  intro other
  rcases number.integer_or_double with ⟨integer, exact, rounded⟩ | same
  · rw [exact, rounded]
    exact Double.ofInt_isNearest integer other
  · rw [same, Int.sub_self]
    exact Nat.zero_le _

/-- Rounding keeps the order of the exact values. -/
theorem toDouble_mono (ordered : left.quanta ≤ right.quanta) : left.toDouble.quanta ≤ right.toDouble.quanta := by
  rcases Int.lt_or_eq_of_le ordered with less | same
  · exact left.toDouble_isNearest.mono right.toDouble_isNearest less
  · -- Equal values are rounded alike, unless one of them is a double, to which both are then rounded.
    have nearLeft := left.toDouble_isNearest
    have nearRight := right.toDouble_isNearest
    rcases left.integer_or_double with ⟨integer, exact, rounded⟩ | atLeft
    · rcases right.integer_or_double with ⟨other, exactOther, roundedOther⟩ | atRight
      · rw [exact, exactOther] at same
        obtain rfl := Int.eq_of_mul_eq_mul_right (Int.ne_of_gt Double.quantaPerUnit_pos) same
        exact Int.le_of_eq (rounded.trans roundedOther.symm)
      · rw [same, ← atRight] at nearLeft
        exact Int.le_of_eq nearLeft.exact
    · rw [← same, ← atLeft] at nearRight
      exact Int.le_of_eq nearRight.exact.symm

/-- A whole number of at most 53 bits is not rounded. -/
theorem toDouble_exact {integer : Int} (whole : number.quanta = integer * Double.quantaPerUnit)
    (small : integer.natAbs ≤ 0x20000000000000) : number.toDouble.quanta = number.quanta := by
  have nearest := number.toDouble_isNearest
  rw [whole] at nearest ⊢
  exact nearest.whole small

/-- A natural number is rounded, whether it fits 64 bits or not. -/
theorem toDouble_ofNat (number : Nat) : (ofNat number).toDouble = Double.ofNat number := by
  unfold ofNat
  split
  · rw [toDouble, UInt64.toNat_ofNat_of_lt' ‹_›]
  · rfl

/-- The results of comparing two numbers agree with each other. They never turn the exact order around, and are
exact for whole numbers of at most 53 bits. -/
structure Compared (actual expected : Number) (result : Operator → Bool) : Prop where
  greater_xor : result .greaterThan = !result .lessThanOrEqual
  less_xor : result .lessThan = !result .greaterThanOrEqual
  greater : result .greaterThan = true → expected.quanta < actual.quanta
  of_greater : expected.quanta < actual.quanta → result .greaterThanOrEqual = true
  less : result .lessThan = true → actual.quanta < expected.quanta
  of_less : actual.quanta < expected.quanta → result .lessThanOrEqual = true
  equal : result .equals = true → result .greaterThanOrEqual = true ∧ result .lessThanOrEqual = true
  whole : ∀ one other : Int, actual.quanta = one * Double.quantaPerUnit →
    expected.quanta = other * Double.quantaPerUnit →
    one.natAbs ≤ 0x20000000000000 → other.natAbs ≤ 0x20000000000000 →
      (result .greaterThan = true ↔ other < one) ∧ (result .greaterThanOrEqual = true ↔ other ≤ one) ∧
        (result .lessThan = true ↔ one < other) ∧ (result .lessThanOrEqual = true ↔ one ≤ other)

/-- All operators on numbers follow the exact values, as far as doubles tell them apart. -/
theorem compared (actual expected : Number) :
    actual.Compared expected fun operator => operator.compare (.number actual) (.number expected) := by
  constructor
  case greater_xor =>
    rw [Bool.eq_iff_iff, Bool.not_eq_true', ← Bool.not_eq_true, greaterThan_iff, lessThanOrEqual_iff, Int.not_le]
  case less_xor =>
    rw [Bool.eq_iff_iff, Bool.not_eq_true', ← Bool.not_eq_true, lessThan_iff, greaterThanOrEqual_iff, Int.not_le]
  case greater =>
    rw [greaterThan_iff]
    exact fun above => Int.lt_of_not_ge fun below => Int.not_le.mpr above (toDouble_mono below)
  case of_greater =>
    rw [greaterThanOrEqual_iff]
    exact fun above => toDouble_mono (Int.le_of_lt above)
  case less =>
    rw [lessThan_iff]
    exact fun below => Int.lt_of_not_ge fun above => Int.not_le.mpr below (toDouble_mono above)
  case of_less =>
    rw [lessThanOrEqual_iff]
    exact fun below => toDouble_mono (Int.le_of_lt below)
  case equal =>
    intro alike
    have same := quanta_eq_of_same alike
    exact ⟨greaterThanOrEqual_iff.mpr (Int.le_of_eq same.symm), lessThanOrEqual_iff.mpr (Int.le_of_eq same)⟩
  case whole =>
    intro one other isOne isOther smallOne smallOther
    have unit := Double.quantaPerUnit_pos
    rw [greaterThan_iff, greaterThanOrEqual_iff, lessThan_iff, lessThanOrEqual_iff, toDouble_exact isOne smallOne,
      toDouble_exact isOther smallOther, isOne, isOther]
    simp only [Int.mul_lt_mul_right unit, Int.mul_le_mul_right unit, and_self]

end Json.Number

/-- A comparison never holds without two numbers. -/
theorem compareNumbers_eq_false {actual expected : Value} (holds : Int → Int → Bool)
    (unnumbered : ∀ left right, actual = .number left → expected ≠ .number right) :
    compareNumbers actual expected holds = false := by
  cases actual with
  | number left =>
      cases expected with
      | number right => exact absurd rfl (unnumbered left right rfl)
      | _ => rfl
  | _ => rfl

namespace Condition

/-- The results of comparing a fact with a value are coherent when both are numbers. When they are not, or the fact
is missing, no comparison holds. -/
theorem comparisons_are_coherent (facts : Facts) (field : String) (value : Value) :
    (∀ actual expected, facts.get? field = some (.number actual) → value = .number expected →
      actual.Compared expected fun operator => Condition.holds ⟨field, operator, value⟩ facts) ∧
    ((∀ actual expected, facts.get? field = some (.number actual) → value ≠ .number expected) →
      ∀ operator ∈ [Operator.greaterThan, .greaterThanOrEqual, .lessThan, .lessThanOrEqual],
        Condition.holds ⟨field, operator, value⟩ facts = false) := by
  constructor
  · rintro actual expected found rfl
    simp only [holds, found]
    exact actual.compared expected
  · intro unnumbered operator isComparison
    cases found : facts.get? field with
    | none => exact holds_of_missing found
    | some actual =>
        have without (left right : Number) (isLeft : actual = .number left) : value ≠ .number right :=
          unnumbered left right (isLeft ▸ found)
        simp only [holds, found]
        simp only [List.mem_cons, List.not_mem_nil, or_false] at isComparison
        rcases isComparison with rfl | rfl | rfl | rfl
        all_goals simp only [Operator.compare, compareNumbers_eq_false _ without]

/-- Two whole numbers of 54 bits are rounded to one double, so neither counts as greater. -/
example :
    let facts : Facts := (∅ : Facts).insert "score" (Value.ofNat 0x20000000000001)
    Condition.holds ⟨"score", .greaterThan, Value.ofNat 0x20000000000000⟩ facts = false ∧
      Condition.holds ⟨"score", .greaterThanOrEqual, Value.ofNat 0x20000000000000⟩ facts = true := by
  decide +kernel

end Condition

end ContactRules
