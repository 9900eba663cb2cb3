/-
This file proves how the span between two instants depends on them, and what a leap second changes about it.
-/

import ContactRules.Proofs.Calendar.Minute

namespace ContactRules.Calendar.Instant

variable {start first second finish : Instant}

/-- These are the nanoseconds on the clock since the start of 1970, where a leap second counts on within its second. -/
def clock (instant : Instant) : Int :=
  (instant.day * 86400 + instant.second) * 1000000000 + instant.nanosecond

/-- An instant lies in a leap second. -/
def InLeapSecond (instant : Instant) : Prop := 1000000000 ≤ instant.nanosecond

/-- The span is the difference on the clock, but for one second when a leap second lies at an earlier time of day
than the other instant. -/
theorem nanosecondsUntil_cases (start finish : Instant) :
    (start.InLeapSecond ∧ start.second < finish.second ∧
        start.nanosecondsUntil finish = finish.clock - start.clock + 1000000000) ∨
      (finish.InLeapSecond ∧ finish.second < start.second ∧
        start.nanosecondsUntil finish = finish.clock - start.clock - 1000000000) ∨
      ¬ (start.InLeapSecond ∧ start.second < finish.second) ∧
        ¬ (finish.InLeapSecond ∧ finish.second < start.second) ∧
        start.nanosecondsUntil finish = finish.clock - start.clock := by
  simp only [nanosecondsUntil, clock, InLeapSecond]
  split
  · omega
  · split <;> omega

/-- Without leap seconds the span is the difference on the clock. -/
theorem nanosecondsUntil_of_ordinary (ordinary : ¬ start.InLeapSecond) (ordinaryFinish : ¬ finish.InLeapSecond) :
    start.nanosecondsUntil finish = finish.clock - start.clock := by
  rcases nanosecondsUntil_cases start finish with ⟨leap, _⟩ | ⟨leap, _⟩ | ⟨_, _, span⟩
  · exact absurd leap ordinary
  · exact absurd leap ordinaryFinish
  · exact span

/-- Instants are in the order of the clock, if the earlier one lies in no leap second. -/
theorem clock_mono (ordered : first ≤ second) (ordinary : ¬ first.InLeapSecond) : first.clock ≤ second.clock := by
  have bound := second.nanosecond_lt
  simp only [le_iff, rank, clock, InLeapSecond] at *
  omega

/-- No span is too long to be counted in milliseconds by 64 bits. -/
theorem nanosecondsUntil_bounds (start finish : Instant) :
    (start.nanosecondsUntil finish).natAbs ≤ 0x7fffffffffffffff * 1000000 := by
  have range := start.dayRange
  have finishRange := finish.dayRange
  have bound := start.secondBound
  have finishBound := finish.secondBound
  have part := start.nanosecond_lt
  have finishPart := finish.nanosecond_lt
  have days : firstDay = -96465292 ∧ lastDay = 95026236 := ⟨rfl, rfl⟩
  have cases := nanosecondsUntil_cases start finish
  simp only [clock] at cases
  omega

/-- The span does not get shorter when the end moves by a second or more. -/
theorem nanosecondsUntil_mono_of_apart (start : Instant) (apart : 1000000000 ≤ first.nanosecondsUntil second) :
    start.nanosecondsUntil first ≤ start.nanosecondsUntil second := by
  have part := first.nanosecond_lt
  have secondPart := second.nanosecond_lt
  have startPart := start.nanosecond_lt
  have between := nanosecondsUntil_cases first second
  have toFirst := nanosecondsUntil_cases start first
  have toSecond := nanosecondsUntil_cases start second
  simp only [InLeapSecond, clock] at *
  omega

/-- Without leap seconds the span does not get shorter when the end moves on. -/
theorem nanosecondsUntil_mono_of_ordinary (ordinary : ¬ start.InLeapSecond) (ordinaryFirst : ¬ first.InLeapSecond)
    (ordinarySecond : ¬ second.InLeapSecond) (ordered : first ≤ second) :
    start.nanosecondsUntil first ≤ start.nanosecondsUntil second := by
  rw [nanosecondsUntil_of_ordinary ordinary ordinaryFirst, nanosecondsUntil_of_ordinary ordinary ordinarySecond]
  exact Int.sub_le_sub_right (clock_mono ordered ordinaryFirst) _

/-- Back to an end that is not later, the span has at most the length of a leap second. -/
theorem nanosecondsUntil_le_of_le (reversed : finish ≤ start) : start.nanosecondsUntil finish < 1000000000 := by
  have bound := start.secondBound
  have finishBound := finish.secondBound
  have part := finish.nanosecond_lt
  have startPart := start.nanosecond_lt
  have cases := nanosecondsUntil_cases start finish
  simp only [InLeapSecond, clock, le_iff, rank] at *
  omega

/-- These are the whole units of a span, and none when the span is negative. -/
def unitsUntil (start : Instant) (unit : Nat) (finish : Instant) : Nat :=
  ((start.nanosecondsUntil finish).tdiv unit).toNat

section Units

variable {unit count : Nat}

/-- A span has so many whole units when it is so many units long. -/
theorem le_unitsUntil_iff (positive : 0 < unit) (someUnits : 1 ≤ count) :
    count ≤ start.unitsUntil unit finish ↔ count * unit ≤ start.nanosecondsUntil finish := by
  have counted : count ≤ start.unitsUntil unit finish ↔
      (count : Int) ≤ (start.nanosecondsUntil finish).tdiv unit := by
    unfold unitsUntil
    omega
  rw [counted]
  have unitPositive : (0 : Int) < unit := Int.natCast_pos.mpr positive
  rcases Int.lt_or_le (start.nanosecondsUntil finish) 0 with negative | forward
  · have opposite : 0 ≤ (-start.nanosecondsUntil finish).tdiv unit :=
      Int.tdiv_nonneg (by omega) (Int.le_of_lt unitPositive)
    rw [Int.neg_tdiv] at opposite
    have above : (0 : Int) < count * unit := Int.mul_pos (by omega) unitPositive
    omega
  · rw [Int.tdiv_eq_ediv_of_nonneg forward, Int.le_ediv_iff_mul_le unitPositive]

/-- A longer span has no fewer units. -/
theorem unitsUntil_mono (positive : 0 < unit)
    (longer : start.nanosecondsUntil first ≤ start.nanosecondsUntil second) :
    start.unitsUntil unit first ≤ start.unitsUntil unit second := by
  rcases Nat.eq_zero_or_pos (start.unitsUntil unit first) with none | some
  · rw [none]
    exact Nat.zero_le _
  · have reached := (le_unitsUntil_iff positive some).mp (Nat.le_refl _)
    exact (le_unitsUntil_iff positive some).mpr (Int.le_trans reached longer)

/-- A span that goes back has no units, even if a leap second is counted for it. -/
theorem unitsUntil_eq_zero (long : 1000000000 ≤ unit) (reversed : finish ≤ start) :
    start.unitsUntil unit finish = 0 := by
  have short := nanosecondsUntil_le_of_le reversed
  refine Nat.eq_zero_of_not_pos fun some => ?_
  have reached := (le_unitsUntil_iff (by omega) (Nat.le_refl 1)).mp some
  omega

/-- Spans are counted in units of a minute or more by fewer than 53 bits. -/
theorem unitsUntil_lt (long : 60000000000 ≤ unit) (start finish : Instant) :
    start.unitsUntil unit finish < 0x20000000000000 := by
  have bounds := nanosecondsUntil_bounds start finish
  refine Nat.lt_of_not_le fun many => ?_
  have reached := (le_unitsUntil_iff (by omega) (by decide)).mp many
  omega

end Units

end ContactRules.Calendar.Instant
