import MediaTypes.Proofs.Number.Double
import MediaTypes.Time.Clock
import Mathlib.Tactic.NormNum

/-!
# Clock readings keep the order

A reading is a time that is rounded twice: to what the clock can give, and to a microsecond. Both
roundings keep the order, and how far they move a time depends on how many digits its whole seconds
take.

## Main statements

- `reading_mono` — a later time has no earlier reading
- `reading_eq_self` — near 1970 a reading keeps the time
- `natAbs_reading_sub_le` — through the year 9999 a reading is no more than 15 microseconds off
-/

namespace MediaTypes

namespace Time

open Number (nearest rounded surplus binaryDigits significantDigits nearest_mono rounded_mono
  two_mul_nearest two_mul_rounded binaryDigits_le)

theorem microsecondsPerSecond_pos : 0 < microsecondsPerSecond := by
  decide

theorem readingOfCount_mono : Monotone readingOfCount := by
  intro m n h
  apply nearest_mono
  apply Nat.mul_le_mul_right
  apply rounded_mono microsecondsPerSecond_pos
  exact Nat.mul_le_mul_right _ h

/-- A later time has no earlier reading. -/
theorem reading_mono {m n : Int} (h : m ≤ n) : reading m ≤ reading n := by
  simp only [reading]
  split
  · split
    · have := readingOfCount_mono (show n.natAbs ≤ m.natAbs by omega)
      omega
    · omega
  · rw [if_neg (show ¬ n < 0 by omega)]
    have := readingOfCount_mono (show m.natAbs ≤ n.natAbs by omega)
    omega

/-- The digits that a time of whole seconds below a power of two has too many. -/
theorem surplus_le {n k : Nat} (h : n < 2 ^ k * microsecondsPerSecond) :
    surplus (n * Double.unitsPerOne) microsecondsPerSecond ≤ k + 1021 := by
  have hdigits : k + Double.fractionDigits = k + 1073 + 1 := by
    rw [Double.fractionDigits_eq]
  have hquotient : n * Double.unitsPerOne / microsecondsPerSecond < 2 ^ (k + 1073 + 1) := by
    rw [Nat.div_lt_iff_lt_mul microsecondsPerSecond_pos]
    calc
      n * Double.unitsPerOne < 2 ^ k * microsecondsPerSecond * Double.unitsPerOne :=
        Nat.mul_lt_mul_of_pos_right h Double.unitsPerOne_pos
      _ = 2 ^ (k + 1073 + 1) * microsecondsPerSecond := by
        rw [Double.unitsPerOne_eq, Nat.mul_right_comm, ← Nat.pow_add, hdigits]
  have hdigits := binaryDigits_le hquotient
  unfold surplus significantDigits
  omega

/-- The two roundings move a time by half a step of the clock and by half a microsecond. -/
theorem two_mul_readingOfCount {n k : Nat} (h : n < 2 ^ k * microsecondsPerSecond) :
    2 * (n * Double.unitsPerOne) ≤ 2 * (readingOfCount n * Double.unitsPerOne) +
        (microsecondsPerSecond * 2 ^ (k + 1021) + Double.unitsPerOne) ∧
      2 * (readingOfCount n * Double.unitsPerOne) ≤ 2 * (n * Double.unitsPerOne) +
        (microsecondsPerSecond * 2 ^ (k + 1021) + Double.unitsPerOne) := by
  have hclock := two_mul_rounded microsecondsPerSecond_pos (surplus_le h)
  have hmicrosecond := two_mul_nearest
    (rounded (n * Double.unitsPerOne) microsecondsPerSecond * microsecondsPerSecond)
    Double.unitsPerOne_pos
  rw [readingOfCount]
  omega

/-- A reading is less than so many microseconds off. -/
theorem readingOfCount_near {n k c : Nat} (h : n < 2 ^ k * microsecondsPerSecond)
    (hstep : microsecondsPerSecond * 2 ^ (k + 1021) + Double.unitsPerOne <
      2 * (c * Double.unitsPerOne)) :
    n < readingOfCount n + c ∧ readingOfCount n < n + c := by
  obtain ⟨hlower, hupper⟩ := two_mul_readingOfCount h
  constructor
  · apply Nat.lt_of_mul_lt_mul_right (a := Double.unitsPerOne)
    rw [Nat.add_mul]
    omega
  · apply Nat.lt_of_mul_lt_mul_right (a := Double.unitsPerOne)
    rw [Nat.add_mul]
    omega

/-- Near 1970 a reading keeps the time: the whole seconds leave twenty digits or more for the
fraction, which tell the microseconds apart. -/
theorem reading_eq_self {n : Int} (h : n.natAbs < 2 ^ 33 * 1000000) : reading n = n := by
  have hstep : microsecondsPerSecond * 2 ^ (33 + 1021) + Double.unitsPerOne <
      2 * (1 * Double.unitsPerOne) := by
    decide +kernel
  have hnear := readingOfCount_near h hstep
  rw [reading]
  split <;> omega

/-- Up to 2 ^ 38 seconds from 1970, which is beyond the year 9999, fifteen digits or more are left
for the fraction. -/
theorem natAbs_reading_sub_le {n : Int} (h : n.natAbs < 2 ^ 38 * 1000000) :
    (reading n - n).natAbs ≤ 15 := by
  have hstep : microsecondsPerSecond * 2 ^ (38 + 1021) + Double.unitsPerOne <
      2 * (16 * Double.unitsPerOne) := by
    decide +kernel
  have hnear := readingOfCount_near h hstep
  rw [reading]
  split <;> omega

end Time

end MediaTypes
