import MediaTypes.Number.Rounding
import Mathlib.Algebra.Order.Monoid.Canonical.Defs
import Mathlib.Order.Monotone.Basic
import Mathlib.Tactic.Ring

/-!
# Rounding keeps the order

How coarse the rounding to 53 digits is depends on the size of what is rounded. The order is kept
all the same: where the rounding gets coarser there is a number that both the finer and the coarser
one leave alone.

## Main statements

- `nearest_mono`, `rounded_mono` — a larger number is not rounded to a smaller one
- `rounded_mul_mul` — what is rounded is the quotient, however it is written
- `two_mul_rounded` — how far a number of so many digits is moved
-/

namespace MediaTypes

namespace Number

variable {m n d k : Nat}

theorem nearest_mul (n : Nat) (h : 0 < d) : nearest (n * d) d = n := by
  simp [nearest, Nat.mul_div_cancel n h, h]

/-- A common factor does not matter. -/
theorem nearest_mul_mul (n d : Nat) {c : Nat} (h : 0 < c) :
    nearest (n * c) (d * c) = nearest n d := by
  have hrest : 2 * (n % d * c) = 2 * (n % d) * c := (Nat.mul_assoc 2 (n % d) c).symm
  simp only [nearest, Nat.mul_div_mul_right n d h, Nat.mul_mod_mul_right, hrest,
    Nat.mul_lt_mul_right h]

/-- A quotient is rounded down or up. -/
theorem le_nearest (n d : Nat) : n / d ≤ nearest n d ∧ nearest n d ≤ n / d + 1 := by
  simp only [nearest]
  split
  · omega
  · split
    · omega
    · split <;> omega

theorem nearest_mono (d : Nat) : Monotone fun n => nearest n d := by
  intro m n h
  have hquotient : m / d ≤ n / d := Nat.div_le_div_right h
  rcases Nat.lt_or_eq_of_le hquotient with hlt | heq
  · have := (le_nearest m d).2
    have := (le_nearest n d).1
    simp only
    omega
  · -- one quotient, so the rests decide
    have hrest : m % d ≤ n % d := by
      have hm := Nat.div_add_mod m d
      have hn := Nat.div_add_mod n d
      rw [heq] at hm
      omega
    simp only [nearest, heq]
    grind

/-- The quotient, rounded to a multiple of a given power of two. -/
def roundedAt (surplus d n : Nat) : Nat :=
  nearest n (d * 2 ^ surplus) * 2 ^ surplus

theorem rounded_eq (n d : Nat) : rounded n d = roundedAt (surplus n d) d n :=
  rfl

theorem roundedAt_mono (surplus d : Nat) : Monotone (roundedAt surplus d) := by
  intro m n h
  exact Nat.mul_le_mul_right _ (nearest_mono _ h)

/-- A multiple of the power of two stays as it is. -/
theorem roundedAt_mul (hd : 0 < d) {surplus units : Nat} (h : 2 ^ surplus ∣ units) :
    roundedAt surplus d (units * d) = units := by
  obtain ⟨q, rfl⟩ := h
  have hpos : 0 < d * 2 ^ surplus := Nat.mul_pos hd (Nat.two_pow_pos surplus)
  have hfactor : 2 ^ surplus * q * d = q * (d * 2 ^ surplus) := by ring
  rw [roundedAt, hfactor, nearest_mul q hpos, Nat.mul_comm]

/-- Where one quotient has more digits than another, a power of two lies between them. -/
theorem exists_pow_between (h : surplus m d < surplus n d) :
    ∃ k, surplus m d ≤ k ∧ surplus n d ≤ k ∧ m / d < 2 ^ k ∧ 2 ^ k ≤ n / d := by
  unfold surplus binaryDigits significantDigits at *
  have hn : n / d ≠ 0 := by
    intro hzero
    rw [hzero] at h
    simp at h
  refine ⟨(n / d).log2, by omega, by omega, ?_, (Nat.le_log2 hn).1 (Nat.le_refl _)⟩
  by_cases hm : m / d = 0
  · rw [hm]
    exact Nat.two_pow_pos _
  · exact (Nat.log2_lt hm).1 (by omega)

theorem surplus_mono (d : Nat) (h : m ≤ n) : surplus m d ≤ surplus n d := by
  have hquotient : m / d ≤ n / d := Nat.div_le_div_right h
  have hlog : (m / d).log2 ≤ (n / d).log2 := by
    by_cases hm : m / d = 0
    · rw [hm]
      simp
    · have hn : n / d ≠ 0 := Nat.ne_of_gt (Nat.lt_of_lt_of_le (Nat.pos_of_ne_zero hm) hquotient)
      exact (Nat.le_log2 hn).2 (Nat.le_trans (Nat.log2_self_le hm) hquotient)
  unfold surplus binaryDigits
  omega

/-- A larger number is not rounded to a smaller one. -/
theorem rounded_mono (hd : 0 < d) : Monotone fun n => rounded n d := by
  intro m n h
  simp only [rounded_eq]
  rcases Nat.lt_or_eq_of_le (surplus_mono d h) with hlt | heq
  · obtain ⟨k, hm, hn, hlower, hupper⟩ := exists_pow_between hlt
    rw [Nat.div_lt_iff_lt_mul hd] at hlower
    rw [Nat.le_div_iff_mul_le hd] at hupper
    calc
      roundedAt (surplus m d) d m ≤ roundedAt (surplus m d) d (2 ^ k * d) :=
        roundedAt_mono _ d (Nat.le_of_lt hlower)
      _ = 2 ^ k := roundedAt_mul hd (Nat.pow_dvd_pow 2 hm)
      _ = roundedAt (surplus n d) d (2 ^ k * d) := (roundedAt_mul hd (Nat.pow_dvd_pow 2 hn)).symm
      _ ≤ roundedAt (surplus n d) d n := roundedAt_mono _ d hupper
  · rw [heq]
    exact roundedAt_mono _ d h

/-- What is rounded is the quotient, however it is written. -/
theorem rounded_mul_mul (n d : Nat) {c : Nat} (h : 0 < c) :
    rounded (n * c) (d * c) = rounded n d := by
  have hsurplus : surplus (n * c) (d * c) = surplus n d := by
    rw [surplus, Nat.mul_div_mul_right n d h, surplus]
  have hfactor : d * c * 2 ^ surplus n d = d * 2 ^ surplus n d * c := Nat.mul_right_comm _ _ _
  rw [rounded_eq, rounded_eq, hsurplus, roundedAt, hfactor, nearest_mul_mul _ _ h, roundedAt]

/-- A quotient whose whole part takes no more than `53 + k` digits is moved by at most half of
`2 ^ k`. -/
theorem two_mul_rounded (hd : 0 < d) (h : surplus n d ≤ k) :
    2 * n ≤ 2 * (rounded n d * d) + d * 2 ^ k ∧ 2 * (rounded n d * d) ≤ 2 * n + d * 2 ^ k := by
  have hpos : 0 < d * 2 ^ surplus n d := Nat.mul_pos hd (Nat.two_pow_pos _)
  have hbounds := two_mul_nearest n hpos
  have hstep : d * 2 ^ surplus n d ≤ d * 2 ^ k :=
    Nat.mul_le_mul_left d (Nat.pow_le_pow_right (Nat.succ_pos 1) h)
  have hfactor : nearest n (d * 2 ^ surplus n d) * (d * 2 ^ surplus n d) = rounded n d * d := by
    rw [rounded_eq, roundedAt]
    ring
  rw [hfactor] at hbounds
  omega

end Number

end MediaTypes
