import MediaTypes.Number.Double
import MediaTypes.Proofs.Number.Rounding

/-!
# Decimals of binary numbers

A binary number is the one nearest to itself, so the exact decimal of a number stands for it. Hence
so does the shortest decimal, however early the search for it ends.

## Main statements

- `ofQuotient?_magnitude` — a number is the nearest one to itself
- `double?_shift` — the place of the zeros at the end of a coefficient does not matter
- `double?_shortest` — the shortest decimal of a number stands for it
-/

namespace MediaTypes

open Number (binaryDigits significantDigits nearest rounded surplus)

namespace Double

theorem fractionDigits_eq : fractionDigits = 1074 := by
  rw [fractionDigits]

theorem unitsPerOne_eq : unitsPerOne = 2 ^ fractionDigits :=
  rfl

theorem unitsPerOne_pos : 0 < unitsPerOne :=
  Nat.two_pow_pos fractionDigits

variable (x : Double)

theorem magnitude_eq : x.magnitude = x.mantissa * 2 ^ x.exponent :=
  rfl

theorem coefficient_exact : x.exact.coefficient = x.magnitude * 5 ^ fractionDigits :=
  rfl

/-- The digits of a number tell its exponent. -/
theorem binaryDigits_magnitude :
    binaryDigits x.magnitude - significantDigits = x.exponent := by
  have hvalid := x.valid
  have hlt : x.magnitude < 2 ^ (x.exponent + 52 + 1) := by
    rw [magnitude_eq, Nat.mul_comm, Nat.add_assoc, Nat.pow_add]
    exact Nat.mul_lt_mul_of_pos_left hvalid.mantissa_lt (Nat.two_pow_pos _)
  have hle := Number.binaryDigits_le hlt
  unfold binaryDigits significantDigits at *
  rcases hvalid.normal with hnormal | hzero
  · have hge : 2 ^ (x.exponent + 52) ≤ x.magnitude := by
      rw [magnitude_eq, Nat.mul_comm, Nat.pow_add]
      exact Nat.mul_le_mul_left _ hnormal
    have hne : x.magnitude ≠ 0 := Nat.ne_of_gt (Nat.lt_of_lt_of_le (Nat.two_pow_pos _) hge)
    have := (Nat.le_log2 hne).2 hge
    omega
  · omega

theorem ofMagnitude?_magnitude : ofMagnitude? x.negative x.magnitude = some x := by
  have hmantissa : x.magnitude / Nat.pow 2 x.exponent = x.mantissa :=
    Nat.mul_div_cancel _ (Nat.two_pow_pos _)
  simp only [ofMagnitude?, binaryDigits_magnitude, hmantissa, dif_pos x.valid]

/-- A number is the nearest one to itself. -/
theorem ofQuotient?_magnitude {d : Nat} (h : 0 < d) :
    ofQuotient? x.negative (x.magnitude * d) d = some x := by
  have hsurplus : surplus (x.magnitude * d) d = x.exponent := by
    rw [surplus, Nat.mul_div_cancel _ h, binaryDigits_magnitude]
  have hrounded : rounded (x.magnitude * d) d = x.magnitude := by
    rw [Number.rounded_eq, hsurplus]
    exact Number.roundedAt_mul h (Nat.dvd_mul_left _ _)
  rw [ofQuotient?, hrounded, ofMagnitude?_magnitude]

theorem ofQuotient?_mul_mul (negative : Bool) (n d : Nat) {c : Nat} (h : 0 < c) :
    ofQuotient? negative (n * c) (d * c) = ofQuotient? negative n d := by
  rw [ofQuotient?, Number.rounded_mul_mul n d h, ofQuotient?]

end Double

namespace Decimal

theorem double?_eq (negative : Bool) (d : Decimal) : d.double? negative =
    Double.ofQuotient? negative (d.coefficient * 10 ^ d.exponent.toNat * Double.unitsPerOne)
      (10 ^ (-d.exponent).toNat) :=
  rfl

/-- The exact decimal of a number stands for it. -/
theorem double?_exact (x : Double) : x.exact.double? x.negative = some x := by
  have hpower : 5 ^ Double.fractionDigits * Double.unitsPerOne = 10 ^ Double.fractionDigits :=
    (Nat.mul_pow 5 2 Double.fractionDigits).symm
  have hexponent : (-(Double.fractionDigits : Int)).toNat = 0 ∧
      (- -(Double.fractionDigits : Int)).toNat = Double.fractionDigits := by
    omega
  have hplaces : x.exact.exponent = -Double.fractionDigits := rfl
  rw [double?_eq, x.coefficient_exact, hplaces, hexponent.1, hexponent.2, Nat.pow_zero, Nat.mul_one,
    Nat.mul_assoc, hpower]
  exact x.ofQuotient?_magnitude (Nat.pow_pos (Nat.succ_pos 9))

/-- Zeros at the end of a coefficient may be moved to the exponent. -/
theorem double?_shift (negative : Bool) (coefficient zeros : Nat) (exponent : Int) :
    double? negative ⟨coefficient * 10 ^ zeros, exponent⟩ =
      double? negative ⟨coefficient, zeros + exponent⟩ := by
  have hten : ∀ k, 0 < 10 ^ k := fun k => Nat.pow_pos (Nat.succ_pos 9)
  simp only [double?_eq]
  by_cases hup : 0 ≤ exponent
  · have hexponent : (zeros + exponent).toNat = zeros + exponent.toNat := by omega
    have hdown : (-exponent).toNat = 0 ∧ (-(zeros + exponent)).toNat = 0 := by omega
    rw [hexponent, hdown.1, hdown.2, Nat.pow_add, Nat.mul_assoc coefficient]
  by_cases hdown : 0 ≤ zeros + exponent
  · -- the zeros are more than the places after the point
    have hzeros : zeros = (zeros + exponent).toNat + (-exponent).toNat := by omega
    have hexponent : exponent.toNat = 0 ∧ (-(zeros + exponent)).toNat = 0 := by omega
    rw [hexponent.1, hexponent.2, Nat.pow_zero, Nat.mul_one]
    conv => lhs; rw [hzeros, Nat.pow_add]
    rw [← Nat.mul_assoc, Nat.mul_right_comm,
      ← Double.ofQuotient?_mul_mul negative _ 1 (hten (-exponent).toNat), Nat.one_mul]
  · have hplaces : (-exponent).toNat = (-(zeros + exponent)).toNat + zeros := by omega
    have hexponent : exponent.toNat = 0 ∧ (zeros + exponent).toNat = 0 := by omega
    rw [hexponent.1, hexponent.2, hplaces, Nat.pow_add, Nat.pow_zero, Nat.mul_one, Nat.mul_one,
      Nat.mul_right_comm, Double.ofQuotient?_mul_mul negative _ _ (hten zeros)]

end Decimal

namespace Double

theorem double?_shortestFrom (x : Double) (fewer : Nat) :
    (x.shortestFrom fewer).double? x.negative = some x := by
  induction fewer with
  | zero => exact Decimal.double?_exact x
  | succ fewer ih =>
    rw [shortestFrom]
    cases hfind : (x.exact.neighbours (fewer + 1)).find? fun d => d.double? x.negative = some x with
    | none => exact ih
    | some d => simpa using List.find?_some hfind

/-- The shortest decimal of a number stands for it. -/
theorem double?_shortest (x : Double) : x.shortest.double? x.negative = some x :=
  x.double?_shortestFrom _

end Double

end MediaTypes
