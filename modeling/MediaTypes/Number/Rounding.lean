/-!
# Rounding to binary digits

A quotient of natural numbers is rounded to the nearest whole number, a half to the even neighbour.
To keep 53 binary digits of it, it is rounded to a multiple of a power of two: of the least one at
which no more digits are left.

## Main definitions

- `Number.nearest` — a quotient, rounded to a whole number
- `Number.binaryDigits` — the digits that a number takes
- `Number.rounded` — a quotient, rounded to 53 digits

## Main statements

- `two_mul_nearest` — rounding moves a quotient by at most one half
- `binaryDigits_le` — a number below a power of two takes no more digits than the exponent says
-/

namespace MediaTypes

namespace Number

/-- The whole number nearest to the quotient of `n` and a positive `d`; a half goes to the even
neighbour. -/
def nearest (n d : Nat) : Nat :=
  let below := n / d
  let twice := 2 * (n % d)
  if twice < d then below
  else if d < twice then below + 1
  else if below % 2 = 0 then below
  else below + 1

/-- Rounding moves a quotient by at most one half. -/
theorem two_mul_nearest (n : Nat) {d : Nat} (h : 0 < d) :
    2 * n ≤ 2 * (nearest n d * d) + d ∧ 2 * (nearest n d * d) ≤ 2 * n + d := by
  have split_n : n / d * d + n % d = n := Nat.div_add_mod' n d
  have upper := Nat.mod_lt n h
  have next : (n / d + 1) * d = n / d * d + d := Nat.succ_mul (n / d) d
  simp only [nearest]
  split
  · omega
  · split
    · rw [next]
      omega
    · split
      · omega
      · rw [next]
        omega

/-- The significant binary digits that are kept of a number. -/
def significantDigits : Nat := 53

/-- The binary digits that a number takes, at least one. -/
def binaryDigits (n : Nat) : Nat :=
  n.log2 + 1

/-- A number below a power of two takes no more digits than the exponent says. -/
theorem binaryDigits_le {n k : Nat} (h : n < Nat.pow 2 (k + 1)) : binaryDigits n ≤ k + 1 := by
  unfold binaryDigits
  by_cases zero : n = 0
  · rw [zero]
    simp
  · exact (Nat.log2_lt zero).2 h

/-- The digits of a quotient before the point that are too many. -/
def surplus (n d : Nat) : Nat :=
  binaryDigits (n / d) - significantDigits

/-- The quotient of `n` and a positive `d`, rounded to a whole number that takes 53 digits and has
zeros after them. -/
def rounded (n d : Nat) : Nat :=
  nearest n (d * Nat.pow 2 (surplus n d)) * Nat.pow 2 (surplus n d)

end Number

end MediaTypes
