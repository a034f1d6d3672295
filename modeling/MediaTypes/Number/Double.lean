import MediaTypes.Number.Rounding

/-!
# Binary numbers

A binary number has a sign, 53 significant digits and an exponent of limited range. Its magnitude is
counted in units of the smallest positive number, `2 ^ -1074`. A decimal numeral stands for the
nearest such number, unless it is too large for all of them. A number is shown by the shortest
decimal that stands for it; of two with equally many digits, by the nearer one.

## Main definitions

- `Double` — a binary number
- `Double.ofQuotient?` — the number nearest to a quotient
- `Decimal` — a whole number times a power of ten
- `Decimal.double?` — the number that a decimal stands for
- `Double.shortest` — the shortest decimal that stands for a number
-/

namespace MediaTypes

open Number (binaryDigits significantDigits nearest rounded)

/-- The binary digits after the point of the smallest positive number. Powers of so high an exponent
are not to be evaluated by accident. -/
@[irreducible] def Double.fractionDigits : Nat := 1074

/-- The units of which the number one consists. -/
def Double.unitsPerOne : Nat := Nat.pow 2 fractionDigits

/-- The digits and the exponent are in range, and the digits are all used where they can be. -/
structure Double.Valid (mantissa exponent : Nat) : Prop where
  mantissa_lt : mantissa < Nat.pow 2 53
  exponent_le : exponent ≤ 2045
  normal : Nat.pow 2 52 ≤ mantissa ∨ exponent = 0

instance (mantissa exponent : Nat) : Decidable (Double.Valid mantissa exponent) :=
  decidable_of_iff
    (mantissa < Nat.pow 2 53 ∧ exponent ≤ 2045 ∧ (Nat.pow 2 52 ≤ mantissa ∨ exponent = 0))
    ⟨fun ⟨hmantissa, hexponent, hnormal⟩ => ⟨hmantissa, hexponent, hnormal⟩,
      fun ⟨hmantissa, hexponent, hnormal⟩ => ⟨hmantissa, hexponent, hnormal⟩⟩

/-- A finite binary number of double precision. There is a zero of either sign. -/
structure Double where
  negative : Bool
  mantissa : Nat
  /-- The exponent of two, of which `2 ^ 0` is one unit. -/
  exponent : Nat
  valid : Double.Valid mantissa exponent
  deriving DecidableEq

/-- A coefficient times a power of ten. -/
structure Decimal where
  coefficient : Nat
  exponent : Int
  deriving DecidableEq

namespace Double

/-- The units of which a number consists, apart from its sign. -/
def magnitude (x : Double) : Nat :=
  x.mantissa * Nat.pow 2 x.exponent

/-- The number of so many units, if they take no more than 53 digits before the zeros. -/
def ofMagnitude? (negative : Bool) (units : Nat) : Option Double :=
  let exponent := binaryDigits units - significantDigits
  if h : Valid (units / Nat.pow 2 exponent) exponent then some ⟨negative, _, exponent, h⟩
  else none

/-- The number nearest to `n / d` units, if it is not too large. -/
def ofQuotient? (negative : Bool) (n d : Nat) : Option Double :=
  ofMagnitude? negative (rounded n d)

/-- The decimal that is a number, with all its digits. -/
def exact (x : Double) : Decimal where
  coefficient := x.magnitude * Nat.pow 5 fractionDigits
  exponent := -fractionDigits

end Double

namespace Decimal

/-- The number that a decimal stands for: the nearest one, if it is not too large. -/
def double? (negative : Bool) (d : Decimal) : Option Double :=
  Double.ofQuotient? negative (d.coefficient * Nat.pow 10 d.exponent.toNat * Double.unitsPerOne)
    (Nat.pow 10 (-d.exponent).toNat)

/-- The decimals of so many digits less between which a decimal lies, the nearer one first. -/
def neighbours (d : Decimal) (fewer : Nat) : List Decimal :=
  let below := d.coefficient / Nat.pow 10 fewer
  let above := below + 1
  let coefficients :=
    if nearest d.coefficient (Nat.pow 10 fewer) = below then [below, above] else [above, below]
  coefficients.map fun c => ⟨c, d.exponent + fewer⟩

end Decimal

namespace Double

/-- The first decimal that stands for a number, among those of so many digits less than its exact
one, one digit less than that, and so on up to the exact one. -/
def shortestFrom (x : Double) : (fewer : Nat) → Decimal
  | 0 => x.exact
  | fewer + 1 =>
    ((x.exact.neighbours (fewer + 1)).find? fun d => d.double? x.negative = some x).getD
      (x.shortestFrom fewer)

/-- The shortest decimal that stands for a number. -/
def shortest (x : Double) : Decimal :=
  x.shortestFrom (Nat.toDigits 10 x.exact.coefficient).length

end Double

end MediaTypes
