import MediaTypes.Number.Double

/-!
# Decimal numerals

A numeral has digits, perhaps with a point and more digits after it, and perhaps with an exponent of
ten. A binary number is written by its shortest decimal: with an exponent if it is very large or
very small, and otherwise with at least one digit on either side of the point.

## Main definitions

- `Numeral` — the parts of a numeral
- `Numeral.decimal` — the decimal that a numeral writes
- `Numeral.chars` — the characters of a numeral
- `Double.numeral` — the numeral of a binary number
-/

namespace MediaTypes

/-- The parts of a numeral without a sign. -/
structure Numeral where
  /-- The digits before the point. -/
  whole : List Char
  /-- The digits after the point; there is no point if there are none. -/
  fraction : List Char
  exponent : Option Int

namespace Numeral

/-- The numeral has neither a point nor an exponent. -/
def isWhole (n : Numeral) : Bool :=
  n.fraction.isEmpty && n.exponent.isNone

/-- The decimal that a numeral writes. -/
def decimal (n : Numeral) : Decimal where
  coefficient := Nat.ofDigitChars 10 (n.whole ++ n.fraction) 0
  exponent := n.exponent.getD 0 - n.fraction.length

def fractionChars (fraction : List Char) : List Char :=
  if fraction = [] then [] else '.' :: fraction

/-- An exponent has a sign and at least two digits. -/
def exponentChars : Option Int → List Char
  | none => []
  | some e =>
    let digits := Nat.toDigits 10 e.natAbs
    'e' :: (if e < 0 then '-' else '+') ::
      (if digits.length < 2 then '0' :: digits else digits)

def chars (n : Numeral) : List Char :=
  n.whole ++ fractionChars n.fraction ++ exponentChars n.exponent

end Numeral

namespace Double

/-- The digits without the zeros at their end. -/
def significant (digits : List Char) : List Char :=
  (digits.reverse.dropWhile (· == '0')).reverse

/-- Writes digits where the point stands so many places after the first one, or before it. -/
def numeralOf (digits : List Char) (point : Int) : Numeral :=
  if point ≤ -4 ∨ 16 < point then ⟨digits.take 1, digits.drop 1, some (point - 1)⟩
  else if point ≤ 0 then ⟨['0'], List.replicate (-point).toNat '0' ++ digits, none⟩
  else if point < digits.length then ⟨digits.take point.toNat, digits.drop point.toNat, none⟩
  else ⟨digits ++ List.replicate (point.toNat - digits.length) '0', ['0'], none⟩

/-- The numeral of a number, apart from its sign. -/
def numeral (x : Double) : Numeral :=
  let digits := Nat.toDigits 10 x.shortest.coefficient
  if x.mantissa = 0 then ⟨['0'], ['0'], none⟩
  else numeralOf (significant digits) (digits.length + x.shortest.exponent)

/-- The characters of a number, after a minus sign if it is negative. -/
def chars (x : Double) : List Char :=
  if x.negative then '-' :: x.numeral.chars else x.numeral.chars

end Double

end MediaTypes
