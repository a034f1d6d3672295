/-!
# Numerals of fixed width

A number is written with a given count of digits in a given base: the lowest digits of its
numeral, with zeros in front where it has fewer.

## Main definitions

- `Text.fixedDigits` — the numeral of fixed width

## Main statements

- `length_fixedDigits` — the numeral has the given width
- `mem_fixedDigits` — every character is the digit of a number below the base
-/

namespace MediaTypes

namespace Text

/-- The lowest digits of a number in a base up to sixteen, as many as `width` says, highest
first; digits above nine are small letters. -/
def fixedDigits (base : Nat) : (width : Nat) → Nat → List Char
  | 0, _ => []
  | width + 1, n => fixedDigits base width (n / base) ++ [Nat.digitChar (n % base)]

@[simp] theorem length_fixedDigits (base width n : Nat) :
    (fixedDigits base width n).length = width := by
  induction width generalizing n with
  | zero => rfl
  | succ width ih => simp [fixedDigits, ih]

/-- Every character of the numeral is the digit of a number below the base. -/
theorem mem_fixedDigits {base width n : Nat} (hb : 0 < base) {c : Char}
    (h : c ∈ fixedDigits base width n) : ∃ d < base, c = Nat.digitChar d := by
  induction width generalizing n with
  | zero => simp [fixedDigits] at h
  | succ width ih =>
    rw [fixedDigits, List.mem_append, List.mem_singleton] at h
    rcases h with h | rfl
    · exact ih h
    · exact ⟨n % base, Nat.mod_lt n hb, rfl⟩

end Text

end MediaTypes
