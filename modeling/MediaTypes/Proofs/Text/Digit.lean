import MediaTypes.Proofs.Text.Blank
import MediaTypes.Text.Ascii
import MediaTypes.Text.Digit
import Mathlib.Algebra.Group.Nat.Defs

/-!
# Numerals in base ten

A decimal digit of any script is worth less than ten, so a numeral is bounded by its length. The
numeral that is written for a number in ASCII digits is read as that number.

## Main statements

- `decimalNumeral_lt` — a numeral is below the power of ten that has its length as exponent
- `decimalNumeral_toDigits` — what is written for a number is read as that number
- `length_toDigits_decimalNumeral_le` — what is written for the number of a numeral is no longer
- `toDigits_ne_zero_cons` — what is written for a number has no zero in front
-/

namespace MediaTypes

namespace Text

variable {c : Char} {cs : List Char}

theorem decimalValue?_lt {value : Nat} (h : decimalValue? c = some value) : value < 10 := by
  rw [decimalValue?, Option.map_eq_some_iff] at h
  obtain ⟨first, hfirst, rfl⟩ := h
  have hrange := List.find?_some hfirst
  simp only [Bool.and_eq_true, decide_eq_true_eq] at hrange
  omega

theorem decimalNumeral_concat (cs : List Char) (c : Char) :
    decimalNumeral (cs ++ [c]) = 10 * decimalNumeral cs + (decimalValue? c).getD 0 := by
  rw [decimalNumeral, List.foldl_concat, ← decimalNumeral]

/-- A numeral is below the power of ten that has its length as exponent. -/
theorem decimalNumeral_lt (cs : List Char) : decimalNumeral cs < 10 ^ cs.length := by
  induction cs using List.reverseRecOn with
  | nil => exact Nat.one_pos
  | append_singleton cs c ih =>
    have hdigit : (decimalValue? c).getD 0 < 10 := by
      cases hvalue : decimalValue? c with
      | none => exact Nat.succ_pos 9
      | some value => exact decimalValue?_lt hvalue
    rw [decimalNumeral_concat, List.length_append, List.length_singleton, Nat.pow_succ]
    omega

theorem toNat_lt_of_isDigit (h : c.isDigit = true) : c.toNat < 128 := by
  have hle : c.toNat ≤ 57 := by
    simp only [Char.isDigit, Bool.and_eq_true, decide_eq_true_eq] at h
    exact h.2
  omega

/-- The ASCII digits are decimal digits. -/
theorem decimalValue?_of_isDigit (h : c.isDigit = true) :
    decimalValue? c = some (c.toNat - '0'.toNat) := by
  have htable := all_ascii
    (p := fun c => !c.isDigit || decimalValue? c == some (c.toNat - '0'.toNat))
    (by decide +kernel) (toNat_lt_of_isDigit h)
  simpa [h] using htable

theorem isDecimalDigit_of_isDigit (h : c.isDigit = true) : isDecimalDigit c = true := by
  rw [isDecimalDigit, decimalValue?_of_isDigit h, Option.isSome_some]

theorem isBlank_of_isDigit (h : c.isDigit = true) : isBlank c = false := by
  have htable := all_ascii (p := fun c => !c.isDigit || !isBlank c) (by decide +kernel)
    (toNat_lt_of_isDigit h)
  simpa [h] using htable

theorem isDigit_of_mem_toDigits {n : Nat} (h : c ∈ Nat.toDigits 10 n) : c.isDigit = true :=
  Nat.isDigit_of_mem_toDigits (Nat.succ_pos 9) (Nat.le_refl 10) h

theorem isDecimalDigit_of_mem_toDigits {n : Nat} (h : c ∈ Nat.toDigits 10 n) :
    isDecimalDigit c = true :=
  isDecimalDigit_of_isDigit (isDigit_of_mem_toDigits h)

theorem trimmed_toDigits (n : Nat) : Trimmed (Nat.toDigits 10 n) := by
  apply trimmed_of_any_eq_false
  rw [List.any_eq_false]
  intro c hc
  rw [isBlank_of_isDigit (isDigit_of_mem_toDigits hc)]
  exact Bool.false_ne_true

/-- Numerals of ASCII digits are read as by the core library. -/
theorem decimalNumeral_eq_ofDigitChars (h : ∀ c ∈ cs, c.isDigit = true) :
    decimalNumeral cs = Nat.ofDigitChars 10 cs 0 := by
  induction cs using List.reverseRecOn with
  | nil => rfl
  | append_singleton cs c ih =>
    rw [List.forall_mem_append, List.forall_mem_singleton] at h
    rw [decimalNumeral_concat, ih h.1, decimalValue?_of_isDigit h.2, Option.getD_some,
      Nat.ofDigitChars_append, Nat.ofDigitChars_cons, Nat.ofDigitChars_nil]

/-- What is written for a number is read as that number. -/
theorem decimalNumeral_toDigits (n : Nat) : decimalNumeral (Nat.toDigits 10 n) = n := by
  rw [decimalNumeral_eq_ofDigitChars fun c hc => isDigit_of_mem_toDigits hc,
    Nat.ofDigitChars_ten_toDigits]

/-- What is written for the number of a numeral is no longer than the numeral. -/
theorem length_toDigits_decimalNumeral_le (h : cs ≠ []) :
    (Nat.toDigits 10 (decimalNumeral cs)).length ≤ cs.length :=
  (Nat.length_toDigits_le_iff (by decide) (List.length_pos_iff.2 h)).2 (decimalNumeral_lt cs)

/-- The numeral of a number does not start with a zero that other digits follow. -/
theorem toDigits_ne_zero_cons (n : Nat) (c : Char) (cs : List Char) :
    Nat.toDigits 10 n ≠ '0' :: c :: cs := by
  intro h
  have hdigits : ∀ d ∈ c :: cs, d.isDigit = true := by
    intro d hd
    apply isDigit_of_mem_toDigits (n := n)
    rw [h]
    exact List.mem_cons_of_mem _ hd
  have hvalue : decimalNumeral (c :: cs) = n := by
    rw [decimalNumeral_eq_ofDigitChars hdigits, ← Nat.ofDigitChars_ten_toDigits (n := n), h]
    rfl
  -- without the zero there is a shorter numeral of the same value
  have hlength := length_toDigits_decimalNumeral_le (List.cons_ne_nil c cs)
  rw [hvalue, h] at hlength
  simp only [List.length_cons] at hlength
  omega

/-- The numeral of a positive number does not start with a zero. -/
theorem toDigits_ne_zero_cons_of_ne {n : Nat} (h : n ≠ 0) (cs : List Char) :
    Nat.toDigits 10 n ≠ '0' :: cs := by
  intro hdigits
  cases cs with
  | cons c cs => exact toDigits_ne_zero_cons n c cs hdigits
  | nil =>
    apply h
    rw [← Nat.ofDigitChars_ten_toDigits (n := n), hdigits]
    rfl

end Text

end MediaTypes
