import MediaTypes.Number.Numeral
import MediaTypes.Proofs.Number.Double
import MediaTypes.Proofs.Text.Digit

/-!
# Numerals of binary numbers

Wherever the point of a numeral stands, and whether it has an exponent or not, it writes the
shortest decimal of the number it is made for, and so it stands for that number.

## Main definitions

- `Numeral.Valid` — a numeral of digits, with some before the point and no zero in front of them

## Main statements

- `valid_numeral` — the numeral of a number has this form, and shows that it is no integer
- `double?_numeral` — the numeral of a number stands for it
-/

namespace MediaTypes

/-- The numeral consists of digits; some of them stand before the point, and these do not start with
a zero that others follow. -/
structure Numeral.Valid (n : Numeral) : Prop where
  whole : ∀ c ∈ n.whole, c.isDigit = true
  fraction : ∀ c ∈ n.fraction, c.isDigit = true
  whole_ne_nil : n.whole ≠ []
  whole_ne_zero_cons : ∀ c cs, n.whole ≠ '0' :: c :: cs

namespace Double

/-- Nothing but zeros are left out. -/
theorem exists_eq_significant_append (digits : List Char) :
    ∃ zeros, digits = significant digits ++ List.replicate zeros '0' := by
  refine ⟨(digits.reverse.takeWhile (· == '0')).length, ?_⟩
  have hzeros : digits.reverse.takeWhile (· == '0') =
      List.replicate (digits.reverse.takeWhile (· == '0')).length '0' := by
    apply List.eq_replicate_of_mem
    intro c hc
    simpa using List.mem_takeWhile_imp hc
  rw [significant, ← List.reverse_replicate, ← hzeros, ← List.reverse_append,
    List.takeWhile_append_dropWhile, List.reverse_reverse]

theorem ofDigitChars_append_zeros (digits : List Char) (zeros : Nat) :
    Nat.ofDigitChars 10 (digits ++ List.replicate zeros '0') 0 =
      Nat.ofDigitChars 10 digits 0 * 10 ^ zeros := by
  rw [Nat.ofDigitChars_append, Nat.ofDigitChars_replicate_zero, Nat.mul_comm]

theorem ofDigitChars_zeros_append (zeros : Nat) (digits : List Char) :
    Nat.ofDigitChars 10 (List.replicate zeros '0' ++ digits) 0 = Nat.ofDigitChars 10 digits 0 := by
  rw [Nat.ofDigitChars_append, Nat.ofDigitChars_replicate_zero, Nat.mul_zero]

/-- Wherever the point stands, the digits count from there. -/
theorem double?_numeralOf (negative : Bool) {digits : List Char} (h : digits ≠ []) (point : Int) :
    (numeralOf digits point).decimal.double? negative =
      Decimal.double? negative ⟨Nat.ofDigitChars 10 digits 0, point - digits.length⟩ := by
  have hlength : 0 < digits.length := List.length_pos_iff.2 h
  unfold numeralOf
  split
  · have hexponent : point - 1 - ((digits.drop 1).length : Int) = point - digits.length := by
      rw [List.length_drop]
      omega
    simp only [Numeral.decimal, List.take_append_drop, Option.getD_some, hexponent]
  split
  · -- the zeros between the point and the digits are worth nothing
    have hexponent : (0 : Int) -
        ((List.replicate (-point).toNat '0' ++ digits).length : Int) = point - digits.length := by
      rw [List.length_append, List.length_replicate]
      omega
    have hvalue : Nat.ofDigitChars 10 (['0'] ++ (List.replicate (-point).toNat '0' ++ digits)) 0 =
        Nat.ofDigitChars 10 digits 0 := by
      rw [← List.replicate_one, ofDigitChars_zeros_append, ofDigitChars_zeros_append]
    simp only [Numeral.decimal, Option.getD_none, hvalue, hexponent]
  split
  · have hexponent : (0 : Int) - ((digits.drop point.toNat).length : Int) =
        point - digits.length := by
      rw [List.length_drop]
      omega
    simp only [Numeral.decimal, List.take_append_drop, Option.getD_none, hexponent]
  · -- the zeros after the digits make up for the place after the point
    have hexponent : ((point.toNat - digits.length + 1 : Nat) : Int) + (0 - 1) =
        point - digits.length := by
      omega
    have hzeros : digits ++ List.replicate (point.toNat - digits.length) '0' ++ ['0'] =
        digits ++ List.replicate (point.toNat - digits.length + 1) '0' := by
      rw [List.append_assoc, List.replicate_succ']
    simp only [Numeral.decimal, Option.getD_none, hzeros, ofDigitChars_append_zeros,
      List.length_singleton, Nat.cast_one, Decimal.double?_shift, hexponent]

theorem double?_zero (negative : Bool) (exponent : Int) :
    Decimal.double? negative ⟨0, exponent⟩ = ofMagnitude? negative 0 := by
  have hrounded : ∀ d, Number.rounded 0 d = 0 := fun d => by
    simp [Number.rounded, Number.nearest]
  simp only [Decimal.double?, Nat.zero_mul, ofQuotient?, hrounded]

variable {x : Double}

theorem coefficient_shortest_ne_zero (h : x.mantissa ≠ 0) : x.shortest.coefficient ≠ 0 := by
  have hshortest := x.double?_shortest
  cases hdecimal : x.shortest with
  | mk coefficient exponent =>
    rintro rfl
    rw [hdecimal, double?_zero, ofMagnitude?] at hshortest
    split at hshortest
    · have hmantissa := congrArg mantissa (Option.some.inj hshortest)
      exact h (hmantissa.symm.trans (Nat.zero_div _))
    · cases hshortest

/-- The digits of a number other than zero start with one that is no zero. -/
theorem significant_ne_nil_and_ne_zero_cons {n : Nat} (h : n ≠ 0) :
    significant (Nat.toDigits 10 n) ≠ [] ∧
      ∀ cs, significant (Nat.toDigits 10 n) ≠ '0' :: cs := by
  obtain ⟨zeros, hdigits⟩ := exists_eq_significant_append (Nat.toDigits 10 n)
  constructor
  · intro hnil
    apply h
    rw [← Nat.ofDigitChars_ten_toDigits (n := n), hdigits, hnil, ofDigitChars_append_zeros,
      Nat.ofDigitChars_nil, Nat.zero_mul]
  · intro cs hcons
    rw [hcons, List.cons_append] at hdigits
    exact Text.toDigits_ne_zero_cons_of_ne h _ hdigits

theorem isDigit_of_mem_significant {n : Nat} {c : Char}
    (h : c ∈ significant (Nat.toDigits 10 n)) : c.isDigit = true := by
  obtain ⟨zeros, hdigits⟩ := exists_eq_significant_append (Nat.toDigits 10 n)
  apply Text.isDigit_of_mem_toDigits (n := n)
  rw [hdigits]
  exact List.mem_append_left _ h

/-- Digits of which the first one is no zero make up a numeral, wherever the point stands. -/
theorem valid_numeralOf {digits : List Char} (hdigits : ∀ c ∈ digits, c.isDigit = true)
    (hne : digits ≠ []) (hzero : ∀ cs, digits ≠ '0' :: cs) (point : Int) :
    (numeralOf digits point).Valid ∧ (numeralOf digits point).isWhole = false := by
  have hzeros : ∀ k, ∀ c ∈ List.replicate k '0', c.isDigit = true := by
    intro k c hc
    rw [List.eq_of_mem_replicate hc]
    rfl
  obtain ⟨first, rest, rfl⟩ := List.exists_cons_of_ne_nil hne
  have hfirst : first ≠ '0' := by
    rintro rfl
    exact hzero rest rfl
  have htake : ∀ k, ∀ c ∈ (first :: rest).take k, c.isDigit = true :=
    fun k c hc => hdigits c (List.mem_of_mem_take hc)
  have hdrop : ∀ k, ∀ c ∈ (first :: rest).drop k, c.isDigit = true :=
    fun k c hc => hdigits c (List.mem_of_mem_drop hc)
  have hlead : ∀ more c cs, first :: more ≠ '0' :: c :: cs :=
    fun more c cs heq => hfirst (List.cons.inj heq).1
  unfold numeralOf
  split
  · exact ⟨⟨htake 1, hdrop 1, List.cons_ne_nil _ _, hlead _⟩, by simp [Numeral.isWhole]⟩
  split
  · refine ⟨⟨?_, ?_, List.cons_ne_nil _ _, ?_⟩, ?_⟩
    · exact List.forall_mem_singleton.2 rfl
    · exact List.forall_mem_append.2 ⟨hzeros _, hdigits⟩
    · exact fun c cs => nofun
    · simp [Numeral.isWhole]
  split
  · rename_i hpoint _
    obtain ⟨k, hk⟩ : ∃ k, point.toNat = k + 1 := ⟨point.toNat - 1, by omega⟩
    have hleft : (first :: rest).drop point.toNat ≠ [] := by
      rw [Ne, List.drop_eq_nil_iff]
      omega
    refine ⟨⟨htake _, hdrop _, ?_, ?_⟩, by simp [Numeral.isWhole, hleft]⟩
    · rw [hk]
      exact List.cons_ne_nil _ _
    · rw [hk]
      exact hlead _
  · exact ⟨⟨List.forall_mem_append.2 ⟨hdigits, hzeros _⟩, List.forall_mem_singleton.2 rfl,
      List.cons_ne_nil _ _, hlead _⟩, rfl⟩

variable (x)

/-- The numeral of a number is one of digits, and it has a point or an exponent. -/
theorem valid_numeral : x.numeral.Valid ∧ x.numeral.isWhole = false := by
  unfold numeral
  split
  · exact ⟨⟨List.forall_mem_singleton.2 rfl, List.forall_mem_singleton.2 rfl,
      List.cons_ne_nil _ _, fun _ _ => nofun⟩, rfl⟩
  · rename_i hmantissa
    obtain ⟨hne, hzero⟩ :=
      significant_ne_nil_and_ne_zero_cons (coefficient_shortest_ne_zero hmantissa)
    exact valid_numeralOf (fun c => isDigit_of_mem_significant) hne hzero _

/-- The numeral of a number stands for it. -/
theorem double?_numeral : x.numeral.decimal.double? x.negative = some x := by
  unfold numeral
  split
  · rename_i hmantissa
    have hzero : (Numeral.mk ['0'] ['0'] none).decimal = ⟨0, -1⟩ := rfl
    have hexact : x.exact = ⟨0, -fractionDigits⟩ := by
      rw [exact, magnitude, hmantissa, Nat.zero_mul, Nat.zero_mul]
    rw [hzero, double?_zero, ← double?_zero _ (-fractionDigits), ← hexact, Decimal.double?_exact]
  · rename_i hmantissa
    have hshortest := x.double?_shortest
    have hcoefficient := coefficient_shortest_ne_zero hmantissa
    -- the search for the shortest decimal must not be unfolded any more
    generalize x.shortest = shortest at hshortest hcoefficient
    obtain ⟨coefficient, exponent⟩ := shortest
    obtain ⟨hne, -⟩ := significant_ne_nil_and_ne_zero_cons hcoefficient
    obtain ⟨zeros, hdigits⟩ := exists_eq_significant_append (Nat.toDigits 10 coefficient)
    have hlength := congrArg List.length hdigits
    have hvalue := congrArg (Nat.ofDigitChars 10 · 0) hdigits
    simp only [Nat.ofDigitChars_ten_toDigits, ofDigitChars_append_zeros, List.length_append,
      List.length_replicate] at hlength hvalue
    have hexponent : ((Nat.toDigits 10 coefficient).length : Int) + exponent -
        (significant (Nat.toDigits 10 coefficient)).length = zeros + exponent := by
      omega
    rw [double?_numeralOf _ hne, hexponent, ← Decimal.double?_shift, ← hvalue]
    exact hshortest

end Double

end MediaTypes
