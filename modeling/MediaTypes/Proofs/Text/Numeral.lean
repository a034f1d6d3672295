import MediaTypes.Proofs.Text.Digit
import MediaTypes.Text.Numeral

/-!
# Numerals of fixed width tell numbers apart

A numeral of fixed width stands for the rest that its number leaves at the power of the base that
has the width as exponent. In base ten the numerals of one width are ordered as the numbers are.

## Main statements

- `fixedDigits_inj` — two numerals of one width are equal when they stand for the same rest
- `ofDigitChars_fixedDigits` — a numeral in base ten is read as what it stands for
- `ofDigitChars_lt_iff` — rows of digits of one length are ordered as their numbers are
-/

namespace MediaTypes

namespace Text

variable {base width m n : Nat}

theorem digitChar_inj : ∀ m < 16, ∀ n < 16, (Nat.digitChar m = Nat.digitChar n ↔ m = n) := by
  decide

/-- A number is given by its last digit and the digits before. -/
theorem mod_pow_succ (base width n : Nat) :
    n % base ^ (width + 1) = base * (n / base % base ^ width) + n % base := by
  rw [Nat.pow_succ, Nat.mul_comm, Nat.mod_mul, Nat.add_comm]

/-- Two numerals of one width are equal when they stand for the same rest. -/
theorem fixedDigits_inj (hbase : 0 < base) (hle : base ≤ 16) :
    fixedDigits base width m = fixedDigits base width n ↔
      m % base ^ width = n % base ^ width := by
  induction width generalizing m n with
  | zero => simp [fixedDigits, Nat.mod_one]
  | succ width ih =>
    have hm : m % base < 16 := Nat.lt_of_lt_of_le (Nat.mod_lt m hbase) hle
    have hn : n % base < 16 := Nat.lt_of_lt_of_le (Nat.mod_lt n hbase) hle
    rw [fixedDigits, fixedDigits, List.append_singleton_inj, ih, digitChar_inj _ hm _ hn,
      mod_pow_succ, mod_pow_succ]
    constructor
    · rintro ⟨hquotient, hdigit⟩
      rw [hquotient, hdigit]
    · intro hsum
      have hquotient := congrArg (· / base) hsum
      have hdigit := congrArg (· % base) hsum
      simp only [Nat.mul_add_div hbase, Nat.mul_add_mod, Nat.mod_mod, Nat.mod_div_self,
        Nat.add_zero] at hquotient hdigit
      exact ⟨hquotient, hdigit⟩

/-- A numeral in base ten is read as what it stands for. -/
theorem ofDigitChars_fixedDigits (width n : Nat) :
    Nat.ofDigitChars 10 (fixedDigits 10 width n) 0 = n % 10 ^ width := by
  induction width generalizing n with
  | zero => simp [fixedDigits, Nat.mod_one]
  | succ width ih =>
    rw [fixedDigits, Nat.ofDigitChars_append, ih, Nat.ofDigitChars_cons_digitChar_of_lt_ten
      (Nat.mod_lt n (Nat.succ_pos 9)), Nat.ofDigitChars_nil, mod_pow_succ]

theorem isDigit_digitChar : ∀ d < 10, (Nat.digitChar d).isDigit = true := by
  decide

theorem isDigit_of_mem_fixedDigits {c : Char} (h : c ∈ fixedDigits 10 width n) :
    c.isDigit = true := by
  obtain ⟨d, hd, rfl⟩ := mem_fixedDigits (Nat.succ_pos 9) h
  exact isDigit_digitChar d hd

variable {cs cs' : List Char}

theorem ofDigitChars_cons_zero (c : Char) (cs : List Char) :
    Nat.ofDigitChars 10 (c :: cs) 0 =
      10 ^ cs.length * (c.toNat - '0'.toNat) + Nat.ofDigitChars 10 cs 0 := by
  rw [Nat.ofDigitChars_cons, Nat.ofDigitChars_eq_ofDigitChars_zero, Nat.mul_zero, Nat.zero_add]

theorem ofDigitChars_lt (h : ∀ c ∈ cs, c.isDigit = true) :
    Nat.ofDigitChars 10 cs 0 < 10 ^ cs.length := by
  rw [← decimalNumeral_eq_ofDigitChars h]
  exact decimalNumeral_lt cs

theorem zero_le_of_isDigit {c : Char} (h : c.isDigit = true) : '0'.toNat ≤ c.toNat := by
  simp only [Char.isDigit, Bool.and_eq_true, decide_eq_true_eq] at h
  exact h.1

/-- The rest of a row of digits is less than one unit of its first digit. -/
theorem ofDigitChars_cons_lt {c c' : Char} (hlength : cs.length = cs'.length)
    (h : ∀ d ∈ c :: cs, d.isDigit = true) (hc : c < c') :
    Nat.ofDigitChars 10 (c :: cs) 0 < Nat.ofDigitChars 10 (c' :: cs') 0 := by
  rw [List.forall_mem_cons] at h
  have hlow := zero_le_of_isDigit h.1
  have hfirst : c.toNat - '0'.toNat + 1 ≤ c'.toNat - '0'.toNat := by
    have : c.toNat < c'.toNat := hc
    omega
  rw [ofDigitChars_cons_zero, ofDigitChars_cons_zero]
  calc
    10 ^ cs.length * (c.toNat - '0'.toNat) + Nat.ofDigitChars 10 cs 0
      < 10 ^ cs.length * (c.toNat - '0'.toNat) + 10 ^ cs.length :=
        Nat.add_lt_add_left (ofDigitChars_lt h.2) _
    _ = 10 ^ cs.length * (c.toNat - '0'.toNat + 1) := (Nat.mul_succ _ _).symm
    _ ≤ 10 ^ cs.length * (c'.toNat - '0'.toNat) := Nat.mul_le_mul_left _ hfirst
    _ = 10 ^ cs'.length * (c'.toNat - '0'.toNat) := by rw [hlength]
    _ ≤ 10 ^ cs'.length * (c'.toNat - '0'.toNat) + Nat.ofDigitChars 10 cs' 0 :=
        Nat.le_add_right _ _

/-- Of two rows of digits the one that comes first writes the smaller number. -/
theorem ofDigitChars_lt_of_lt (hlength : cs.length = cs'.length) (h : ∀ c ∈ cs, c.isDigit = true)
    (h' : ∀ c ∈ cs', c.isDigit = true) (hlt : cs < cs') :
    Nat.ofDigitChars 10 cs 0 < Nat.ofDigitChars 10 cs' 0 := by
  induction cs generalizing cs' with
  | nil =>
    rw [List.length_nil, eq_comm, List.length_eq_zero_iff] at hlength
    rw [hlength] at hlt
    exact absurd hlt (List.lt_irrefl [])
  | cons c cs ih =>
    obtain _ | ⟨c', cs'⟩ := cs'
    · simp at hlength
    rw [List.length_cons, List.length_cons, Nat.add_right_cancel_iff] at hlength
    rcases List.cons_lt_cons_iff.1 hlt with hc | ⟨rfl, hrest⟩
    · exact ofDigitChars_cons_lt hlength h hc
    · rw [List.forall_mem_cons] at h h'
      rw [ofDigitChars_cons_zero, ofDigitChars_cons_zero, hlength]
      exact Nat.add_lt_add_left (ih hlength h.2 h'.2 hrest) _

/-- Rows of digits of one length are ordered as the numbers are that they write. -/
theorem ofDigitChars_lt_iff (hlength : cs.length = cs'.length) (h : ∀ c ∈ cs, c.isDigit = true)
    (h' : ∀ c ∈ cs', c.isDigit = true) :
    Nat.ofDigitChars 10 cs 0 < Nat.ofDigitChars 10 cs' 0 ↔ cs < cs' := by
  refine ⟨fun hlt => ?_, ofDigitChars_lt_of_lt hlength h h'⟩
  rcases Std.lt_trichotomy cs cs' with hbefore | rfl | hafter
  · exact hbefore
  · exact absurd hlt (Nat.lt_irrefl _)
  · have := ofDigitChars_lt_of_lt hlength.symm h' h hafter
    omega

theorem ofDigitChars_inj (hlength : cs.length = cs'.length) (h : ∀ c ∈ cs, c.isDigit = true)
    (h' : ∀ c ∈ cs', c.isDigit = true) :
    Nat.ofDigitChars 10 cs 0 = Nat.ofDigitChars 10 cs' 0 ↔ cs = cs' := by
  refine ⟨fun heq => ?_, fun heq => by rw [heq]⟩
  rcases Std.lt_trichotomy cs cs' with hbefore | rfl | hafter
  · have := ofDigitChars_lt_of_lt hlength h h' hbefore
    omega
  · rfl
  · have := ofDigitChars_lt_of_lt hlength.symm h' h hafter
    omega

end Text

end MediaTypes
