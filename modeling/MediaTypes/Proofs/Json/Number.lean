import MediaTypes.Json.Reader
import MediaTypes.Json.Writer
import MediaTypes.Proofs.Number.Numeral

/-!
# Reading numbers

A numeral is read up to its end, and so is the number that it writes: an integer of any size, or a
binary number by its shortest decimal.

## Main definitions

- `Json.EndsNumber` — no number goes on with these characters

## Main statements

- `readNumeral?_chars` — the parts of a numeral
- `readNumber?_writeInt`, `readNumber?_float` — what is written for a number is read as that number
-/

namespace MediaTypes

namespace Json

def NoDigit (rest : List Char) : Prop :=
  ∀ c ∈ rest.head?, c.isDigit = false

/-- A number that stands before these characters ends there. -/
def EndsNumber (rest : List Char) : Prop :=
  ∀ c ∈ rest.head?, c.isDigit = false ∧ c ≠ '.' ∧ c ≠ 'e' ∧ c ≠ 'E'

variable {digits rest : List Char}

theorem EndsNumber.noDigit (h : EndsNumber rest) : NoDigit rest :=
  fun c hc => (h c hc).1

theorem endsNumber_nil : EndsNumber [] := by
  rintro c ⟨⟩

theorem endsNumber_cons {c : Char} (h : c.isDigit = false ∧ c ≠ '.' ∧ c ≠ 'e' ∧ c ≠ 'E')
    (rest : List Char) : EndsNumber (c :: rest) := by
  rintro d ⟨⟩
  exact h

theorem readDigits?_append (hdigits : ∀ c ∈ digits, c.isDigit = true) (hne : digits ≠ [])
    (hrest : NoDigit rest) : readDigits? (digits ++ rest) = some (digits, rest) := by
  have htail : rest.takeWhile Char.isDigit = [] ∧ rest.dropWhile Char.isDigit = rest := by
    cases rest with
    | nil => exact ⟨rfl, rfl⟩
    | cons c cs =>
      have hc : c.isDigit = false := hrest c rfl
      simp [hc]
  have htake : (digits ++ rest).takeWhile Char.isDigit = digits := by
    rw [List.takeWhile_append_of_pos hdigits, htail.1, List.append_nil]
  have hdrop : (digits ++ rest).dropWhile Char.isDigit = rest := by
    rw [List.dropWhile_append_of_pos hdigits, htail.2]
  rw [readDigits?, htake, hdrop]
  split
  · exact absurd rfl hne
  · rfl

theorem readDigits?_toDigits (n : Nat) (hrest : NoDigit rest) :
    readDigits? (Nat.toDigits 10 n ++ rest) = some (Nat.toDigits 10 n, rest) :=
  readDigits?_append (fun _ => Text.isDigit_of_mem_toDigits) Nat.toDigits_ne_nil hrest

/-- The digits after the point, with the point, are read if neither is left. -/
theorem readFraction?_fractionChars (hdigits : ∀ c ∈ digits, c.isDigit = true)
    (hrest : NoDigit rest) (hpoint : rest.head? ≠ some '.') :
    readFraction? (Numeral.fractionChars digits ++ rest) = some (digits, rest) := by
  unfold Numeral.fractionChars
  split
  next hnil =>
    subst hnil
    rw [List.nil_append, readFraction?]
    rintro more rfl
    exact hpoint rfl
  next hne =>
    rw [List.cons_append, readFraction?, readDigits?_append hdigits hne hrest]

/-- The digits of an exponent are at least two, and a zero in front of them does not count. -/
theorem readDigits?_exponent (n : Nat) (hrest : NoDigit rest) :
    ∃ digits, readDigits? ((if (Nat.toDigits 10 n).length < 2 then '0' :: Nat.toDigits 10 n
        else Nat.toDigits 10 n) ++ rest) = some (digits, rest) ∧
      Nat.ofDigitChars 10 digits 0 = n := by
  split
  · refine ⟨'0' :: Nat.toDigits 10 n, readDigits?_append ?_ (List.cons_ne_nil _ _) hrest, ?_⟩
    · exact List.forall_mem_cons.2 ⟨rfl, fun _ => Text.isDigit_of_mem_toDigits⟩
    · exact Nat.ofDigitChars_ten_toDigits
  · exact ⟨_, readDigits?_toDigits n hrest, Nat.ofDigitChars_ten_toDigits⟩

theorem readExponent?_exponentChars (e : Option Int) (hrest : EndsNumber rest) :
    readExponent? (Numeral.exponentChars e ++ rest) = some (e, rest) := by
  cases e with
  | none =>
    cases rest with
    | nil => rfl
    | cons c cs =>
      obtain ⟨-, -, hsmall, hcapital⟩ := hrest c rfl
      simp [Numeral.exponentChars, readExponent?, hsmall, hcapital]
  | some e =>
    obtain ⟨digits, hread, hvalue⟩ := readDigits?_exponent e.natAbs hrest.noDigit
    simp only [Numeral.exponentChars, List.cons_append, readExponent?, true_or, if_true]
    by_cases hneg : e < 0
    · have hsign : -(e.natAbs : Int) = e := by omega
      simp only [hneg, if_true, hread, Option.map_some, hvalue, hsign]
    · have hsign : (e.natAbs : Int) = e := by omega
      simp only [hneg, if_false, hread, Option.map_some, hvalue, hsign]

/-- What follows the digits before the point does not go on with a digit. -/
theorem noDigit_fraction_append (fraction : List Char) {rest : List Char} (h : NoDigit rest) :
    NoDigit (Numeral.fractionChars fraction ++ rest) := by
  unfold Numeral.fractionChars
  split
  · exact h
  · rintro c ⟨⟩
    rfl

theorem head?_exponent_append (e : Option Int) (h : EndsNumber rest) :
    NoDigit (Numeral.exponentChars e ++ rest) ∧
      (Numeral.exponentChars e ++ rest).head? ≠ some '.' := by
  cases e with
  | none => exact ⟨h.noDigit, fun hpoint => (h '.' hpoint).2.1 rfl⟩
  | some e =>
    constructor
    · rintro c ⟨⟩
      rfl
    · rintro ⟨⟩

/-- A numeral is read with its parts. -/
theorem readNumeral?_chars {n : Numeral} (h : n.Valid) (hrest : EndsNumber rest) :
    readNumeral? (n.chars ++ rest) = some (n, rest) := by
  obtain ⟨hexponent, hpoint⟩ := head?_exponent_append n.exponent hrest
  have hwhole : readWhole? (n.chars ++ rest) =
      some (n.whole, Numeral.fractionChars n.fraction ++
        (Numeral.exponentChars n.exponent ++ rest)) := by
    have hnext := noDigit_fraction_append n.fraction hexponent
    rw [Numeral.chars, List.append_assoc, List.append_assoc, readWhole?,
      readDigits?_append h.whole h.whole_ne_nil hnext]
    split
    next hzero =>
      exact absurd (congrArg Prod.fst (Option.some.inj hzero)) (h.whole_ne_zero_cons _ _)
    next => rfl
  simp only [readNumeral?, hwhole, Option.bind_eq_bind, Option.bind_some,
    readFraction?_fractionChars h.fraction hexponent hpoint,
    readExponent?_exponentChars n.exponent hrest, Option.pure_def]

/-- The numeral of a natural number. -/
theorem valid_toDigits (n : Nat) : (Numeral.mk (Nat.toDigits 10 n) [] none).Valid where
  whole := fun _ => Text.isDigit_of_mem_toDigits
  fraction := List.forall_mem_nil _
  whole_ne_nil := Nat.toDigits_ne_nil
  whole_ne_zero_cons := Text.toDigits_ne_zero_cons n

theorem readUnsigned?_toDigits (negative : Bool) (n : Nat) (hrest : EndsNumber rest) :
    readUnsigned? negative (Nat.toDigits 10 n ++ rest) =
      some (.int (if negative then -(n : Int) else n), rest) := by
  have hread := readNumeral?_chars (valid_toDigits n) hrest
  simp only [Numeral.chars, Numeral.fractionChars, Numeral.exponentChars, if_true,
    List.append_nil] at hread
  simp only [readUnsigned?, hread, Option.bind_eq_bind, Option.bind_some, number?, Numeral.isWhole,
    List.isEmpty_nil, Option.isNone_none, Bool.and_self, if_true, Nat.ofDigitChars_ten_toDigits,
    Option.pure_def]

theorem readUnsigned?_numeral (x : Double) (hrest : EndsNumber rest) :
    readUnsigned? x.negative (x.numeral.chars ++ rest) = some (.float x, rest) := by
  obtain ⟨hvalid, hwhole⟩ := x.valid_numeral
  simp only [readUnsigned?, readNumeral?_chars hvalid hrest, Option.bind_eq_bind, Option.bind_some,
    number?, hwhole, Bool.false_eq_true, if_false, x.double?_numeral, Option.map_some,
    Option.pure_def]

/-- What begins with a digit has no sign. -/
theorem readNumber?_of_digit {c : Char} (h : c.isDigit = true) (cs : List Char) :
    readNumber? (c :: cs) = readUnsigned? false (c :: cs) := by
  rw [readNumber?]
  rintro _ hminus
  obtain rfl := (List.cons.inj hminus).1
  cases h

theorem exists_cons_of_digits (hdigits : ∀ c ∈ digits, c.isDigit = true) (hne : digits ≠ []) :
    ∃ c cs, digits = c :: cs ∧ c.isDigit = true := by
  obtain ⟨c, cs, rfl⟩ := List.exists_cons_of_ne_nil hne
  exact ⟨c, cs, rfl, hdigits c List.mem_cons_self⟩

/-- A numeral begins with a digit. -/
theorem exists_cons_toDigits (n : Nat) :
    ∃ c cs, Nat.toDigits 10 n = c :: cs ∧ c.isDigit = true :=
  exists_cons_of_digits (fun _ => Text.isDigit_of_mem_toDigits) Nat.toDigits_ne_nil

theorem exists_cons_numeral (x : Double) :
    ∃ c cs, x.numeral.chars = c :: cs ∧ c.isDigit = true := by
  obtain ⟨hvalid, -⟩ := x.valid_numeral
  obtain ⟨c, cs, hwhole, hdigit⟩ := exists_cons_of_digits hvalid.whole hvalid.whole_ne_nil
  exact ⟨c, _, by rw [Numeral.chars, hwhole, List.cons_append, List.cons_append], hdigit⟩

/-- What is written for an integer is read as that integer. -/
theorem readNumber?_writeInt (n : Int) (hrest : EndsNumber rest) :
    readNumber? (writeInt n ++ rest) = some (.int n, rest) := by
  cases n with
  | ofNat k =>
    have hread := readUnsigned?_toDigits false k hrest
    obtain ⟨c, cs, hcons, hdigit⟩ := exists_cons_toDigits k
    rw [hcons, List.cons_append] at hread
    rw [writeInt, hcons, List.cons_append, readNumber?_of_digit hdigit, hread]
    rfl
  | negSucc k =>
    rw [writeInt, List.cons_append, readNumber?, readUnsigned?_toDigits true _ hrest]
    rfl

/-- What is written for a binary number is read as that number. -/
theorem readNumber?_float (x : Double) (hrest : EndsNumber rest) :
    readNumber? (x.chars ++ rest) = some (.float x, rest) := by
  have hread := readUnsigned?_numeral x hrest
  unfold Double.chars
  split
  next hnegative =>
    rw [hnegative] at hread
    rw [List.cons_append, readNumber?, hread]
  next hpositive =>
    rw [Bool.not_eq_true] at hpositive
    rw [hpositive] at hread
    obtain ⟨c, cs, hcons, hdigit⟩ := exists_cons_numeral x
    rw [hcons, List.cons_append] at hread ⊢
    rw [readNumber?_of_digit hdigit, hread]

theorem exists_cons_writeInt (n : Int) :
    ∃ c cs, writeInt n = c :: cs ∧ (c.isDigit = true ∨ c = '-') := by
  cases n with
  | ofNat k =>
    obtain ⟨c, cs, hcons, hdigit⟩ := exists_cons_toDigits k
    exact ⟨c, cs, hcons, .inl hdigit⟩
  | negSucc k => exact ⟨'-', Nat.toDigits 10 (k + 1), rfl, .inr rfl⟩

theorem exists_cons_float (x : Double) :
    ∃ c cs, x.chars = c :: cs ∧ (c.isDigit = true ∨ c = '-') := by
  unfold Double.chars
  split
  · exact ⟨'-', x.numeral.chars, rfl, .inr rfl⟩
  · obtain ⟨c, cs, hcons, hdigit⟩ := exists_cons_numeral x
    exact ⟨c, cs, hcons, .inl hdigit⟩

end Json

end MediaTypes
