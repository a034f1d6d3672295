/-!
# ASCII case folding

Type names, parameter keys and extensions are compared without regard to the case of ASCII
letters, and of no other character: U+212A KELVIN SIGN stays distinct from `k`.

## Main definitions

- `Text.lowerAscii` — a text with `A`–`Z` lowered
- `Text.EqFold` — equality up to the case of ASCII letters, with `Text.eqFold` deciding it

## Main statements

- `lowerAscii_lowerAscii` — folding twice is folding once
- `eqFold_iff` — two texts are equal up to case exactly when their folded forms are equal
-/

namespace MediaTypes

namespace Text

/-- A character with `A`–`Z` lowered and every other character kept. -/
def lowerAsciiChar (c : Char) : Char :=
  if 'A' ≤ c ∧ c ≤ 'Z' then Char.ofNat (c.toNat + 32) else c

def lowerAsciiChars (cs : List Char) : List Char :=
  cs.map lowerAsciiChar

/-- A text with `A`–`Z` lowered and every other character kept. -/
def lowerAscii (s : String) : String :=
  String.ofList (lowerAsciiChars s.toList)

/-- Two texts are equal up to the case of ASCII letters. -/
def EqFold (a b : String) : Prop :=
  lowerAscii a = lowerAscii b

instance (a b : String) : Decidable (EqFold a b) :=
  inferInstanceAs (Decidable (lowerAscii a = lowerAscii b))

/-- Compares the lengths first, so that texts of different length are never folded. -/
def eqFold (a b : String) : Bool :=
  a.length == b.length && lowerAscii a == lowerAscii b

@[simp] theorem toList_lowerAscii (s : String) :
    (lowerAscii s).toList = lowerAsciiChars s.toList := by
  simp [lowerAscii]

@[simp] theorem length_lowerAsciiChars (cs : List Char) :
    (lowerAsciiChars cs).length = cs.length := by
  simp [lowerAsciiChars]

@[simp] theorem lowerAsciiChars_nil : lowerAsciiChars [] = [] := rfl

@[simp] theorem lowerAsciiChars_append (xs ys : List Char) :
    lowerAsciiChars (xs ++ ys) = lowerAsciiChars xs ++ lowerAsciiChars ys := by
  simp [lowerAsciiChars]

@[simp] theorem length_lowerAscii (s : String) : (lowerAscii s).length = s.length := by
  rw [← String.length_toList, toList_lowerAscii, length_lowerAsciiChars, String.length_toList]

/-- A test of the first 128 characters is carried out code point by code point. -/
theorem all_ascii {p : Char → Bool} (h : (List.range 128).all (fun n => p (Char.ofNat n)) = true)
    {c : Char} (hc : c.toNat < 128) : p c = true := by
  have := List.all_eq_true.1 h c.toNat (List.mem_range.2 hc)
  rwa [Char.ofNat_toNat] at this

theorem lowerAsciiChar_of_not_ascii {c : Char} (hc : 128 ≤ c.toNat) : lowerAsciiChar c = c := by
  refine if_neg fun h => ?_
  have : c.toNat ≤ 90 := h.2
  omega

/-- The folded form of a character has no capital ASCII letter left. -/
@[simp] theorem lowerAsciiChar_lowerAsciiChar (c : Char) :
    lowerAsciiChar (lowerAsciiChar c) = lowerAsciiChar c := by
  by_cases hc : c.toNat < 128
  · exact eq_of_beq
      (all_ascii (p := fun c => lowerAsciiChar (lowerAsciiChar c) == lowerAsciiChar c)
        (by decide +kernel) hc)
  · rw [lowerAsciiChar_of_not_ascii (Nat.le_of_not_lt hc),
      lowerAsciiChar_of_not_ascii (Nat.le_of_not_lt hc)]

/-- Folding twice is folding once. -/
@[simp] theorem lowerAscii_lowerAscii (s : String) :
    lowerAscii (lowerAscii s) = lowerAscii s := by
  apply String.toList_inj.1
  simp [lowerAsciiChars, Function.comp_def]

/-- The test that looks at the lengths first decides equality up to case. -/
theorem eqFold_iff (a b : String) : eqFold a b = true ↔ EqFold a b := by
  unfold eqFold EqFold
  constructor
  · intro h
    simp only [Bool.and_eq_true, beq_iff_eq] at h
    exact h.2
  · intro h
    have hlen : a.length = b.length := by
      rw [← length_lowerAscii a, h, length_lowerAscii]
    simp [hlen, h]

end Text

end MediaTypes
