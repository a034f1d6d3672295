import MediaTypes.Text.Ascii

/-!
# Characters that folding leaves alone

Folding changes letters into letters only. Hence every other character, such as a star, a slash or
a semicolon, stands in a text exactly where it stands in the folded text.

## Main statements

- `lowerAsciiChar_eq_iff` — only the character itself folds to a character that is no letter
- `mem_lowerAsciiChars_iff` — folding neither adds nor removes a character that is no letter
- `suffix_lowerAsciiChars_iff` — an ending without letters is that of the text itself
-/

namespace MediaTypes

namespace Text

theorem EqFold.symm {a b : String} (h : EqFold a b) : EqFold b a :=
  Eq.symm h

theorem EqFold.trans {a b c : String} (hab : EqFold a b) (hbc : EqFold b c) : EqFold a c :=
  Eq.trans hab hbc

/-- Equality up to case, on the characters. -/
theorem eqFold_iff_chars {a b : String} :
    EqFold a b ↔ lowerAsciiChars a.toList = lowerAsciiChars b.toList := by
  rw [EqFold, lowerAscii, lowerAscii]
  exact String.ofList_inj

theorem lowerAsciiChar_of_not_capital {c : Char} (hc : ¬ (65 ≤ c.toNat ∧ c.toNat ≤ 90)) :
    lowerAsciiChar c = c :=
  if_neg hc

theorem toNat_lowerAsciiChar_of_capital {c : Char} (hc : 65 ≤ c.toNat ∧ c.toNat ≤ 90) :
    (lowerAsciiChar c).toNat = c.toNat + 32 := by
  have hascii : c.toNat < 128 := by omega
  have h := all_ascii (p := fun c => !(65 ≤ c.toNat && c.toNat ≤ 90) ||
    (lowerAsciiChar c).toNat == c.toNat + 32) (by decide +kernel) hascii
  simpa [hc] using h

/-- Folding leaves the code points after `Z` alone. A number that is no code point gives the
character zero, which is left alone as well. -/
theorem lowerAsciiChar_ofNat {n : Nat} (hn : 90 < n) :
    lowerAsciiChar (Char.ofNat n) = Char.ofNat n := by
  by_cases hvalid : n.isValidChar
  · have htoNat : (Char.ofNat n).toNat = n := by
      rw [Char.ofNat, dif_pos hvalid]
      rfl
    refine if_neg fun h => ?_
    have : (Char.ofNat n).toNat ≤ 90 := h.2
    omega
  · rw [Char.ofNat, dif_neg hvalid]
    rfl

/-- Folding keeps a character or turns a letter into a letter. -/
theorem lowerAsciiChar_eq_self_or (c : Char) :
    lowerAsciiChar c = c ∨ (c.isAlpha = true ∧ (lowerAsciiChar c).isAlpha = true) := by
  by_cases hc : c.toNat < 128
  · have h := all_ascii
      (p := fun c => lowerAsciiChar c == c || (c.isAlpha && (lowerAsciiChar c).isAlpha))
      (by decide +kernel) hc
    simpa using h
  · exact Or.inl (lowerAsciiChar_of_not_ascii (Nat.le_of_not_lt hc))

/-- Only the character itself folds to a character that is no letter. -/
theorem lowerAsciiChar_eq_iff {c d : Char} (hd : d.isAlpha = false) :
    lowerAsciiChar c = d ↔ c = d := by
  constructor
  · rintro rfl
    rcases lowerAsciiChar_eq_self_or c with h | ⟨-, h⟩
    · exact h.symm
    · rw [hd] at h
      exact absurd h Bool.false_ne_true
  · rintro rfl
    rcases lowerAsciiChar_eq_self_or c with h | ⟨h, -⟩
    · exact h
    · rw [hd] at h
      exact absurd h Bool.false_ne_true

/-- Folding neither adds nor removes a character that is no letter. -/
theorem mem_lowerAsciiChars_iff {d : Char} (hd : d.isAlpha = false) {cs : List Char} :
    d ∈ lowerAsciiChars cs ↔ d ∈ cs := by
  simp only [lowerAsciiChars, List.mem_map, lowerAsciiChar_eq_iff hd, exists_eq_right]

@[simp] theorem lowerAsciiChars_cons (c : Char) (cs : List Char) :
    lowerAsciiChars (c :: cs) = lowerAsciiChar c :: lowerAsciiChars cs := rfl

@[simp] theorem lowerAsciiChars_lowerAsciiChars (cs : List Char) :
    lowerAsciiChars (lowerAsciiChars cs) = lowerAsciiChars cs := by
  simp [lowerAsciiChars]

/-- Only the characters themselves fold to characters that are no letters. -/
theorem lowerAsciiChars_eq_iff {cs ds : List Char} (hds : ∀ d ∈ ds, d.isAlpha = false) :
    lowerAsciiChars cs = ds ↔ cs = ds := by
  induction cs generalizing ds with
  | nil => rfl
  | cons c cs ih =>
    cases ds with
    | nil => simp
    | cons d ds =>
      have hd := hds d List.mem_cons_self
      have hrest : ∀ e ∈ ds, e.isAlpha = false := fun e he => hds e (List.mem_cons_of_mem d he)
      rw [lowerAsciiChars_cons, List.cons.injEq, List.cons.injEq, lowerAsciiChar_eq_iff hd,
        ih hrest]

/-- Folding neither gives a text an ending without letters nor takes it away. -/
theorem suffix_lowerAsciiChars_iff {ending cs : List Char}
    (hending : ∀ d ∈ ending, d.isAlpha = false) :
    ending <:+ lowerAsciiChars cs ↔ ending <:+ cs := by
  constructor
  · rintro ⟨before, h⟩
    obtain ⟨before', ending', rfl, -, htail⟩ := List.map_eq_append_iff.1 h.symm
    obtain rfl := (lowerAsciiChars_eq_iff hending).1 htail
    exact List.suffix_append before' ending'
  · rintro ⟨before, rfl⟩
    rw [lowerAsciiChars_append, (lowerAsciiChars_eq_iff hending).2 rfl]
    exact List.suffix_append _ _

/-- A type does not become a pattern `type/*` by folding. -/
theorem exists_of_wildcard_lowerAscii {t : String}
    (h : ['/', '*'] <:+ (lowerAscii t).toList) : ∃ s, t = s ++ "/*" := by
  have hplain : ∀ d ∈ ['/', '*'], d.isAlpha = false := by
    simp only [List.forall_mem_cons]
    exact ⟨rfl, rfl, List.forall_mem_nil _⟩
  rw [toList_lowerAscii, suffix_lowerAsciiChars_iff hplain] at h
  obtain ⟨s, hs⟩ := h
  refine ⟨String.ofList s, String.toList_inj.1 ?_⟩
  calc
    t.toList = s ++ ['/', '*'] := hs.symm
    _ = (String.ofList s ++ "/*").toList := by simp

end Text

end MediaTypes
