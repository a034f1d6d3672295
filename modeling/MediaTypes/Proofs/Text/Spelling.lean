import MediaTypes.Proofs.Text.Ascii
import Mathlib.Data.List.Forall2

/-!
# Spellings of a word

Two texts that are equal up to the case of ASCII letters are spelt alike, character by character. So
a text that stops short of a word, or has a character outside ASCII where the word has none, is not
a spelling of the word.

## Main definitions

- `Text.SameLetter`, `Text.SpeltAlike` — equality up to case, of characters and of texts
- `Text.NearMiss` — a proper beginning or ending of a word, or a look-alike

## Main statements

- `eqFold_iff_speltAlike` — folding identifies the texts that are spelt alike, and no others
- `NearMiss.not_speltAlike` — a near miss is not a spelling of the word
-/

namespace MediaTypes

namespace Text

/-- The same character, or the capital and the small form of one ASCII letter. -/
inductive SameLetter (c d : Char) : Prop where
  | same (eq : c = d)
  | lowered (capital : 'A' ≤ c ∧ c ≤ 'Z') (shift : d.toNat = c.toNat + 32)
  | raised (capital : 'A' ≤ d ∧ d ≤ 'Z') (shift : c.toNat = d.toNat + 32)

variable {c d : Char}

theorem lowerAsciiChar_eq_of_shift (capital : 'A' ≤ c ∧ c ≤ 'Z') (shift : d.toNat = c.toNat + 32) :
    lowerAsciiChar c = lowerAsciiChar d := by
  have hfirst : 65 ≤ c.toNat := capital.1
  have hd : lowerAsciiChar d = d := lowerAsciiChar_of_not_capital (by omega)
  apply Char.toNat_inj.1
  rw [toNat_lowerAsciiChar_of_capital capital, hd, shift]

/-- Folding identifies the two forms of a letter, and nothing else. -/
theorem lowerAsciiChar_inj_iff : lowerAsciiChar c = lowerAsciiChar d ↔ SameLetter c d := by
  constructor
  · intro h
    by_cases hc : 'A' ≤ c ∧ c ≤ 'Z'
    · have hlower := toNat_lowerAsciiChar_of_capital hc
      by_cases hd : 'A' ≤ d ∧ d ≤ 'Z'
      · refine .same (Char.toNat_inj.1 ?_)
        rw [h, toNat_lowerAsciiChar_of_capital hd] at hlower
        omega
      · refine .lowered hc ?_
        rw [← hlower, h, lowerAsciiChar_of_not_capital hd]
    · by_cases hd : 'A' ≤ d ∧ d ≤ 'Z'
      · refine .raised hd ?_
        rw [← toNat_lowerAsciiChar_of_capital hd, ← h, lowerAsciiChar_of_not_capital hc]
      · rw [lowerAsciiChar_of_not_capital hc, lowerAsciiChar_of_not_capital hd] at h
        exact .same h
  · rintro (rfl | ⟨capital, shift⟩ | ⟨capital, shift⟩)
    · rfl
    · exact lowerAsciiChar_eq_of_shift capital shift
    · exact (lowerAsciiChar_eq_of_shift capital shift).symm

/-- A character outside ASCII is the same letter as itself only. -/
theorem SameLetter.eq_of_not_ascii (h : SameLetter c d) (hc : 128 ≤ c.toNat) : d = c := by
  rcases h with rfl | ⟨⟨-, hlast⟩, -⟩ | ⟨⟨-, hlast⟩, shift⟩
  · rfl
  · have : c.toNat ≤ 90 := hlast
    omega
  · have : d.toNat ≤ 90 := hlast
    omega

/-- Equally many characters, one by one the same letters. -/
def SpeltAlike (a b : String) : Prop :=
  List.Forall₂ SameLetter a.toList b.toList

/-- Folding identifies the texts that are spelt alike, and no others. -/
theorem eqFold_iff_speltAlike {a b : String} : EqFold a b ↔ SpeltAlike a b := by
  rw [eqFold_iff_chars, lowerAsciiChars, lowerAsciiChars, ← List.forall₂_eq_eq_eq,
    List.forall₂_map_left_iff, List.forall₂_map_right_iff]
  simp only [lowerAsciiChar_inj_iff, SpeltAlike]

instance (a b : String) : Decidable (SpeltAlike a b) :=
  decidable_of_iff (EqFold a b) eqFold_iff_speltAlike

variable {a b : String}

theorem SpeltAlike.symm (h : SpeltAlike a b) : SpeltAlike b a :=
  eqFold_iff_speltAlike.1 (eqFold_iff_speltAlike.2 h).symm

/-- A character outside ASCII stands in the same places of texts that are spelt alike. -/
theorem SpeltAlike.getElem?_of_not_ascii (h : SpeltAlike a b) {i : Nat} (hc : 128 ≤ c.toNat)
    (ha : a.toList[i]? = some c) : b.toList[i]? = some c := by
  obtain ⟨hi, rfl⟩ := List.getElem?_eq_some_iff.1 ha
  have hi' : i < b.toList.length := h.length_eq ▸ hi
  have hletter : SameLetter a.toList[i] b.toList[i] := h.get hi hi'
  exact List.getElem?_eq_some_iff.2 ⟨hi', hletter.eq_of_not_ascii hc⟩

/-- A character that is no letter stands in both of two texts that are spelt alike or in neither. -/
theorem SpeltAlike.mem_iff (h : SpeltAlike a b) (hd : d.isAlpha = false) :
    d ∈ a.toList ↔ d ∈ b.toList := by
  rw [← mem_lowerAsciiChars_iff hd, eqFold_iff_chars.1 (eqFold_iff_speltAlike.2 h),
    mem_lowerAsciiChars_iff hd]

/-- A text that comes near a word. -/
inductive NearMiss (word s : String) : Prop where
  /-- Up to case, a beginning of the word and not all of it. -/
  | beginning (part : String) (begins : part.toList <+: word.toList) (proper : part ≠ word)
      (alike : SpeltAlike part s)
  /-- Up to case, an ending of the word and not all of it. -/
  | ending (part : String) (ends : part.toList <:+ word.toList) (proper : part ≠ word)
      (alike : SpeltAlike part s)
  /-- In some place, one of the two has a character outside ASCII that the other does not have
  there. -/
  | lookAlike (i : Nat) (c : Char) (foreign : 128 ≤ c.toNat)
      (stands : word.toList[i]? = some c ∨ s.toList[i]? = some c)
      (differ : word.toList[i]? ≠ s.toList[i]?)

/-- A near miss is not a spelling of the word. -/
theorem NearMiss.not_speltAlike {word s : String} (h : NearMiss word s) : ¬ SpeltAlike word s := by
  intro hword
  cases h with
  | beginning part begins proper alike =>
    have hlength : part.toList.length = word.toList.length :=
      alike.length_eq.trans hword.length_eq.symm
    exact proper (String.toList_inj.1 (begins.eq_of_length hlength))
  | ending part ends proper alike =>
    have hlength : part.toList.length = word.toList.length :=
      alike.length_eq.trans hword.length_eq.symm
    exact proper (String.toList_inj.1 (ends.eq_of_length hlength))
  | lookAlike i c foreign stands differ =>
    rcases stands with hstands | hstands
    · exact differ (hstands.trans (hword.getElem?_of_not_ascii foreign hstands).symm)
    · exact differ ((hword.symm.getElem?_of_not_ascii foreign hstands).trans hstands.symm)

end Text

end MediaTypes
