import MediaTypes.Proofs.Text.Ascii
import MediaTypes.Text.Lowercase

/-!
# Texts in lower case

Full lower-casing turns every ASCII letter into the small one, and no character into a capital ASCII
letter. So no such letter is left to fold after it. Folding before it makes no difference either:
what a sigma becomes depends on the classes of the characters around it, and both letters of a pair
are in the same classes.

## Main statements

- `lowerAscii_lower`, `lower_lowerAscii` — folding after and before lower-casing
- `lowerAscii_of_lower` — a text in lower case is its own folded form
- `lower_ofList` — ASCII texts without capitals are in lower case
-/

namespace MediaTypes

namespace Text

theorem lowerFrom_append (passed output cs : List Char) :
    lowerFrom passed output cs = output.reverse ++ lowerFrom passed [] cs := by
  induction cs generalizing passed output with
  | nil => simp [lowerFrom]
  | cons c rest ih =>
    rw [lowerFrom, lowerFrom, ih, ih (c :: passed) ((lowerAt passed c rest).reverse ++ [])]
    simp

theorem lowerFrom_cons (passed : List Char) (c : Char) (rest : List Char) :
    lowerFrom passed [] (c :: rest) =
      lowerAt passed c rest ++ lowerFrom (c :: passed) [] rest := by
  rw [lowerFrom, lowerFrom_append]
  simp

theorem lt_shift_of_mem_caseRuns : ∀ run ∈ caseRuns, 90 < run.first + run.shift := by
  decide +kernel

/-- No character becomes a capital ASCII letter. -/
theorem lowerAsciiChar_lowerChar (c : Char) : lowerAsciiChar (lowerChar c) = lowerChar c := by
  rw [lowerChar]
  split
  · exact lowerAsciiChar_lowerAsciiChar c
  · rename_i hc
    split
    · rename_i run hrun
      have hshift := lt_shift_of_mem_caseRuns run (List.mem_of_find?_eq_some hrun)
      have hfirst : run.first ≤ c.toNat := by
        have hcovers := List.find?_some hrun
        simp only [CaseRun.covers, Bool.and_eq_true, decide_eq_true_eq] at hcovers
        exact hcovers.1.1
      apply lowerAsciiChar_ofNat
      omega
    · exact lowerAsciiChar_of_not_ascii (Nat.le_of_not_lt hc)

theorem lowerAsciiChars_lowerAt (before : List Char) (c : Char) (after : List Char) :
    lowerAsciiChars (lowerAt before c after) = lowerAt before c after := by
  rw [lowerAt]
  split
  · rfl
  · split
    · split <;> rfl
    · rw [lowerAsciiChars_cons, lowerAsciiChar_lowerChar, lowerAsciiChars_nil]

theorem lowerAsciiChars_lowerFrom (passed cs : List Char) :
    lowerAsciiChars (lowerFrom passed [] cs) = lowerFrom passed [] cs := by
  induction cs generalizing passed with
  | nil => rfl
  | cons c rest ih =>
    rw [lowerFrom_cons, lowerAsciiChars_append, lowerAsciiChars_lowerAt, ih]

/-- A lowered text has no capital ASCII letter left. -/
theorem lowerAscii_lower (s : String) : lowerAscii (lower s) = lower s := by
  apply String.toList_inj.1
  rw [toList_lowerAscii, lower, String.toList_ofList, lowerAsciiChars_lowerFrom]

/-- A text in lower case is its own folded form. -/
theorem lowerAscii_of_lower {s : String} (h : lower s = s) : lowerAscii s = s := by
  rw [← h, lowerAscii_lower]

/-- Letters are not skipped in looking for a word's end. -/
theorem inRanges_caseIgnorable_of_letter {c : Char}
    (hc : 65 ≤ c.toNat ∧ c.toNat ≤ 90 ∨ 97 ≤ c.toNat ∧ c.toNat ≤ 122) :
    inRanges caseIgnorableRanges c = false := by
  have hranges : ∀ r ∈ caseIgnorableRanges, r.2 < 65 ∨ 90 < r.1 ∧ r.2 < 97 ∨ 122 < r.1 := by
    decide +kernel
  rw [← Bool.not_eq_true, inRanges_iff]
  rintro ⟨r, hr, hfirst, hlast⟩
  have := hranges r hr
  omega

theorem inRanges_caseIgnorable_lowerAsciiChar (c : Char) :
    inRanges caseIgnorableRanges (lowerAsciiChar c) = inRanges caseIgnorableRanges c := by
  by_cases hc : 65 ≤ c.toNat ∧ c.toNat ≤ 90
  · have hlower := toNat_lowerAsciiChar_of_capital hc
    rw [inRanges_caseIgnorable_of_letter (.inl hc),
      inRanges_caseIgnorable_of_letter (.inr (by omega))]
  · rw [lowerAsciiChar_of_not_capital hc]

theorem inRanges_cased_lowerAsciiChar (c : Char) :
    inRanges casedRanges (lowerAsciiChar c) = inRanges casedRanges c := by
  by_cases hc : 65 ≤ c.toNat ∧ c.toNat ≤ 90
  · have hlower := toNat_lowerAsciiChar_of_capital hc
    have hcapital : inRanges casedRanges c = true :=
      inRanges_iff.2 ⟨(0x41, 0x5A), List.mem_cons_self, hc⟩
    have hsmall : inRanges casedRanges (lowerAsciiChar c) = true :=
      inRanges_iff.2 ⟨(0x61, 0x7A), List.mem_cons_of_mem _ List.mem_cons_self, by omega⟩
    rw [hcapital, hsmall]
  · rw [lowerAsciiChar_of_not_capital hc]

theorem reachesCased_cons (c : Char) (rest : List Char) :
    reachesCased (c :: rest) =
      if inRanges caseIgnorableRanges c then reachesCased rest else inRanges casedRanges c := by
  cases hskipped : inRanges caseIgnorableRanges c with
  | true => rw [reachesCased, List.dropWhile_cons_of_pos hskipped, if_pos rfl, reachesCased]
  | false =>
    rw [reachesCased, List.dropWhile_cons_of_neg (by simp [hskipped])]
    rfl

theorem reachesCased_lowerAsciiChars (cs : List Char) :
    reachesCased (lowerAsciiChars cs) = reachesCased cs := by
  induction cs with
  | nil => rfl
  | cons c rest ih =>
    rw [lowerAsciiChars_cons, reachesCased_cons, reachesCased_cons,
      inRanges_caseIgnorable_lowerAsciiChar, inRanges_cased_lowerAsciiChar, ih]

theorem lowerAt_lowerAsciiChar (before : List Char) (c : Char) (after : List Char) :
    lowerAt (lowerAsciiChars before) (lowerAsciiChar c) (lowerAsciiChars after) =
      lowerAt before c after := by
  by_cases hc : c.toNat < 128
  · have hlower : (lowerAsciiChar c).toNat < 128 := by
      by_cases hcapital : 65 ≤ c.toNat ∧ c.toNat ≤ 90
      · rw [toNat_lowerAsciiChar_of_capital hcapital]
        omega
      · rwa [lowerAsciiChar_of_not_capital hcapital]
    rw [lowerAt_of_ascii hlower, lowerAt_of_ascii hc, lowerAsciiChar_lowerAsciiChar]
  · -- what stands around a sigma has case, or is skipped, as it is or folded
    rw [lowerAsciiChar_of_not_ascii (Nat.le_of_not_lt hc), lowerAt, lowerAt, endsWord, endsWord,
      reachesCased_lowerAsciiChars, reachesCased_lowerAsciiChars]

theorem lowerFrom_lowerAsciiChars (passed cs : List Char) :
    lowerFrom (lowerAsciiChars passed) [] (lowerAsciiChars cs) = lowerFrom passed [] cs := by
  induction cs generalizing passed with
  | nil => rfl
  | cons c rest ih =>
    rw [lowerAsciiChars_cons, lowerFrom_cons, lowerFrom_cons, lowerAt_lowerAsciiChar,
      ← lowerAsciiChars_cons, ih]

/-- Folding ASCII letters first makes no difference to lower-casing. -/
theorem lower_lowerAscii (s : String) : lower (lowerAscii s) = lower s := by
  rw [lower, lower, toList_lowerAscii]
  exact congrArg String.ofList (lowerFrom_lowerAsciiChars [] s.toList)

/-- ASCII texts without capitals are in lower case. The test is one of characters, so that it can
be carried out on a text that is written out. -/
theorem lower_ofList {cs : List Char}
    (h : (cs.all fun c => decide (c.toNat < 128) && lowerAsciiChar c == c) = true) :
    lower (String.ofList cs) = String.ofList cs := by
  have hcs : ∀ c ∈ cs, c.toNat < 128 ∧ lowerAsciiChar c = c := by simpa using h
  have hascii : ∀ c ∈ (String.ofList cs).toList, c.toNat < 128 := by
    intro c hc
    rw [String.toList_ofList] at hc
    exact (hcs c hc).1
  have hfold : lowerAsciiChars cs = cs := by
    calc
      lowerAsciiChars cs = cs.map id := List.map_congr_left fun c hc => (hcs c hc).2
      _ = cs := List.map_id cs
  rw [lower_eq_lowerAscii hascii, lowerAscii, String.toList_ofList, hfold]

end Text

end MediaTypes
