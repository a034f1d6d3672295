import MediaTypes.Proofs.MediaType.Parameters
import MediaTypes.Proofs.Text.Ascii

/-!
# What a pattern matches

Before the parameters a pattern is matched by every text, by one text up to case, or by all texts
of the form `left ++ middle ++ right` up to case, where `left` and `right` stand around the first
star of the pattern. The matcher does not look for the middle: it compares lengths, and then tests
the beginning and the end. The lengths are what keeps the two ends apart.

## Main definitions

- `MediaType.BaseAccepts` — what a pattern without parameters accepts

## Main statements

- `baseMatches_iff` — matching before the parameters decides `BaseAccepts`
- `matchesPattern_iff` — the full meaning of a pattern
-/

namespace MediaTypes

namespace MediaType

/-- A text has a given beginning and a given end side by side exactly when something stands
between them. -/
theorem exists_middle_iff {left right cs : List Char} :
    (∃ middle, cs = left ++ middle ++ right) ↔
      left.length + right.length ≤ cs.length ∧ left <+: cs ∧ right <:+ cs := by
  constructor
  · rintro ⟨middle, rfl⟩
    refine ⟨by simp, ⟨middle ++ right, by simp⟩, ⟨left ++ middle, rfl⟩⟩
  · rintro ⟨hlen, ⟨rest, rfl⟩, hright⟩
    -- the end is short enough to lie in what follows the beginning
    have hrest : right.length ≤ rest.length := by
      rw [List.length_append] at hlen
      omega
    obtain ⟨middle, rfl⟩ :=
      List.suffix_of_suffix_length_le hright (List.suffix_append left rest) hrest
    exact ⟨middle, by simp⟩

/-- The comparison of lengths stands for the search for what the star covers. -/
theorem matchesAround_iff {left right cs : List Char} :
    matchesAround left right cs = true ↔
      ∃ middle, Text.lowerAsciiChars cs =
        Text.lowerAsciiChars left ++ middle ++ Text.lowerAsciiChars right := by
  rw [exists_middle_iff]
  simp only [matchesAround, Bool.and_eq_true, decide_eq_true_eq, List.isPrefixOf_iff_prefix,
    List.isSuffixOf_iff_suffix, Text.length_lowerAsciiChars, and_assoc]

theorem isFullWildcard_iff {s : String} : isFullWildcard s = true ↔ s = "*" ∨ s = "*/*" := by
  simp [isFullWildcard]

theorem isFullWildcard_eq_false_iff {s : String} :
    isFullWildcard s = false ↔ ¬ (s = "*" ∨ s = "*/*") := by
  rw [← isFullWildcard_iff, Bool.not_eq_true]

/-- What a pattern without parameters accepts. -/
inductive BaseAccepts (pattern candidate : String) : Prop where
  /-- The full wildcards accept everything. -/
  | anything (h : pattern = "*" ∨ pattern = "*/*")
  /-- A pattern without a star accepts itself, up to case. -/
  | literal (star : '*' ∉ pattern.toList) (fold : Text.EqFold pattern candidate)
  /-- A pattern whose first star stands between `left` and `right` accepts what begins and ends
  with them, up to case and without an overlap. -/
  | around (left right middle : String) (star : '*' ∉ left.toList)
      (cut : pattern = left ++ "*" ++ right)
      (fold : Text.lowerAscii candidate =
        Text.lowerAscii left ++ middle ++ Text.lowerAscii right)

/-- Matching before the parameters decides what is accepted. -/
theorem baseMatches_iff {base candidate : String} :
    baseMatches base candidate = true ↔ BaseAccepts base candidate := by
  rw [baseMatches]
  by_cases hwild : isFullWildcard base = true
  · rw [if_pos hwild]
    exact ⟨fun _ => .anything (isFullWildcard_iff.1 hwild), fun _ => rfl⟩
  rw [if_neg hwild]
  rw [isFullWildcard_iff] at hwild
  rcases Text.cutChars_cases '*' base.toList with ⟨hstar, heq⟩ | ⟨left, right, hleft, hbase, heq⟩
  · rw [heq]
    simp only [Text.eqFold_iff]
    constructor
    · exact .literal hstar
    · rintro (h | ⟨-, h⟩ | ⟨left, right, -, -, hcut, -⟩)
      · exact absurd h hwild
      · exact h
      · exact absurd (by simp [hcut]) hstar
  · rw [heq]
    simp only [matchesAround_iff]
    constructor
    · rintro ⟨middle, hmiddle⟩
      refine .around (String.ofList left) (String.ofList right) (String.ofList middle)
        (by simpa using hleft) (String.toList_inj.1 (by simpa using hbase))
        (String.toList_inj.1 (by simpa using hmiddle))
    · rintro (h | ⟨hstar, -⟩ | ⟨left', right', middle, hleft', hcut, hfold⟩)
      · exact absurd h hwild
      · exact absurd (by simp [hbase]) hstar
      · -- both cuts are made at the first star
        have hsame : Text.cutChars '*' base.toList = (left'.toList, some right'.toList) := by
          rw [hcut]
          simpa using Text.cutChars_append hleft' right'.toList
        rw [heq] at hsame
        obtain ⟨rfl, rfl⟩ : left = left'.toList ∧ right = right'.toList := by simpa using hsame
        exact ⟨middle.toList, by simpa using congrArg String.toList hfold⟩

/-- A pattern is matched by a candidate whose two parts are what its own two parts ask for. -/
theorem matchesPattern_iff_splitBase {pattern candidate : String} :
    matchesPattern pattern candidate = true ↔
      pattern ≠ "" ∧ BaseAccepts (splitBase pattern).1 (splitBase candidate).1 ∧
        BlockAccepts (splitBase pattern).2 (splitBase candidate).2 := by
  simp only [matchesPattern, Option.getD_some, Bool.and_eq_true, bne_iff_ne, baseMatches_iff,
    parametersMatch_iff, and_assoc]

/-- **The meaning of a pattern.** A pattern that is not empty is matched by the candidates whose
base its own base accepts and whose block its own block accepts. A candidate that is missing counts
as the empty text. -/
theorem matchesPattern_iff (pattern : String) (candidate : Option String) :
    matchesPattern pattern candidate = true ↔
      pattern ≠ "" ∧ ∃ patternBase patternBlock base block,
        Parts pattern patternBase patternBlock ∧ Parts (candidate.getD "") base block ∧
          BaseAccepts patternBase base ∧ BlockAccepts patternBlock block := by
  have htext : matchesPattern pattern candidate = matchesPattern pattern (candidate.getD "") := by
    cases candidate <;> rfl
  rw [htext, matchesPattern_iff_splitBase]
  constructor
  · rintro ⟨hne, hbase, hblock⟩
    exact ⟨hne, _, _, _, _, parts_splitBase pattern, parts_splitBase _, hbase, hblock⟩
  · rintro ⟨hne, _, _, _, _, hp, hc, hbase, hblock⟩
    rw [splitBase_eq_iff.2 hp, splitBase_eq_iff.2 hc]
    exact ⟨hne, hbase, hblock⟩

end MediaType

end MediaTypes
