import MediaTypes.Proofs.MediaType.Parse
import MediaTypes.Proofs.MediaType.Preorder
import Mathlib.Data.List.Basic

/-!
# Patterns of two segments

The matcher compares whole texts and does not look for slashes. A pattern that is itself written
as a media type, with at most one star or as `*/*`, is nevertheless matched segment by segment:
the candidate has one slash only, which must be the slash of the pattern, so that what a star
covers lies on one side of it.

## Main definitions

- `MediaType.SegmentAccepts` — what one segment of a pattern accepts

## Main statements

- `fold_toText_eq_iff`, `star_cases` — where the slash of a media type is
- `BaseAccepts.segments`, `baseAccepts_of_segments` — the two directions, for one star
- `matchesPattern_iff_segments` — matching segment by segment
-/

namespace MediaTypes

namespace MediaType

/-- What one segment of a pattern accepts. -/
inductive SegmentAccepts (pattern candidate : String) : Prop where
  /-- A segment without a star accepts itself, up to case. -/
  | literal (star : '*' ∉ pattern.toList) (fold : Text.EqFold pattern candidate)
  /-- A segment with a star accepts, up to case, all that has something in the place of the star. -/
  | around (left right middle : String) (cut : pattern = left ++ "*" ++ right)
      (fold : Text.EqFold candidate (left ++ middle ++ right))

theorem SegmentAccepts.star (candidate : String) : SegmentAccepts "*" candidate :=
  .around "" "" candidate rfl (by simp [Text.EqFold])

theorem SegmentAccepts.of_chars {pattern candidate : String} {left middle right : List Char}
    (cut : pattern.toList = left ++ '*' :: right)
    (fold : Text.lowerAsciiChars candidate.toList =
      Text.lowerAsciiChars left ++ middle ++ Text.lowerAsciiChars right) :
    SegmentAccepts pattern candidate := by
  refine .around (String.ofList left) (String.ofList right) (String.ofList middle)
    (String.toList_inj.1 (by simpa using cut)) (Text.eqFold_iff_chars.2 ?_)
  -- what is covered is a part of a folded text, and so its own folded form
  have := congrArg Text.lowerAsciiChars fold
  simpa using this

theorem BaseAccepts.of_chars {pattern candidate : String} {left middle right : List Char}
    (star : '*' ∉ left) (cut : pattern.toList = left ++ '*' :: right)
    (fold : Text.lowerAsciiChars candidate.toList =
      Text.lowerAsciiChars left ++ middle ++ Text.lowerAsciiChars right) :
    BaseAccepts pattern candidate :=
  .around (String.ofList left) (String.ofList right) (String.ofList middle) (by simpa using star)
    (String.toList_inj.1 (by simpa using cut)) (String.toList_inj.1 (by simpa using fold))

theorem not_mem_of_count_le_one {c : Char} {before after : List Char}
    (h : (before ++ c :: after).count c ≤ 1) : c ∉ before ∧ c ∉ after := by
  rw [List.count_append, List.count_cons_self] at h
  rw [← List.count_eq_zero, ← List.count_eq_zero]
  omega

variable {p c : MediaType}

/-- The folded text of a media type is cut at a slash in one way, namely between its names. -/
theorem fold_toText_eq_iff (hc : c.OfTokens) {before after : List Char} :
    Text.lowerAsciiChars c.toText.toList = before ++ '/' :: after ↔
      Text.lowerAsciiChars c.topLevel.toList = before ∧
        Text.lowerAsciiChars c.subtype.toList = after := by
  have hslash : ('/').isAlpha = false := by decide
  rw [toList_toText, Text.lowerAsciiChars_append, Text.lowerAsciiChars_cons,
    (Text.lowerAsciiChar_eq_iff hslash).2 rfl, List.append_cons_inj_of_notMem]
  · simp only [true_and]
  · rw [Text.mem_lowerAsciiChars_iff hslash]
    exact hc.slash.1
  · rw [Text.mem_lowerAsciiChars_iff hslash]
    exact hc.slash.2

/-- A star stands behind the slash or before it. -/
theorem star_cases {left right : List Char} (cut : p.toText.toList = left ++ '*' :: right) :
    (∃ inner, left = p.topLevel.toList ++ '/' :: inner ∧
        p.subtype.toList = inner ++ '*' :: right) ∨
      ∃ inner, right = inner ++ '/' :: p.subtype.toList ∧
        p.topLevel.toList = left ++ '*' :: inner := by
  rw [toList_toText, List.append_eq_append_iff] at cut
  rcases cut with ⟨between, hleft, hsub⟩ | ⟨between, htop, hright⟩
  · cases between with
    | nil => simp at hsub
    | cons d inner =>
      obtain ⟨rfl, hinner⟩ := List.cons.inj hsub
      exact .inl ⟨inner, hleft, hinner⟩
  · cases between with
    | nil => simp at hright
    | cons d inner =>
      obtain ⟨rfl, hinner⟩ := List.cons.inj hright
      exact .inr ⟨inner, hinner, htop⟩

/-- What a pattern with at most one star accepts is accepted segment by segment. -/
theorem BaseAccepts.segments (hc : c.OfTokens)
    (hstar : p.toText.toList.count '*' ≤ 1) (h : BaseAccepts p.toText c.toText) :
    SegmentAccepts p.topLevel c.topLevel ∧ SegmentAccepts p.subtype c.subtype := by
  have hslash : Text.lowerAsciiChar '/' = '/' := rfl
  have hchars := toList_toText p
  cases h with
  | anything h =>
    have hmem : '/' ∈ p.toText.toList := by simp [hchars]
    rcases h with h | h
    · rw [h] at hmem
      exact absurd hmem (by decide)
    · rw [h] at hstar
      exact absurd hstar (by decide)
  | literal star fold =>
    have hfold := (Text.eqFold_iff_chars.1 fold).symm
    rw [hchars, Text.lowerAsciiChars_append, Text.lowerAsciiChars_cons, hslash,
      fold_toText_eq_iff hc] at hfold
    rw [hchars, List.mem_append, List.mem_cons, not_or, not_or] at star
    exact ⟨.literal star.1 (Text.eqFold_iff_chars.2 hfold.1.symm),
      .literal star.2.2 (Text.eqFold_iff_chars.2 hfold.2.symm)⟩
  | around left right middle star cut fold =>
    have hcut : p.toText.toList = left.toList ++ '*' :: right.toList := by simp [cut]
    have hfold : Text.lowerAsciiChars c.toText.toList = Text.lowerAsciiChars left.toList ++
        middle.toList ++ Text.lowerAsciiChars right.toList := by
      simpa using congrArg String.toList fold
    rcases star_cases hcut with ⟨inner, hleft, hsub⟩ | ⟨inner, hright, htop⟩
    · rw [hleft, Text.lowerAsciiChars_append, Text.lowerAsciiChars_cons, hslash,
        List.append_assoc, List.append_assoc, List.cons_append, fold_toText_eq_iff hc] at hfold
      refine ⟨.literal ?_ (Text.eqFold_iff_chars.2 hfold.1.symm),
        .of_chars hsub (hfold.2.trans (List.append_assoc _ _ _).symm)⟩
      exact fun hmem => star (by simp [hleft, hmem])
    · rw [hright, Text.lowerAsciiChars_append, Text.lowerAsciiChars_cons, hslash,
        ← List.append_assoc, fold_toText_eq_iff hc] at hfold
      refine ⟨.of_chars htop hfold.1, .literal ?_ (Text.eqFold_iff_chars.2 hfold.2.symm)⟩
      -- the one star that there may be is used up
      rw [hcut] at hstar
      exact fun hmem => (not_mem_of_count_le_one hstar).2 (by simp [hright, hmem])

/-- What is accepted segment by segment is accepted by a pattern with at most one star. -/
theorem baseAccepts_of_segments (hstar : p.toText.toList.count '*' ≤ 1)
    (htop : SegmentAccepts p.topLevel c.topLevel) (hsub : SegmentAccepts p.subtype c.subtype) :
    BaseAccepts p.toText c.toText := by
  have hslash : Text.lowerAsciiChar '/' = '/' := rfl
  have hchars := toList_toText p
  have hfold : Text.lowerAsciiChars c.toText.toList =
      Text.lowerAsciiChars c.topLevel.toList ++ '/' :: Text.lowerAsciiChars c.subtype.toList := by
    simp [toList_toText, hslash]
  cases htop with
  | literal star fold =>
    rw [Text.eqFold_iff_chars] at fold
    cases hsub with
    | literal star' fold' =>
      rw [Text.eqFold_iff_chars] at fold'
      refine .literal ?_ (Text.eqFold_iff_chars.2 ?_)
      · simp [hchars, star, star']
      · rw [hfold, hchars, ← fold, ← fold']
        simp [hslash]
    | around left right middle cut fold' =>
      rw [Text.eqFold_iff_chars] at fold'
      have hcut : p.toText.toList =
          (p.topLevel.toList ++ '/' :: left.toList) ++ '*' :: right.toList := by
        simp [hchars, cut]
      rw [hcut] at hstar
      have hcover : Text.lowerAsciiChars c.toText.toList =
          Text.lowerAsciiChars (p.topLevel.toList ++ '/' :: left.toList) ++
            Text.lowerAsciiChars middle.toList ++ Text.lowerAsciiChars right.toList := by
        rw [hfold, ← fold, fold']
        simp [hslash]
      exact .of_chars (not_mem_of_count_le_one hstar).1 hcut hcover
  | around left right middle cut fold =>
    rw [Text.eqFold_iff_chars] at fold
    have hcut : p.toText.toList =
        left.toList ++ '*' :: (right.toList ++ '/' :: p.subtype.toList) := by
      simp [hchars, cut]
    rw [hcut] at hstar
    obtain ⟨hleft, hright⟩ := not_mem_of_count_le_one hstar
    cases hsub with
    | literal star' fold' =>
      rw [Text.eqFold_iff_chars] at fold'
      have hcover : Text.lowerAsciiChars c.toText.toList =
          Text.lowerAsciiChars left.toList ++ Text.lowerAsciiChars middle.toList ++
            Text.lowerAsciiChars (right.toList ++ '/' :: p.subtype.toList) := by
        rw [hfold, fold, ← fold']
        simp [hslash]
      exact .of_chars hleft hcut hcover
    | around left' right' middle' cut' fold' =>
      -- two stars
      exact absurd (by simp [cut']) hright

theorem parse_fullWildcard : parse (some "*/*") = .ok ⟨"*", "*"⟩ := by
  decide +kernel

/-- **Matching segment by segment.** A pattern and a candidate that are both written as media
types, the pattern with at most one star or as `*/*`, match just if their segments do: a star
covers nothing beyond the slash. -/
theorem matchesPattern_iff_segments {pattern candidate : String}
    (hpattern : parse (some pattern) = .ok p) (hcandidate : parse (some candidate) = .ok c)
    (hstar : AtMostOneStar pattern) :
    matchesPattern pattern candidate = true ↔
      SegmentAccepts p.topLevel c.topLevel ∧ SegmentAccepts p.subtype c.subtype := by
  obtain ⟨htext, hp⟩ := parse_eq_ok_iff.1 hpattern
  obtain ⟨htext', hc⟩ := parse_eq_ok_iff.1 hcandidate
  obtain rfl : pattern = p.toText := htext
  obtain rfl : candidate = c.toText := htext'
  rw [matchesPattern_iff_splitBase, splitBase_toText hp, splitBase_toText hc]
  have hslash : '/' ∈ p.toText.toList := by simp [toList_toText]
  constructor
  · rintro ⟨-, hbase, -⟩
    rcases hstar with hstar | hwild
    · exact hbase.segments hc hstar
    · -- both segments of the full wildcard are stars
      rw [hwild] at hpattern
      obtain rfl := Except.ok.inj (hpattern.symm.trans parse_fullWildcard)
      exact ⟨.star _, .star _⟩
  · rintro ⟨htop, hsub⟩
    refine ⟨?_, ?_, .unasked none⟩
    · intro hempty
      rw [hempty] at hslash
      exact absurd hslash (by decide)
    · rcases hstar with hstar | hwild
      · exact baseAccepts_of_segments hstar htop hsub
      · exact .anything (.inr hwild)

/-- A star in the second segment, which covers a star of the candidate. -/
theorem matchesPattern_iff_segments_xml :
    parse (some "Application/x-*+XML") = .ok ⟨"Application", "x-*+XML"⟩ ∧
      parse (some "application/X-Y*+xml") = .ok ⟨"application", "X-Y*+xml"⟩ ∧
      AtMostOneStar "Application/x-*+XML" ∧
      (matchesPattern "Application/x-*+XML" "application/X-Y*+xml" = true ↔
        SegmentAccepts "Application" "application" ∧ SegmentAccepts "x-*+XML" "X-Y*+xml") ∧
      matchesPattern "Application/x-*+XML" "application/X-Y*+xml" = true := by
  have hpattern : parse (some "Application/x-*+XML") = .ok ⟨"Application", "x-*+XML"⟩ := by
    decide +kernel
  have hcandidate : parse (some "application/X-Y*+xml") = .ok ⟨"application", "X-Y*+xml"⟩ := by
    decide +kernel
  have hstar : AtMostOneStar "Application/x-*+XML" := by decide
  have hiff := matchesPattern_iff_segments hpattern hcandidate hstar
  refine ⟨hpattern, hcandidate, hstar, hiff, hiff.2 ⟨.literal (by decide) (by decide), ?_⟩⟩
  exact .around "x-" "+XML" "y*" rfl (by decide)

end MediaType

end MediaTypes
