import MediaTypes.Proofs.MediaType.Pattern

/-!
# Patterns that match patterns

A pattern can stand in the place of a candidate. Every pattern but the empty one matches itself,
and a pattern with at most one star that matches a second pattern matches all that the second one
matches, whatever stars or parameters that one has. With two stars this fails, because the second
star of a pattern stands for itself only.

## Main definitions

- `MediaType.AtMostOneStar` — the bases for which matching is transitive

## Main statements

- `BaseAccepts.trans` — transitivity before the parameters
- `matchesPattern_preorder` — matching is reflexive and, on such bases, transitive
-/

namespace MediaTypes

namespace MediaType

/-- The base has at most one star, or is the full wildcard with two of them. -/
def AtMostOneStar (base : String) : Prop :=
  base.toList.count '*' ≤ 1 ∨ base = "*/*"

instance (base : String) : Decidable (AtMostOneStar base) :=
  inferInstanceAs (Decidable (base.toList.count '*' ≤ 1 ∨ base = "*/*"))

theorem prefix_of_not_mem {c : Char} {l x y : List Char} (hl : c ∉ l)
    (h : l <+: x ++ c :: y) : l <+: x := by
  rcases List.prefix_or_prefix_of_prefix h (List.prefix_append x (c :: y)) with hlx | ⟨rest, rfl⟩
  · exact hlx
  · -- what goes beyond `x` would begin with `c`
    rw [List.prefix_append_right_inj] at h
    cases rest with
    | nil => simp
    | cons d rest =>
      obtain rfl : d = c := (List.cons_prefix_cons.1 h).1
      exact absurd (by simp) hl

theorem suffix_of_not_mem {c : Char} {r x y : List Char} (hr : c ∉ r)
    (h : r <:+ x ++ c :: y) : r <:+ y := by
  rw [← List.reverse_prefix] at h ⊢
  have h' : r.reverse <+: y.reverse ++ c :: x.reverse := by simpa using h
  exact prefix_of_not_mem (by simpa using hr) h'

/-- A star lies inside what stands between two ends without a star. -/
theorem exists_inner_of_eq {c : Char} {left middle right before after : List Char}
    (hleft : c ∉ left) (hright : c ∉ right)
    (h : before ++ c :: after = left ++ middle ++ right) :
    ∃ inner inner', before = left ++ inner ∧ after = inner' ++ right := by
  have hprefix : left <+: before ++ c :: after := ⟨middle ++ right, by rw [h]; simp⟩
  have hsuffix : right <:+ before ++ c :: after := ⟨left ++ middle, by rw [h]⟩
  obtain ⟨inner, hinner⟩ := prefix_of_not_mem hleft hprefix
  obtain ⟨inner', hinner'⟩ := suffix_of_not_mem hright hsuffix
  exact ⟨inner, inner', hinner.symm, hinner'.symm⟩

theorem BaseAccepts.refl (base : String) : BaseAccepts base base := by
  rcases Text.cutChars_cases '*' base.toList with ⟨h, -⟩ | ⟨left, right, hleft, hbase, -⟩
  · exact .literal h rfl
  · refine .around (String.ofList left) (String.ofList right) "*" (by simpa using hleft)
      (String.toList_inj.1 (by simpa using hbase)) (String.toList_inj.1 ?_)
    have hstar : Text.lowerAsciiChar '*' = '*' := rfl
    simp [hbase, hstar]

/-- A star in a text that a pattern accepts lies between the pattern's two ends. -/
theorem exists_inner_of_fold {q left middle right : String} {before after : List Char}
    (hleft : '*' ∉ left.toList) (hright : '*' ∉ right.toList)
    (hq : q.toList = before ++ '*' :: after)
    (hfold : Text.lowerAscii q = Text.lowerAscii left ++ middle ++ Text.lowerAscii right) :
    ∃ inner inner', Text.lowerAsciiChars before = Text.lowerAsciiChars left.toList ++ inner ∧
      Text.lowerAsciiChars after = inner' ++ Text.lowerAsciiChars right.toList := by
  have hstar : Text.lowerAsciiChar '*' = '*' := rfl
  have hleft' : '*' ∉ Text.lowerAsciiChars left.toList := by
    rwa [Text.mem_lowerAsciiChars_iff (by decide)]
  have hright' : '*' ∉ Text.lowerAsciiChars right.toList := by
    rwa [Text.mem_lowerAsciiChars_iff (by decide)]
  have heq : Text.lowerAsciiChars before ++ '*' :: Text.lowerAsciiChars after =
      Text.lowerAsciiChars left.toList ++ middle.toList ++ Text.lowerAsciiChars right.toList := by
    simpa [hq, hstar] using congrArg String.toList hfold
  exact exists_inner_of_eq hleft' hright' heq

/-- Only the full wildcard with one star accepts a full wildcard: its ends have nothing to stand
for. -/
theorem eq_star_of_accepts {p q left middle right : String} (hleft : '*' ∉ left.toList)
    (hright : '*' ∉ right.toList) (hcut : p = left ++ "*" ++ right) (hq : q = "*" ∨ q = "*/*")
    (hfold : Text.lowerAscii q = Text.lowerAscii left ++ middle ++ Text.lowerAscii right) :
    p = "*" := by
  obtain ⟨after, hfirst⟩ : ∃ after, q.toList = [] ++ '*' :: after := by
    rcases hq with rfl | rfl
    · exact ⟨[], rfl⟩
    · exact ⟨['/', '*'], rfl⟩
  obtain ⟨before, hlast⟩ : ∃ before, q.toList = before ++ '*' :: [] := by
    rcases hq with rfl | rfl
    · exact ⟨[], rfl⟩
    · exact ⟨['*', '/'], rfl⟩
  obtain ⟨inner, _, hl, -⟩ := exists_inner_of_fold hleft hright hfirst hfold
  obtain ⟨_, inner', -, hr⟩ := exists_inner_of_fold hleft hright hlast hfold
  obtain ⟨rfl, -⟩ : left = "" ∧ inner = [] := by simpa [Text.lowerAsciiChars] using hl
  obtain ⟨-, rfl⟩ : inner' = [] ∧ right = "" := by simpa [Text.lowerAsciiChars] using hr
  exact hcut

/-- A base with at most one star accepts whatever is accepted by a text that it accepts. -/
theorem BaseAccepts.trans {p q r : String} (hp : AtMostOneStar p) (hpq : BaseAccepts p q)
    (hqr : BaseAccepts q r) : BaseAccepts p r := by
  cases hpq with
  | anything h => exact .anything h
  | literal hstar hfold =>
    have hq : '*' ∉ q.toList := by
      rw [← Text.mem_lowerAsciiChars_iff (by decide), ← Text.eqFold_iff_chars.1 hfold]
      rwa [Text.mem_lowerAsciiChars_iff (by decide)]
    cases hqr with
    | anything h => rcases h with rfl | rfl <;> exact absurd (by decide) hq
    | literal _ hfold' => exact .literal hstar (hfold.trans hfold')
    | around _ _ _ _ hcut _ => exact absurd (by simp [hcut]) hq
  | around left right middle hleft hcut hfold =>
    rcases hp with hcount | rfl
    · have hright : '*' ∉ right.toList := by
        intro hmem
        have := List.one_le_count_iff.2 hmem
        simp [hcut] at hcount
        omega
      cases hqr with
      | anything h => exact .anything (Or.inl (eq_star_of_accepts hleft hright hcut h hfold))
      | literal _ hfold' =>
        refine .around left right middle hleft hcut ?_
        rw [← hfold]
        exact hfold'.symm
      | around left' right' middle' _ hcut' hfold' =>
        have hq : q.toList = left'.toList ++ '*' :: right'.toList := by simp [hcut']
        obtain ⟨inner, inner', hl, hr⟩ := exists_inner_of_fold hleft hright hq hfold
        -- the star of `p` covers what the star of `q` covers and the rest of `q` on both sides
        refine .around left right (String.ofList (inner ++ middle'.toList ++ inner')) hleft hcut
          (String.toList_inj.1 ?_)
        rw [hfold']
        simp [hl, hr]
    · exact .anything (Or.inr rfl)

/-- **Matching is a preorder.** Every pattern but the empty one matches itself, and a pattern whose
base has at most one star matches all that is matched by a pattern that it matches. -/
theorem matchesPattern_preorder :
    (∀ s : String, s ≠ "" → matchesPattern s s = true) ∧
      ∀ p q r : String, AtMostOneStar (splitBase p).1 → matchesPattern p q = true →
        matchesPattern q r = true → matchesPattern p r = true := by
  simp only [matchesPattern_iff_splitBase]
  constructor
  · intro s hs
    exact ⟨hs, BaseAccepts.refl _, BlockAccepts.refl _⟩
  · rintro p q r hp ⟨hne, hbase, hblock⟩ ⟨-, hbase', hblock'⟩
    exact ⟨hne, hbase.trans hp hbase', hblock.trans hblock'⟩

/-- A pattern with a parameter matches another one and, through it, a type. -/
theorem matchesPattern_preorder_xhtml :
    ("application/*+XML;Charset=UTF-8" ≠ "" ∧
      matchesPattern "application/*+XML;Charset=UTF-8" "application/*+XML;Charset=UTF-8" = true) ∧
    (AtMostOneStar (splitBase "application/*+XML;Charset=UTF-8").1 ∧
      matchesPattern "application/*+XML;Charset=UTF-8"
        "Application/X*L+xml; charset=utf-8; charset=UTF-8; q=*" = true ∧
      matchesPattern "Application/X*L+xml; charset=utf-8; charset=UTF-8; q=*"
        "application/xhtml+xml;Q=*;v;CHARSET=UTF-8" = true ∧
      matchesPattern "application/*+XML;Charset=UTF-8"
        "application/xhtml+xml;Q=*;v;CHARSET=UTF-8" = true) := by
  have hne : "application/*+XML;Charset=UTF-8" ≠ "" := by decide
  have hstar : AtMostOneStar (splitBase "application/*+XML;Charset=UTF-8").1 := by
    decide +kernel
  have hpq : matchesPattern "application/*+XML;Charset=UTF-8"
      "Application/X*L+xml; charset=utf-8; charset=UTF-8; q=*" = true := by
    decide +kernel
  have hqr : matchesPattern "Application/X*L+xml; charset=utf-8; charset=UTF-8; q=*"
      "application/xhtml+xml;Q=*;v;CHARSET=UTF-8" = true := by
    decide +kernel
  exact ⟨⟨hne, matchesPattern_preorder.1 _ hne⟩,
    hstar, hpq, hqr, matchesPattern_preorder.2 _ _ _ hstar hpq hqr⟩

/-- With two stars in the base, matching is not transitive. -/
example : matchesPattern "**" "*" = true ∧ matchesPattern "*" "a" = true ∧
    matchesPattern "**" "a" = false := by decide +kernel

end MediaType

end MediaTypes
