import MediaTypes.Text.Split

/-!
# Cutting at separators

A text either has no separator, and is left whole, or it is what stands before its first
separator, the separator, and what stands after it. Between all its separators there is none.

## Main statements

- `cutChars_cases` — the two outcomes of a cut
- `cut_eq_none_iff`, `cut_eq_some_iff` — the same, for texts
- `not_mem_of_mem_splitOn` — the pieces between the separators
- `intercalate_splitOn`, `splitOn_intercalate` — cutting and joining undo each other
-/

namespace MediaTypes

namespace Text

/-- A cut finds no separator and leaves the text whole, or it finds the first one. -/
theorem cutChars_cases (sep : Char) (cs : List Char) :
    (sep ∉ cs ∧ cutChars sep cs = (cs, none)) ∨
      ∃ before after, sep ∉ before ∧ cs = before ++ sep :: after ∧
        cutChars sep cs = (before, some after) := by
  by_cases h : sep ∈ cs
  · obtain ⟨before, after, rfl, hbefore⟩ := List.eq_append_cons_of_mem h
    exact Or.inr ⟨before, after, hbefore, rfl, cutChars_append hbefore after⟩
  · exact Or.inl ⟨h, cutChars_of_not_mem h⟩

theorem cut_eq_none_iff {sep : Char} {s before : String} :
    cut sep s = (before, none) ↔ s = before ∧ sep ∉ s.toList := by
  rw [cut]
  rcases cutChars_cases sep s.toList with ⟨hs, heq⟩ | ⟨left, right, -, hs, heq⟩
  · simp [heq, hs]
  · have hmem : sep ∈ s.toList := by simp [hs]
    simp [heq, hmem]

theorem cut_eq_some_iff {sep : Char} {s before after : String} :
    cut sep s = (before, some after) ↔
      s = before ++ String.singleton sep ++ after ∧ sep ∉ before.toList := by
  constructor
  · intro h
    rcases cutChars_cases sep s.toList with ⟨hs, heq⟩ | ⟨left, right, hleft, hs, heq⟩
    · simp [cut, heq] at h
    · obtain ⟨rfl, rfl⟩ : String.ofList left = before ∧ String.ofList right = after := by
        simpa [cut, heq] using h
      exact ⟨String.toList_inj.1 (by simpa using hs), by simpa using hleft⟩
  · rintro ⟨rfl, hbefore⟩
    simp [cut, cutChars_append hbefore]

theorem eq_false_of_mem_splitOnP {p : Char → Bool} {cs piece : List Char}
    (h : piece ∈ cs.splitOnP p) : ∀ c ∈ piece, p c = false := by
  induction cs generalizing piece with
  | nil =>
    rw [List.splitOnP_nil, List.mem_singleton] at h
    subst h
    exact List.forall_mem_nil _
  | cons d rest ih =>
    rw [List.splitOnP_cons_eq_if_modifyHead] at h
    by_cases hd : p d = true
    · rw [if_pos hd] at h
      rcases List.mem_cons.1 h with rfl | h
      · exact List.forall_mem_nil _
      · exact ih h
    · rw [if_neg hd] at h
      -- the character goes to the first piece of the rest
      cases hpieces : rest.splitOnP p with
      | nil => exact absurd hpieces (List.splitOnP_ne_nil p rest)
      | cons first others =>
        rw [hpieces] at h ih
        rcases List.mem_cons.1 h with rfl | h
        · exact List.forall_mem_cons.2 ⟨Bool.eq_false_iff.2 hd, ih List.mem_cons_self⟩
        · exact ih (List.mem_cons_of_mem first h)

theorem not_mem_of_mem_splitOn {sep : Char} {cs piece : List Char} (h : piece ∈ cs.splitOn sep) :
    sep ∉ piece := by
  intro hmem
  have hne := eq_false_of_mem_splitOnP h sep hmem
  exact absurd (beq_self_eq_true sep) (Bool.eq_false_iff.1 hne)

theorem not_mem_piece {sep : Char} {s piece : String} (h : piece ∈ splitOn sep s) :
    sep ∉ piece.toList := by
  obtain ⟨cs, hcs, rfl⟩ := List.mem_map.1 h
  rw [String.toList_ofList]
  exact not_mem_of_mem_splitOn hcs

theorem splitOn_ne_nil (sep : Char) (s : String) : splitOn sep s ≠ [] := by
  rw [splitOn, Ne, List.map_eq_nil_iff]
  exact List.splitOn_ne_nil sep s.toList

/-- The pieces of a text, joined by the separator, are the text. -/
theorem intercalate_splitOn (sep : Char) (s : String) :
    (String.singleton sep).intercalate (splitOn sep s) = s := by
  apply String.toList_inj.1
  simp [splitOn, Function.comp_def]

/-- Texts without the separator, joined by it, are the pieces of the whole. There has to be one of
them at least, since even the empty text has a piece. -/
theorem splitOn_intercalate {sep : Char} {pieces : List String} (hne : pieces ≠ [])
    (hsep : ∀ piece ∈ pieces, sep ∉ piece.toList) :
    splitOn sep ((String.singleton sep).intercalate pieces) = pieces := by
  have hchars : ∀ cs ∈ pieces.map String.toList, sep ∉ cs := by
    simpa only [List.forall_mem_map] using hsep
  have hcut : ([sep].intercalate (pieces.map String.toList)).splitOn sep =
      pieces.map String.toList :=
    List.splitOn_intercalate sep hchars (by simpa using hne)
  rw [splitOn, String.toList_intercalate, String.toList_singleton, hcut, List.map_map]
  simp [Function.comp_def]

end Text

end MediaTypes
