/-!
# Cutting texts

A text is cut at the first or the last place where a separator stands, or at every such place.

## Main definitions

- `Text.cutChars` — what stands before and, if there is one, after the first separator
- `Text.afterLastChars` — what stands after the last separator
- `Text.splitOn` — the pieces between the separators

## Main statements

- `cutChars_append` — a text with a separator is cut at the first one
-/

namespace MediaTypes

namespace Text

/-- The characters before the first separator and, if there is a separator, those after it. -/
def cutChars (sep : Char) (cs : List Char) : List Char × Option (List Char) :=
  match cs.dropWhile (· != sep) with
  | [] => (cs, none)
  | _ :: rest => (cs.takeWhile (· != sep), some rest)

/-- The text before the first separator and, if there is a separator, the text after it. -/
def cut (sep : Char) (s : String) : String × Option String :=
  let parts := cutChars sep s.toList
  (String.ofList parts.1, parts.2.map String.ofList)

/-- The characters after the last separator, if there is one. -/
def afterLastChars (sep : Char) (cs : List Char) : Option (List Char) :=
  if cs.contains sep then some (cs.reverse.takeWhile (· != sep)).reverse else none

/-- The pieces of a text between its separators, in order; a text without a separator is its own
only piece. -/
def splitOn (sep : Char) (s : String) : List String :=
  (s.toList.splitOn sep).map String.ofList

theorem cutChars_of_not_mem {sep : Char} {cs : List Char} (h : sep ∉ cs) :
    cutChars sep cs = (cs, none) := by
  have hcs : ∀ c ∈ cs, (c != sep) = true := by
    intro c hc
    simp only [bne_iff_ne, ne_eq]
    rintro rfl
    exact h hc
  have happ : (cs ++ []).dropWhile (· != sep) = [].dropWhile (· != sep) :=
    List.dropWhile_append_of_pos hcs
  have hdrop : cs.dropWhile (· != sep) = [] := by simpa using happ
  rw [cutChars, hdrop]

/-- A text with a separator is cut at the first one. -/
theorem cutChars_append {sep : Char} {before : List Char} (h : sep ∉ before)
    (after : List Char) : cutChars sep (before ++ sep :: after) = (before, some after) := by
  have hb : ∀ c ∈ before, (c != sep) = true := by
    intro c hc
    simp only [bne_iff_ne, ne_eq]
    rintro rfl
    exact h hc
  have hdrop : (before ++ sep :: after).dropWhile (· != sep) = sep :: after := by
    rw [List.dropWhile_append_of_pos hb]
    simp
  have htake : (before ++ sep :: after).takeWhile (· != sep) = before := by
    rw [List.takeWhile_append_of_pos hb]
    simp
  rw [cutChars, hdrop, htake]

end Text

end MediaTypes
