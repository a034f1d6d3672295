import MediaTypes.Proofs.Text.Split
import MediaTypes.Text.Blank

/-!
# Words

The words of a text are not empty and have no blanks. A text of that kind is its own only word, and
where there is a blank the words are those before it followed by those after it.

## Main definitions

- `Text.IsWord` — the characters of a word

## Main statements

- `isWord_of_mem_wordsOfChars` — the words of a text are words
- `wordsOfChars_of_isWord`, `wordsOfChars_append_cons` — the words of a word and around a blank
-/

namespace MediaTypes

namespace Text

/-- There are characters, and none of them is blank. -/
def IsWord (cs : List Char) : Prop :=
  cs ≠ [] ∧ ∀ c ∈ cs, isBlank c = false

theorem isWord_of_mem_wordsOfChars {cs word : List Char} (h : word ∈ wordsOfChars cs) :
    IsWord word := by
  obtain ⟨hpiece, hne⟩ := List.mem_filter.1 h
  refine ⟨?_, eq_false_of_mem_splitOnP hpiece⟩
  rintro rfl
  cases hne

theorem wordsOfChars_of_isWord {word : List Char} (h : IsWord word) :
    wordsOfChars word = [word] := by
  rw [wordsOfChars, List.splitOnP_eq_singleton h.2, List.filter_cons_of_pos (by simp [h.1]),
    List.filter_nil]

/-- A blank ends a word. -/
theorem wordsOfChars_append_cons {sep : Char} (hsep : isBlank sep = true)
    (before after : List Char) :
    wordsOfChars (before ++ sep :: after) = wordsOfChars before ++ wordsOfChars after := by
  rw [wordsOfChars, List.splitOnP_append_cons before after hsep, List.filter_append, wordsOfChars,
    wordsOfChars]

end Text

end MediaTypes
