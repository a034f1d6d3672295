import MediaTypes.Text.Blank
import Mathlib.Data.List.DropRight

/-!
# Trimming

A trimmed text neither begins nor ends with a blank, and such a text is left alone by trimming.
Blanks put around a text are lost when it is trimmed.

## Main definitions

- `Text.Trimmed` — no blank stands at either end
- `Text.AllBlank` — there are blanks only

## Main statements

- `trimmed_trimChars`, `trimChars_of_trimmed` — trimming makes a text trimmed, and only then
  changes it
- `trimChars_surround` — blanks around a text are trimmed away
- `trimChars_eq_nil_iff` — the texts of which nothing is left
-/

namespace MediaTypes

namespace Text

/-- Neither the first nor the last character is blank. -/
structure Trimmed (cs : List Char) : Prop where
  head : ∀ c ∈ cs.head?, isBlank c = false
  last : ∀ c ∈ cs.getLast?, isBlank c = false

/-- All characters are blank. -/
def AllBlank (cs : List Char) : Prop :=
  ∀ c ∈ cs, isBlank c = true

instance (cs : List Char) : Decidable (AllBlank cs) :=
  List.decidableBAll (fun c => isBlank c = true) cs

theorem trimEndChars_eq_rdropWhile (cs : List Char) : trimEndChars cs = cs.rdropWhile isBlank :=
  rfl

theorem prefix_of_trimChars (cs : List Char) : trimChars cs <+: trimStartChars cs := by
  rw [trimChars, trimEndChars_eq_rdropWhile]
  exact List.rdropWhile_prefix isBlank _

theorem mem_of_mem_trimChars {c : Char} {cs : List Char} (h : c ∈ trimChars cs) : c ∈ cs :=
  (List.dropWhile_suffix isBlank).subset ((prefix_of_trimChars cs).subset h)

theorem trimmed_trimChars (cs : List Char) : Trimmed (trimChars cs) where
  head c hc := by
    -- what is left begins as it did before its end was trimmed
    obtain ⟨rest, hrest⟩ := prefix_of_trimChars cs
    have hstart : (cs.dropWhile isBlank).head? = some c := by
      rw [← trimStartChars, ← hrest, List.head?_append, hc, Option.some_or]
    have hnot := List.head?_dropWhile_not isBlank cs
    rwa [hstart] at hnot
  last c hc := by
    obtain ⟨hne, rfl⟩ := List.mem_getLast?_eq_getLast hc
    exact Bool.eq_false_iff.2 (List.rdropWhile_last_not isBlank (trimStartChars cs) hne)

/-- A text without blanks is trimmed. -/
theorem trimmed_of_any_eq_false {cs : List Char} (h : cs.any isBlank = false) : Trimmed cs := by
  have hnone : ∀ c ∈ cs, isBlank c = false := fun c hc =>
    Bool.eq_false_iff.2 (List.any_eq_false.1 h c hc)
  constructor
  · intro c hc
    exact hnone c (List.mem_of_mem_head? hc)
  · intro c hc
    exact hnone c (List.mem_of_mem_getLast? hc)

theorem trimChars_of_trimmed {cs : List Char} (h : Trimmed cs) : trimChars cs = cs := by
  have hstart : trimStartChars cs = cs := by
    cases cs with
    | nil => rfl
    | cons c rest =>
      have hc := h.head c rfl
      rw [trimStartChars, List.dropWhile_cons_of_neg (by rw [hc]; exact Bool.false_ne_true)]
  rw [trimChars, hstart, trimEndChars_eq_rdropWhile, List.rdropWhile_eq_self_iff]
  intro hne
  rw [h.last _ (List.getLast_mem_getLast? hne)]
  exact Bool.false_ne_true

theorem trimEndChars_append (cs : List Char) {blanks : List Char} (h : AllBlank blanks) :
    trimEndChars (cs ++ blanks) = trimEndChars cs := by
  rw [trimEndChars, List.reverse_append,
    List.dropWhile_append_of_pos fun c hc => h c (List.mem_reverse.1 hc), trimEndChars]

/-- Blanks around a text are trimmed away. -/
theorem trimChars_surround {left right : List Char} (hleft : AllBlank left)
    (hright : AllBlank right) (cs : List Char) :
    trimChars (left ++ cs ++ right) = trimChars cs := by
  have hstart : trimStartChars (left ++ cs ++ right) = trimStartChars (cs ++ right) := by
    rw [List.append_assoc, trimStartChars, List.dropWhile_append_of_pos hleft, trimStartChars]
  rw [trimChars, hstart, trimStartChars, List.dropWhile_append]
  split
  · -- a text of blanks goes with the blanks around it
    rename_i hempty
    rw [trimChars, trimStartChars, List.isEmpty_iff.1 hempty]
    exact trimEndChars_append [] (fun c hc =>
      hright c ((List.dropWhile_suffix isBlank).subset hc))
  · rw [trimEndChars_append _ hright, trimChars, trimStartChars]

theorem trimChars_of_allBlank {cs : List Char} (h : AllBlank cs) : trimChars cs = [] := by
  have hsurround := trimChars_surround h (List.forall_mem_nil _) []
  rwa [List.append_nil, List.append_nil] at hsurround

/-- Only of a text of blanks nothing is left. -/
theorem trimChars_eq_nil_iff {cs : List Char} : trimChars cs = [] ↔ AllBlank cs := by
  constructor
  · intro h c hc
    rw [trimChars, trimEndChars_eq_rdropWhile, List.rdropWhile_eq_nil_iff] at h
    -- the character is one of the leading blanks or of what is left after them
    rw [← List.takeWhile_append_dropWhile (p := isBlank) (l := cs)] at hc
    rcases List.mem_append.1 hc with hleading | hrest
    · exact List.all_eq_true.1 List.all_takeWhile c hleading
    · exact h c hrest
  · exact trimChars_of_allBlank

end Text

end MediaTypes
