import MediaTypes.Proofs.MediaType.Parameters
import MediaTypes.Proofs.Text.Blank

/-!
# Reading and writing parameter blocks

The pairs of a block are those of its segments, one after the other. A pair that is written as
`key=value` is read as it was written, unless the text that is trimmed, split or skipped in
reading would belong to its key or its value. No pair that is read is of that kind. So writing
the pairs of a block gives a normal form of the block.

## Main definitions

- `MediaType.Admissible` — the pairs that can be read
- `MediaType.blockText` — the text of a list of pairs

## Main statements

- `parameterPairs_append`, `parameterPairs_intercalate` — the pairs of several blocks in one
- `parameterPairs_pairText`, `admissible_of_mem` — the pairs that are read are the admissible ones
- `parameterPairs_normalForm` — reading undoes writing, and what is read can be written
-/

namespace MediaTypes

namespace MediaType

theorem segmentsOfChars_append (a b : List Char) :
    segmentsOfChars (a ++ ';' :: b) = segmentsOfChars a ++ segmentsOfChars b := by
  have hsplit : (a ++ ';' :: b).splitOn ';' = a.splitOn ';' ++ b.splitOn ';' :=
    List.splitOnP_append_cons a b (beq_self_eq_true ';')
  rw [segmentsOfChars, hsplit, List.map_append, List.filter_append, segmentsOfChars,
    segmentsOfChars]

/-- The pairs of two blocks with a semicolon between them are those of both. -/
theorem parameterPairs_append (a b : String) :
    parameterPairs (a ++ ";" ++ b) = parameterPairs a ++ parameterPairs b := by
  have hchars : (a ++ ";" ++ b).toList = a.toList ++ ';' :: b.toList := by simp
  simp only [parameterPairs, pairsOfChars, hchars, segmentsOfChars_append, List.map_append]

theorem parameterPairs_intercalate (blocks : List String) :
    parameterPairs (";".intercalate blocks) = blocks.flatMap parameterPairs := by
  induction blocks with
  | nil => rfl
  | cons first rest ih =>
    cases rest with
    | nil => simp
    | cons second rest =>
      rw [String.intercalate_cons_cons, parameterPairs_append, ih]
      rfl

/-- A text without a semicolon is one segment, which counts unless it is blank. -/
theorem segmentsOfChars_of_not_mem {cs : List Char} (h : ';' ∉ cs) :
    segmentsOfChars cs = if Text.trimChars cs = [] then [] else [Text.trimChars cs] := by
  have hsplit : cs.splitOn ';' = [cs] := by
    refine List.splitOnP_eq_singleton fun c hc => beq_eq_false_iff_ne.2 ?_
    rintro rfl
    exact h hc
  rw [segmentsOfChars, hsplit, List.map_singleton]
  split <;> rename_i htrim
  · rw [htrim]
    rfl
  · exact List.filter_cons_of_pos (by simpa using htrim)

/-- The segments of a block are trimmed, and none of them has a semicolon. -/
theorem segment_of_mem {block segment : List Char} (h : segment ∈ segmentsOfChars block) :
    Text.Trimmed segment ∧ ';' ∉ segment := by
  obtain ⟨hsegment, -⟩ := List.mem_filter.1 h
  obtain ⟨piece, hpiece, rfl⟩ := List.mem_map.1 hsegment
  exact ⟨Text.trimmed_trimChars piece,
    fun hmem => Text.not_mem_of_mem_splitOn hpiece (Text.mem_of_mem_trimChars hmem)⟩

/-- A pair that can be read: nothing of it is taken for a separator or trimmed away. -/
structure Admissible (p : String × String) : Prop where
  key_semicolon : ';' ∉ p.1.toList
  key_equals : '=' ∉ p.1.toList
  key_head : ∀ c ∈ p.1.toList.head?, Text.isBlank c = false
  value_semicolon : ';' ∉ p.2.toList
  value_head : p.2.toList.head? ≠ some '='
  value_last : ∀ c ∈ p.2.toList.getLast?, Text.isBlank c = false

def pairText (p : String × String) : String :=
  p.1 ++ "=" ++ p.2

/-- The text of a list of pairs. -/
def blockText (pairs : List (String × String)) : String :=
  ";".intercalate (pairs.map pairText)

theorem trimmed_pairText {p : String × String} (h : Admissible p) :
    Text.Trimmed (p.1.toList ++ '=' :: p.2.toList) where
  head c hc := by
    cases hkey : p.1.toList with
    | nil =>
      rw [hkey] at hc
      obtain rfl : '=' = c := Option.some.inj hc
      rfl
    | cons d rest =>
      rw [hkey] at hc
      obtain rfl : d = c := Option.some.inj hc
      exact h.key_head d (by rw [hkey]; rfl)
  last c hc := by
    rw [List.getLast?_append_cons, List.getLast?_cons] at hc
    cases hvalue : p.2.toList.getLast? with
    | none =>
      rw [hvalue] at hc
      obtain rfl : '=' = c := Option.some.inj hc
      rfl
    | some d =>
      rw [hvalue] at hc
      obtain rfl : d = c := Option.some.inj hc
      exact h.value_last d hvalue

/-- An admissible pair is read as it is written. -/
theorem parameterPairs_pairText {p : String × String} (h : Admissible p) :
    parameterPairs (pairText p) = [p] := by
  have hchars : (pairText p).toList = p.1.toList ++ '=' :: p.2.toList := by simp [pairText]
  have hsemicolon : ';' ∉ p.1.toList ++ '=' :: p.2.toList := by
    simp [h.key_semicolon, h.value_semicolon]
  have htrim := Text.trimChars_of_trimmed (trimmed_pairText h)
  rw [parameterPairs, pairsOfChars, hchars, segmentsOfChars_of_not_mem hsemicolon, htrim,
    if_neg (by simp), List.map_singleton, pairOfChars, Text.cutChars_append h.key_equals]
  simp only [dropWhile_of_head h.value_head, List.map_singleton, String.ofList_toList]

theorem parameterPairs_blockText {pairs : List (String × String)}
    (h : ∀ p ∈ pairs, Admissible p) : parameterPairs (blockText pairs) = pairs := by
  rw [blockText, parameterPairs_intercalate]
  induction pairs with
  | nil => rfl
  | cons p rest ih =>
    rw [List.map_cons, List.flatMap_cons, parameterPairs_pairText (h p List.mem_cons_self),
      ih fun q hq => h q (List.mem_cons_of_mem p hq), List.singleton_append]

/-- The pair of a trimmed segment is admissible. -/
theorem admissible_pairOfChars {segment : List Char} (htrimmed : Text.Trimmed segment)
    (hsemicolon : ';' ∉ segment) :
    Admissible (String.ofList (pairOfChars segment).1, String.ofList (pairOfChars segment).2) := by
  rcases Text.cutChars_cases '=' segment with ⟨-, heq⟩ | ⟨key, rest, hkey, rfl, heq⟩
  · -- a segment without `=` has an empty key and an empty value
    rw [pairOfChars, heq]
    constructor <;> simp
  · have hvalue : rest.dropWhile (· == '=') <:+ rest := List.dropWhile_suffix _
    have hvalue' : ';' ∉ rest.dropWhile (· == '=') :=
      fun hmem => hsemicolon (by simp [hvalue.subset hmem])
    have hnot := List.head?_dropWhile_not (· == '=') rest
    rw [pairOfChars, heq]
    constructor <;> simp only [String.toList_ofList]
    case key_semicolon => exact fun hmem => hsemicolon (by simp [hmem])
    case key_equals => exact hkey
    case key_head =>
      intro c hc
      exact htrimmed.head c (by rw [List.head?_append, hc, Option.some_or]; rfl)
    case value_semicolon => exact hvalue'
    case value_head =>
      intro hhead
      rw [hhead] at hnot
      exact absurd (beq_self_eq_true '=') (Bool.eq_false_iff.1 hnot)
    case value_last =>
      -- a value that is not empty ends where its segment ends
      intro c hc
      obtain ⟨run, hrun⟩ := hvalue
      refine htrimmed.last c ?_
      rw [← hrun, List.getLast?_append_cons, ← List.cons_append, List.getLast?_append, hc,
        Option.some_or]
      rfl

/-- Every pair that is read is admissible. -/
theorem admissible_of_mem {block : String} {p : String × String}
    (h : p ∈ parameterPairs block) : Admissible p := by
  obtain ⟨chars, hchars, rfl⟩ := List.mem_map.1 h
  obtain ⟨segment, hsegment, rfl⟩ := List.mem_map.1 hchars
  obtain ⟨htrimmed, hsemicolon⟩ := segment_of_mem hsegment
  exact admissible_pairOfChars htrimmed hsemicolon

/-- **The normal form of a block.** Admissible pairs are read as they are written. All pairs of a
block are admissible, and so the text of its pairs is a block with the same pairs and the same
values. -/
theorem parameterPairs_normalForm :
    (∀ pairs, (∀ p ∈ pairs, Admissible p) → parameterPairs (blockText pairs) = pairs) ∧
      ∀ block, (∀ p ∈ parameterPairs block, Admissible p) ∧
        parameterPairs (blockText (parameterPairs block)) = parameterPairs block ∧
        parameterMap (blockText (parameterPairs block)) = parameterMap block := by
  refine ⟨fun pairs => parameterPairs_blockText, fun block => ?_⟩
  have hadmissible : ∀ p ∈ parameterPairs block, Admissible p := fun p => admissible_of_mem
  have hpairs := parameterPairs_blockText hadmissible
  exact ⟨hadmissible, hpairs, by rw [parameterMap, hpairs, parameterMap]⟩

/-- Pairs with a blank at an end that is not trimmed, with `=` inside a value, and with nothing in
them. -/
def spacedPairs : List (String × String) :=
  [("charset ", "\u3000utf-8=="), ("", ""), ("Q", "")]

theorem parameterPairs_normalForm_spaced :
    (∀ p ∈ spacedPairs, Admissible p) ∧ blockText spacedPairs = "charset =\u3000utf-8==;=;Q=" ∧
      parameterPairs (blockText spacedPairs) = spacedPairs := by
  have hcharset : Admissible ("charset ", "\u3000utf-8==") := by
    constructor
    case key_head => simp; decide
    case value_last => simp; decide
    all_goals decide
  have hempty : Admissible ("", "") := by
    constructor
    case key_head => simp
    case value_last => simp
    all_goals decide
  have hflag : Admissible ("Q", "") := by
    constructor
    case key_head => simp; decide
    case value_last => simp
    all_goals decide
  have hadmissible : ∀ p ∈ spacedPairs, Admissible p :=
    List.forall_mem_cons.2 ⟨hcharset, List.forall_mem_cons.2
      ⟨hempty, List.forall_mem_singleton.2 hflag⟩⟩
  exact ⟨hadmissible, by decide +kernel, parameterPairs_normalForm.1 spacedPairs hadmissible⟩

/-- A segment without `=` and a run of `=` are brought to the normal form. -/
example : blockText (parameterPairs " flag ;; a == b;") = "=;a = b" := by decide +kernel

end MediaType

end MediaTypes
