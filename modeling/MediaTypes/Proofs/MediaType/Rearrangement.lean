import MediaTypes.Proofs.MediaType.Block
import MediaTypes.Proofs.MediaType.Pattern
import Mathlib.Logic.Relation

/-!
# Order and spacing of parameters

What stands later in a block overrides what stands before it. So the order of segments matters
only where a key is repeated; and blank segments, and blanks around a segment, never matter.

## Main definitions

- `MediaType.valuesOf` — the values that segments give to keys
- `MediaType.Rearranged` — a change of the order or the spacing of segments

## Main statements

- `get?_parameterMap_append` — the values of two blocks in one
- `Rearranged.get?_valuesOf` — a change of order or spacing changes no value
- `concatenation_and_rearrangement` — nor does it change what a pattern matches
-/

namespace MediaTypes

namespace MediaType

/-- The values that segments give to the keys, the case of which is folded. -/
def valuesOf (segments : List String) : Dictionary String String :=
  Dictionary.ofList ((segments.flatMap parameterPairs).map fun p => (Text.lowerAscii p.1, p.2))

/-- The folded keys of the segments that are not blank, in order. -/
def foldedKeys (segments : List String) : List String :=
  (segments.flatMap parameterPairs).map fun p => Text.lowerAscii p.1

theorem parameterMap_intercalate (segments : List String) :
    parameterMap (";".intercalate segments) = valuesOf segments := by
  rw [parameterMap, parameterPairs_intercalate, valuesOf]

theorem intercalate_splitOn (block : String) :
    ";".intercalate (Text.splitOn ';' block) = block :=
  Text.intercalate_splitOn ';' block

theorem get?_valuesOf_append (xs ys : List String) (key : String) :
    (valuesOf (xs ++ ys)).get? key = ((valuesOf ys).get? key).or ((valuesOf xs).get? key) := by
  rw [valuesOf, List.flatMap_append, List.map_append, Dictionary.get?_ofList_append, valuesOf,
    valuesOf]

/-- The values of a block override those of the block before it. -/
theorem get?_parameterMap_append (a b key : String) :
    (parameterMap (a ++ ";" ++ b)).get? key =
      ((parameterMap b).get? key).or ((parameterMap a).get? key) := by
  rw [parameterMap, parameterPairs_append, List.map_append, Dictionary.get?_ofList_append,
    parameterMap, parameterMap]

theorem not_mem_of_allBlank {cs : List Char} (h : Text.AllBlank cs) : ';' ∉ cs := by
  intro hmem
  exact absurd (h ';' hmem) (by decide)

/-- Blanks around a segment do not matter. -/
theorem parameterPairs_surround {left right segment : String} (hleft : Text.AllBlank left.toList)
    (hright : Text.AllBlank right.toList) (h : ';' ∉ segment.toList) :
    parameterPairs (left ++ segment ++ right) = parameterPairs segment := by
  have hsurrounded : ';' ∉ left.toList ++ segment.toList ++ right.toList := by
    simp [h, not_mem_of_allBlank hleft, not_mem_of_allBlank hright]
  have hchars : (left ++ segment ++ right).toList =
      left.toList ++ segment.toList ++ right.toList := by simp
  rw [parameterPairs, pairsOfChars, hchars, segmentsOfChars_of_not_mem hsurrounded,
    Text.trimChars_surround hleft hright, parameterPairs, pairsOfChars,
    segmentsOfChars_of_not_mem h]

theorem parameterPairs_of_allBlank {segment : String} (h : Text.AllBlank segment.toList) :
    parameterPairs segment = [] := by
  rw [parameterPairs, pairsOfChars, segmentsOfChars_of_not_mem (not_mem_of_allBlank h),
    if_pos (Text.trimChars_of_allBlank h)]
  rfl

/-- One change of the order or the spacing of segments. -/
inductive Rearranged : List String → List String → Prop
  | surround (before after : List String) {left right : String} (segment : String)
      (hleft : Text.AllBlank left.toList) (hright : Text.AllBlank right.toList) :
      Rearranged (before ++ segment :: after) (before ++ (left ++ segment ++ right) :: after)
  /-- A blank segment is inserted. -/
  | insert (before after : List String) {blank : String} (h : Text.AllBlank blank.toList) :
      Rearranged (before ++ after) (before ++ blank :: after)
  | remove (before after : List String) {blank : String} (h : Text.AllBlank blank.toList) :
      Rearranged (before ++ blank :: after) (before ++ after)
  /-- A run of segments, no two of which have the same key, is put into another order. -/
  | permute (before after : List String) {run run' : List String} (h : run.Perm run')
      (distinct : (foldedKeys run).Nodup) :
      Rearranged (before ++ run ++ after) (before ++ run' ++ after)

namespace Rearranged

variable {xs ys : List String}

theorem semicolon (h : Rearranged xs ys) (hxs : ∀ s ∈ xs, ';' ∉ s.toList) :
    ∀ s ∈ ys, ';' ∉ s.toList := by
  cases h with
  | surround before after segment hleft hright =>
    simp only [List.forall_mem_append, List.forall_mem_cons] at hxs ⊢
    obtain ⟨hbefore, hsegment, hafter⟩ := hxs
    refine ⟨hbefore, ?_, hafter⟩
    simp [hsegment, not_mem_of_allBlank hleft, not_mem_of_allBlank hright]
  | insert before after hblank =>
    simp only [List.forall_mem_append, List.forall_mem_cons] at hxs ⊢
    exact ⟨hxs.1, not_mem_of_allBlank hblank, hxs.2⟩
  | remove before after hblank =>
    simp only [List.forall_mem_append, List.forall_mem_cons] at hxs ⊢
    exact ⟨hxs.1, hxs.2.2⟩
  | permute before after hperm =>
    simp only [List.forall_mem_append] at hxs ⊢
    exact ⟨⟨hxs.1.1, fun s hs => hxs.1.2 s (hperm.mem_iff.2 hs)⟩, hxs.2⟩

/-- A change of the order or the spacing changes no value. -/
theorem get?_valuesOf (h : Rearranged xs ys) (hxs : ∀ s ∈ xs, ';' ∉ s.toList) (key : String) :
    (valuesOf ys).get? key = (valuesOf xs).get? key := by
  cases h with
  | surround before after segment hleft hright =>
    have hsegment : ';' ∉ segment.toList := hxs segment (by simp)
    rw [valuesOf, valuesOf, List.flatMap_append, List.flatMap_cons,
      parameterPairs_surround hleft hright hsegment, List.flatMap_append, List.flatMap_cons]
  | insert before after hblank =>
    rw [valuesOf, List.flatMap_append, List.flatMap_cons, parameterPairs_of_allBlank hblank,
      List.nil_append, ← List.flatMap_append, valuesOf]
  | remove before after hblank =>
    rw [valuesOf, valuesOf, List.flatMap_append, List.flatMap_append, List.flatMap_cons,
      parameterPairs_of_allBlank hblank, List.nil_append]
  | @permute before after run run' hperm distinct =>
    -- only within the run does anything move, and there no value overrides another
    have hrun : (valuesOf run').get? key = (valuesOf run).get? key := by
      have hpairs := (hperm.flatMap_right parameterPairs).map
        fun p : String × String => (Text.lowerAscii p.1, p.2)
      rw [valuesOf, valuesOf]
      refine (Dictionary.get?_ofList_of_perm hpairs ?_ key).symm
      simpa [foldedKeys, Function.comp_def] using distinct
    simp only [get?_valuesOf_append, hrun]

end Rearranged

/-- Changes of the order and the spacing, one after the other, change no value. -/
theorem get?_valuesOf_of_rearranged {xs ys : List String}
    (h : Relation.ReflTransGen Rearranged xs ys) (hxs : ∀ s ∈ xs, ';' ∉ s.toList) (key : String) :
    (valuesOf ys).get? key = (valuesOf xs).get? key := by
  have hkept : (∀ s ∈ ys, ';' ∉ s.toList) ∧
      (valuesOf ys).get? key = (valuesOf xs).get? key := by
    induction h with
    | refl => exact ⟨hxs, rfl⟩
    | tail _ hstep ih => exact ⟨hstep.semicolon ih.1, (hstep.get?_valuesOf ih.1 key).trans ih.2⟩
  exact hkept.2

theorem semicolon_of_mem_splitOn {block segment : String}
    (h : segment ∈ Text.splitOn ';' block) : ';' ∉ segment.toList :=
  Text.not_mem_piece h

section

variable {a b : String} (h : ∀ key, (parameterMap a).get? key = (parameterMap b).get? key)
include h

theorem lastValue_congr {key value : String} : LastValue a key value ↔ LastValue b key value := by
  rw [← get?_parameterMap_eq_some_iff, ← get?_parameterMap_eq_some_iff, h]

/-- Blocks that give the same values ask for the same. -/
theorem blockAccepts_congr_left (given : Option String) :
    BlockAccepts (some a) given ↔ BlockAccepts (some b) given := by
  cases given with
  | none => constructor <;> rintro ⟨⟩
  | some given => simp only [blockAccepts_some_iff, lastValue_congr h]

/-- Blocks that give the same values are asked for by the same. -/
theorem blockAccepts_congr_right (asked : Option String) :
    BlockAccepts asked (some a) ↔ BlockAccepts asked (some b) := by
  cases asked with
  | none => exact ⟨fun _ => .unasked _, fun _ => .unasked _⟩
  | some asked => simp only [blockAccepts_some_iff, lastValue_congr h]

/-- Types with the same base whose blocks give the same values match alike. -/
theorem matchesPattern_congr {base : String} (hbase : ';' ∉ base.toList) (t : String) :
    matchesPattern (base ++ ";" ++ a) t = matchesPattern (base ++ ";" ++ b) t ∧
      matchesPattern t (base ++ ";" ++ a) = matchesPattern t (base ++ ";" ++ b) := by
  have hne : ∀ block : String, base ++ ";" ++ block ≠ "" := by
    intro block hempty
    simpa using congrArg String.toList hempty
  have hsplit : ∀ block : String, splitBase (base ++ ";" ++ block) = (base, some block) :=
    fun block => splitBase_eq_iff.2 (.full base block hbase)
  constructor
  · rw [Bool.eq_iff_iff, matchesPattern_iff_splitBase, matchesPattern_iff_splitBase]
    simp only [hsplit, blockAccepts_congr_left h]
    exact and_congr_left' (iff_of_true (hne a) (hne b))
  · rw [Bool.eq_iff_iff, matchesPattern_iff_splitBase, matchesPattern_iff_splitBase]
    simp only [hsplit, blockAccepts_congr_right h]

end

/-- **Order and spacing of parameters.** The pairs of two blocks in one are those of the first
followed by those of the second, whose values override the first one's. Hence blanks around the
segments of a type's block, blank segments, and the order of segments with distinct keys make no
difference to matching, whether the type is the pattern or the candidate. The semicolon before the
block stays. -/
theorem concatenation_and_rearrangement :
    (∀ a b, parameterPairs (a ++ ";" ++ b) = parameterPairs a ++ parameterPairs b) ∧
      (∀ a b key, (parameterMap (a ++ ";" ++ b)).get? key =
        ((parameterMap b).get? key).or ((parameterMap a).get? key)) ∧
      ∀ s base block segments, Parts s base (some block) →
        Relation.ReflTransGen Rearranged (Text.splitOn ';' block) segments →
          ∀ t : String,
            matchesPattern (base ++ ";" ++ ";".intercalate segments) t = matchesPattern s t ∧
              matchesPattern t (base ++ ";" ++ ";".intercalate segments) = matchesPattern t s := by
  refine ⟨parameterPairs_append, get?_parameterMap_append, ?_⟩
  intro s base block segments hparts hrearranged t
  cases hparts with
  | full base block hbase =>
    refine matchesPattern_congr (fun key => ?_) hbase t
    rw [parameterMap_intercalate,
      get?_valuesOf_of_rearranged hrearranged fun _ => semicolon_of_mem_splitOn,
      ← parameterMap_intercalate, intercalate_splitOn]

/-- A blank segment is removed, the others are put into another order, and blanks are put around one
of them. -/
theorem concatenation_and_rearrangement_flag :
    Parts ("Text/Plain" ++ ";" ++ " charset=utf-8;Q=1;;flag") "Text/Plain"
        (some " charset=utf-8;Q=1;;flag") ∧
      Relation.ReflTransGen Rearranged (Text.splitOn ';' " charset=utf-8;Q=1;;flag")
        ["\u3000flag\t", "Q=1", " charset=utf-8"] ∧
      matchesPattern
          ("Text/Plain" ++ ";" ++ ";".intercalate ["\u3000flag\t", "Q=1", " charset=utf-8"])
          "text/plain;q=1;CHARSET=utf-8;x" =
        matchesPattern ("Text/Plain" ++ ";" ++ " charset=utf-8;Q=1;;flag")
          "text/plain;q=1;CHARSET=utf-8;x" ∧
      matchesPattern ("Text/Plain" ++ ";" ++ " charset=utf-8;Q=1;;flag")
        "text/plain;q=1;CHARSET=utf-8;x" = true := by
  have hparts : Parts ("Text/Plain" ++ ";" ++ " charset=utf-8;Q=1;;flag") "Text/Plain"
      (some " charset=utf-8;Q=1;;flag") :=
    .full "Text/Plain" " charset=utf-8;Q=1;;flag" (by decide)
  have hsplit : Text.splitOn ';' " charset=utf-8;Q=1;;flag" =
      [" charset=utf-8", "Q=1", "", "flag"] := by
    decide +kernel
  have hremove : Rearranged [" charset=utf-8", "Q=1", "", "flag"]
      [" charset=utf-8", "Q=1", "flag"] :=
    .remove [" charset=utf-8", "Q=1"] ["flag"] (by decide)
  have hperm : [" charset=utf-8", "Q=1", "flag"].Perm ["flag", "Q=1", " charset=utf-8"] := by
    decide
  have hdistinct : (foldedKeys [" charset=utf-8", "Q=1", "flag"]).Nodup := by
    decide +kernel
  have hpermute : Rearranged [" charset=utf-8", "Q=1", "flag"]
      ["flag", "Q=1", " charset=utf-8"] :=
    .permute [] [] hperm hdistinct
  have hleft : Text.AllBlank "\u3000".toList := by decide
  have hright : Text.AllBlank "\t".toList := by decide
  have hsurround : Rearranged ["flag", "Q=1", " charset=utf-8"]
      ["\u3000flag\t", "Q=1", " charset=utf-8"] :=
    .surround [] ["Q=1", " charset=utf-8"] "flag" hleft hright
  have hrearranged := ((Relation.ReflTransGen.single hremove).tail hpermute).tail hsurround
  rw [← hsplit] at hrearranged
  have hsame := concatenation_and_rearrangement.2.2 _ _ _ _ hparts hrearranged
    "text/plain;q=1;CHARSET=utf-8;x"
  exact ⟨hparts, hrearranged, hsame.1, by decide +kernel⟩

/-- The order of segments with the same key matters. -/
example : matchesPattern "t;a=2" "t;a=1;A=2" = true ∧
    matchesPattern "t;a=2" "t;A=2;a=1" = false := by
  decide +kernel

end MediaType

end MediaTypes
