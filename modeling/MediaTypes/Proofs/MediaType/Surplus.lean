import MediaTypes.Proofs.MediaType.Rearrangement

/-!
# Parameters that a pattern does not ask for

A pattern asks for the keys of its own block. A segment with another key, or a blank one, may be
added to the end of a candidate: all that it can override is a value that is not asked for. If the
candidate has no parameters before, the segment gives it its first block. No match is lost by this,
but one may be won, since a pattern whose segments are all blank asks for a block and for nothing
in it.

## Main definitions

- `MediaType.AsksFor` — a pattern asks for a key

## Main statements

- `mem_foldedKeys_iff` — the keys that segments give values to
- `blockAccepts_append_iff` — values of other keys at the end of a block
- `surplus_parameter_ignored` — what is not asked for is ignored
-/

namespace MediaTypes

namespace MediaType

/-- A segment of the pattern's block that is not blank has the key. -/
def AsksFor (pattern key : String) : Prop :=
  ∃ base block, Parts pattern base (some block) ∧
    ∃ segment ∈ Text.splitOn ';' block, ¬ Text.AllBlank segment.toList ∧ SegmentKey segment key

/-- A segment that is not blank has one pair. -/
theorem parameterPairs_segment {segment : String} (hsemicolon : ';' ∉ segment.toList)
    (hblank : ¬ Text.AllBlank segment.toList) :
    ∃ p, parameterPairs segment = [p] ∧
      ∀ key, SegmentKey segment key ↔ Text.lowerAscii p.1 = key := by
  have htrim : Text.trimChars segment.toList ≠ [] := fun h => hblank (Text.trimChars_eq_nil_iff.1 h)
  rw [parameterPairs, pairsOfChars, segmentsOfChars_of_not_mem hsemicolon, if_neg htrim]
  exact ⟨_, rfl, fun key => segmentKey_iff⟩

/-- The keys that segments give values to are those of the segments that are not blank. -/
theorem mem_foldedKeys_iff {segments : List String} (h : ∀ s ∈ segments, ';' ∉ s.toList)
    {key : String} :
    key ∈ foldedKeys segments ↔
      ∃ s ∈ segments, ¬ Text.AllBlank s.toList ∧ SegmentKey s key := by
  simp only [foldedKeys, List.mem_map, List.mem_flatMap]
  constructor
  · rintro ⟨p, ⟨s, hs, hp⟩, rfl⟩
    have hblank : ¬ Text.AllBlank s.toList := by
      intro hall
      rw [parameterPairs_of_allBlank hall] at hp
      cases hp
    obtain ⟨q, hpairs, hkey⟩ := parameterPairs_segment (h s hs) hblank
    rw [hpairs, List.mem_singleton] at hp
    exact ⟨s, hs, hblank, (hkey _).2 (by rw [hp])⟩
  · rintro ⟨s, hs, hblank, hkey⟩
    obtain ⟨p, hpairs, hp⟩ := parameterPairs_segment (h s hs) hblank
    exact ⟨p, ⟨s, hs, by rw [hpairs]; exact List.mem_singleton_self p⟩, (hp key).1 hkey⟩

theorem get?_valuesOf_of_not_mem {segments : List String} {key : String}
    (h : key ∉ foldedKeys segments) : (valuesOf segments).get? key = none := by
  rw [valuesOf, Dictionary.get?_ofList_eq_none_iff]
  intro e he hkey
  obtain ⟨p, hp, rfl⟩ := List.mem_map.1 he
  exact h (List.mem_map.2 ⟨p, hp, hkey⟩)

theorem LastValue.mem_foldedKeys {block key value : String} (h : LastValue block key value) :
    key ∈ foldedKeys (Text.splitOn ';' block) := by
  obtain ⟨segment, hsegment, hkey⟩ := h.exists_segment
  obtain ⟨hs, hblank⟩ := List.mem_filter.1 hsegment
  exact (mem_foldedKeys_iff fun _ => semicolon_of_mem_splitOn).2
    ⟨segment, hs, of_decide_eq_true hblank, hkey⟩

/-- A segment at the end of a block overrides the value of its own key only. -/
theorem lastValue_append_iff {given segment key value : String} (h : key ∉ foldedKeys [segment]) :
    LastValue (given ++ ";" ++ segment) key value ↔ LastValue given key value := by
  have hnone : (parameterMap segment).get? key = none := by
    have hvalues := get?_valuesOf_of_not_mem h
    rwa [← parameterMap_intercalate, String.intercalate_singleton] at hvalues
  rw [← get?_parameterMap_eq_some_iff, get?_parameterMap_append, hnone, Option.none_or,
    get?_parameterMap_eq_some_iff]

/-- At the end of a block, a segment whose key is not asked for makes no difference. -/
theorem blockAccepts_append_iff {asked given segment : String}
    (h : ∀ key ∈ foldedKeys [segment], key ∉ foldedKeys (Text.splitOn ';' asked)) :
    BlockAccepts (some asked) (some (given ++ ";" ++ segment)) ↔
      BlockAccepts (some asked) (some given) := by
  have hvalue : ∀ key value, LastValue asked key value →
      (LastValue (given ++ ";" ++ segment) key value ↔ LastValue given key value) := by
    intro key value hasked
    apply lastValue_append_iff
    intro hsegment
    exact h key hsegment hasked.mem_foldedKeys
  rw [blockAccepts_some_iff, blockAccepts_some_iff]
  constructor
  · intro haccepts key value hasked
    exact (hvalue key value hasked).1 (haccepts key value hasked)
  · intro haccepts key value hasked
    exact (hvalue key value hasked).2 (haccepts key value hasked)

/-- A segment goes to the end of the block, or makes a block of its own. -/
theorem Parts.append {s base : String} {block : Option String} (h : Parts s base block)
    (segment : String) :
    Parts (s ++ ";" ++ segment) base
      (some (block.elim segment fun b => b ++ ";" ++ segment)) := by
  cases h with
  | bare _ h => exact .full s segment h
  | full base block h =>
    have hs : base ++ ";" ++ block ++ ";" ++ segment =
        base ++ ";" ++ (block ++ ";" ++ segment) := by
      simp only [String.append_assoc]
    rw [hs]
    exact .full base _ h

theorem Parts.mem_semicolon_iff {s base : String} {block : Option String}
    (h : Parts s base block) : ';' ∈ s.toList ↔ ∃ b, block = some b := by
  cases h with
  | bare _ h => simp [h]
  | full base block h => simp

/-- What the pattern does not ask for is no key of its block. -/
theorem not_mem_foldedKeys_of_surplus {pattern base asked segment : String}
    (hpattern : Parts pattern base (some asked)) (hsemicolon : ';' ∉ segment.toList)
    (hsurplus : Text.AllBlank segment.toList ∨
      ∀ key, SegmentKey segment key → ¬ AsksFor pattern key) :
    ∀ key ∈ foldedKeys [segment], key ∉ foldedKeys (Text.splitOn ';' asked) := by
  intro key hsegment hasked
  obtain ⟨s, hs, hblank, hkey⟩ :=
    (mem_foldedKeys_iff (List.forall_mem_singleton.2 hsemicolon)).1 hsegment
  obtain rfl := List.mem_singleton.1 hs
  rcases hsurplus with hall | hunasked
  · exact hblank hall
  · apply hunasked key hkey
    exact ⟨base, asked, hpattern, (mem_foldedKeys_iff fun _ => semicolon_of_mem_splitOn).1 hasked⟩

/-- The block that a segment is added to is accepted no less than before, and no more either if it
was there before. -/
theorem blockAccepts_of_surplus {pattern base segment : String} {asked given : Option String}
    (hpattern : Parts pattern base asked) (hsemicolon : ';' ∉ segment.toList)
    (hsurplus : Text.AllBlank segment.toList ∨
      ∀ key, SegmentKey segment key → ¬ AsksFor pattern key) :
    (BlockAccepts asked given →
      BlockAccepts asked (some (given.elim segment fun b => b ++ ";" ++ segment))) ∧
    ∀ b, given = some b → BlockAccepts asked (some (b ++ ";" ++ segment)) →
      BlockAccepts asked given := by
  cases asked with
  | none => exact ⟨fun _ => .unasked _, fun _ _ _ => .unasked _⟩
  | some asked =>
    have hkeys := not_mem_foldedKeys_of_surplus hpattern hsemicolon hsurplus
    constructor
    · intro haccepts
      cases given with
      | none => cases haccepts
      | some b => exact (blockAccepts_append_iff hkeys).2 haccepts
    · rintro b rfl haccepts
      exact (blockAccepts_append_iff hkeys).1 haccepts

/-- **Parameters that are not asked for are ignored.** A segment that is blank, or has a key that
the pattern does not ask for, may be added to the end of a candidate that matches. If the candidate
has parameters already, it may as well be taken away. -/
theorem surplus_parameter_ignored {pattern candidate segment : String}
    (hsemicolon : ';' ∉ segment.toList)
    (hsurplus : Text.AllBlank segment.toList ∨
      ∀ key, SegmentKey segment key → ¬ AsksFor pattern key) :
    (matchesPattern pattern candidate = true →
      matchesPattern pattern (candidate ++ ";" ++ segment) = true) ∧
    (';' ∈ candidate.toList → matchesPattern pattern (candidate ++ ";" ++ segment) = true →
      matchesPattern pattern candidate = true) := by
  have hcandidate := parts_splitBase candidate
  obtain ⟨hadded, htaken⟩ :=
    blockAccepts_of_surplus (parts_splitBase pattern) hsemicolon hsurplus
  rw [matchesPattern_iff_splitBase, matchesPattern_iff_splitBase,
    splitBase_eq_iff.2 (hcandidate.append segment), hcandidate.mem_semicolon_iff]
  -- the base stays as it is, and so everything turns on the blocks
  constructor
  · rintro ⟨hne, hbase, haccepts⟩
    exact ⟨hne, hbase, hadded haccepts⟩
  · rintro ⟨b, hb⟩ ⟨hne, hbase, haccepts⟩
    rw [hb] at haccepts
    exact ⟨hne, hbase, htaken b hb haccepts⟩

/-- A key that has blanks around it and capitals is not asked for by a pattern with blank
segments. -/
theorem surplus_parameter_ignored_charset :
    (';' ∉ "\tCharset==utf-8 ".toList ∧
      ∀ key, SegmentKey "\tCharset==utf-8 " key → ¬ AsksFor "Text/*;Q=1; ;" key) ∧
    matchesPattern "Text/*;Q=1; ;" ("text/plain;q=1" ++ ";" ++ "\tCharset==utf-8 ") = true ∧
    (';' ∈ "text/plain;q=1".toList ∧ matchesPattern "Text/*;Q=1; ;" "text/plain;q=1" = true) := by
  have hsemicolon : ';' ∉ "\tCharset==utf-8 ".toList := by decide
  have hparts : splitBase "Text/*;Q=1; ;" = ("Text/*", some "Q=1; ;") := by decide +kernel
  have hsegments : Text.splitOn ';' "Q=1; ;" = ["Q=1", " ", ""] := by decide +kernel
  have hunasked : ∀ key, SegmentKey "\tCharset==utf-8 " key → ¬ AsksFor "Text/*;Q=1; ;" key := by
    rintro key hkey ⟨base, block, hpattern, s, hs, -, hasked⟩
    obtain ⟨-, rfl⟩ : "Text/*" = base ∧ "Q=1; ;" = block := by
      simpa [hparts] using splitBase_eq_iff.2 hpattern
    have hother : ∀ s ∈ ["Q=1", " ", ""],
        Text.lowerAscii (pairOf s).1 ≠ Text.lowerAscii (pairOf "\tCharset==utf-8 ").1 := by
      decide +kernel
    rw [hsegments] at hs
    rw [segmentKey_iff] at hkey hasked
    exact hother s hs (hasked.trans hkey.symm)
  have hmatches : matchesPattern "Text/*;Q=1; ;" "text/plain;q=1" = true := by decide +kernel
  have hblock : ';' ∈ "text/plain;q=1".toList := by decide
  obtain ⟨hadded, htaken⟩ := @surplus_parameter_ignored "Text/*;Q=1; ;" "text/plain;q=1" _
    hsemicolon (.inr hunasked)
  exact ⟨⟨hsemicolon, hunasked⟩, hadded hmatches, hblock, htaken hblock (hadded hmatches)⟩

/-- The first block of a candidate may win a match, and a key that is asked for may lose one. -/
example : matchesPattern "t;" "t" = false ∧ matchesPattern "t;" "t;x" = true ∧
    matchesPattern "t;a=1" "t;a=1" = true ∧ matchesPattern "t;a=1" "t;a=1;A=2" = false := by
  decide +kernel

end MediaType

end MediaTypes
