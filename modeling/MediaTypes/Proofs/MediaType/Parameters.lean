import MediaTypes.MediaType.Pattern
import MediaTypes.Proofs.Dictionary
import MediaTypes.Proofs.Text.Blank
import MediaTypes.Proofs.Text.Split

/-!
# What parameters a pattern asks for

The segments of a block stand between its semicolons, and those that are not blank give a value
to a key each. Of several values that a block gives to one key the last one counts. A pattern with
a block is satisfied by a candidate whose block gives every key of the pattern the same last value.
The test that compares the numbers of keys first decides exactly this, since the keys that a block
finds are distinct.

## Main definitions

- `MediaType.Parts` — how a type is written as a base and a block
- `MediaType.SegmentKey`, `MediaType.SegmentValue` — the key and the value of a segment
- `MediaType.LastValue` — the value that counts for a key
- `MediaType.BlockAccepts` — what one block, or a missing one, asks of another

## Main statements

- `splitBase_eq_iff` — a type is split into the parts it is written with
- `parameterPairs_eq`, `segmentKey_iff`, `segmentValue_iff` — the pairs that are read are those of
  the segments
- `parametersMatch_iff` — the test of parameters decides `BlockAccepts` on the blocks
-/

namespace MediaTypes

namespace MediaType

/-- A type is written as a base without a semicolon or, with a block, as the base, a semicolon and
the block. -/
inductive Parts : String → String → Option String → Prop where
  /-- A base alone. -/
  | bare (base : String) (h : ';' ∉ base.toList) : Parts base base none
  /-- A base and a block. -/
  | full (base block : String) (h : ';' ∉ base.toList) :
      Parts (base ++ ";" ++ block) base (some block)

/-- A type is split into the parts it is written with. -/
theorem splitBase_eq_iff {s base : String} {block : Option String} :
    splitBase s = (base, block) ↔ Parts s base block := by
  rw [splitBase]
  constructor
  · intro h
    cases block with
    | none =>
      obtain ⟨rfl, hs⟩ := Text.cut_eq_none_iff.1 h
      exact .bare s hs
    | some block =>
      obtain ⟨rfl, hbase⟩ := Text.cut_eq_some_iff.1 h
      exact .full base block hbase
  · rintro (⟨base, h⟩ | ⟨base, block, h⟩)
    · exact Text.cut_eq_none_iff.2 ⟨rfl, h⟩
    · exact Text.cut_eq_some_iff.2 ⟨rfl, h⟩

theorem splitBase_of_not_mem {s : String} (h : ';' ∉ s.toList) : splitBase s = (s, none) :=
  splitBase_eq_iff.2 (.bare s h)

/-- The parts of a type. -/
theorem parts_splitBase (s : String) : Parts s (splitBase s).1 (splitBase s).2 :=
  splitBase_eq_iff.1 rfl

/-- The key of a segment, with its case folded: what stands before the first `=` of the trimmed
segment. The key is empty if there is no `=`. -/
inductive SegmentKey (segment : String) : String → Prop where
  | named (key value : String) (equals : '=' ∉ key.toList)
      (cut : Text.trim segment = key ++ "=" ++ value) : SegmentKey segment (Text.lowerAscii key)
  | unnamed (equals : '=' ∉ (Text.trim segment).toList) : SegmentKey segment ""

/-- The value of a segment: what follows the first run of `=` of the trimmed segment. The value is
empty if there is no `=`. -/
inductive SegmentValue (segment : String) : String → Prop where
  | named (key run value : String) (equals : '=' ∉ key.toList)
      (run_equals : ∀ c ∈ run.toList, c = '=') (head : value.toList.head? ≠ some '=')
      (cut : Text.trim segment = key ++ "=" ++ run ++ value) : SegmentValue segment value
  | unnamed (equals : '=' ∉ (Text.trim segment).toList) : SegmentValue segment ""

/-- The segments of a block that are not blank, in order. -/
def segments (block : String) : List String :=
  (Text.splitOn ';' block).filter fun segment => ¬ Text.AllBlank segment.toList

/-- The value that counts for a key: that of the last segment with this key. -/
def LastValue (block key value : String) : Prop :=
  ∃ before segment after, segments block = before ++ segment :: after ∧
    SegmentKey segment key ∧ SegmentValue segment value ∧
    ∀ later ∈ after, ¬ SegmentKey later key

/-- What the block of a pattern asks of the block of a candidate: nothing if it is missing, and
otherwise the same value for every key. -/
inductive BlockAccepts : Option String → Option String → Prop where
  /-- A pattern without a block asks for nothing. -/
  | unasked (given : Option String) : BlockAccepts none given
  /-- Every key of the pattern's block has the same value in the candidate's block. -/
  | listed (asked given : String)
      (h : ∀ segment ∈ segments asked, ∀ key, SegmentKey segment key →
        ∃ value, LastValue asked key value ∧ LastValue given key value) :
      BlockAccepts (some asked) (some given)

/-- The pair of a segment as it is read. -/
def pairOf (segment : String) : String × String :=
  let p := pairOfChars (Text.trimChars segment.toList)
  (String.ofList p.1, String.ofList p.2)

/-- The pairs of a block are those of its segments. -/
theorem parameterPairs_eq (block : String) :
    parameterPairs block = (segments block).map pairOf := by
  have hblank : ∀ cs, (!(Text.trimChars cs).isEmpty) = decide (¬ Text.AllBlank cs) := by
    intro cs
    rw [Bool.eq_iff_iff]
    simp [Text.trimChars_eq_nil_iff]
  have hsegments : segmentsOfChars block.toList =
      (segments block).map fun s => Text.trimChars s.toList := by
    rw [segmentsOfChars, segments, Text.splitOn, List.filter_map, List.filter_map, List.map_map]
    simp only [Function.comp_def, hblank, String.toList_ofList]
  rw [parameterPairs, pairsOfChars, hsegments, List.map_map, List.map_map]
  rfl

theorem segmentKey_iff {segment key : String} :
    SegmentKey segment key ↔ Text.lowerAscii (pairOf segment).1 = key := by
  constructor
  · rintro (⟨key, value, equals, cut⟩ | equals)
    · have hchars := congrArg String.toList cut
      simp only [Text.toList_trim, String.toList_append] at hchars
      rw [pairOf, hchars, pairOfChars]
      simp [Text.cutChars_append equals]
    · rw [Text.toList_trim] at equals
      rw [pairOf, pairOfChars, Text.cutChars_of_not_mem equals]
      rfl
  · rintro rfl
    rcases Text.cutChars_cases '=' (Text.trimChars segment.toList) with
      ⟨hequals, heq⟩ | ⟨before, after, hequals, hchars, heq⟩
    · rw [pairOf, pairOfChars, heq]
      exact .unnamed (by rwa [Text.toList_trim])
    · rw [pairOf, pairOfChars, heq]
      refine .named (String.ofList before) (String.ofList after)
        (by rwa [String.toList_ofList]) ?_
      exact String.toList_inj.1 (by simp [hchars])

theorem dropWhile_of_head {value : List Char} (h : value.head? ≠ some '=') :
    value.dropWhile (· == '=') = value := by
  cases value with
  | nil => rfl
  | cons c rest =>
    refine List.dropWhile_cons_of_neg fun hc => h ?_
    rw [List.head?_cons, eq_of_beq hc]

theorem segmentValue_iff {segment value : String} :
    SegmentValue segment value ↔ (pairOf segment).2 = value := by
  constructor
  · rintro (⟨key, run, value, equals, run_equals, head, cut⟩ | equals)
    · have hchars := congrArg String.toList cut
      simp only [Text.toList_trim, String.toList_append, List.append_assoc] at hchars
      have hrun : (run.toList ++ value.toList).dropWhile (· == '=') = value.toList := by
        rw [List.dropWhile_append_of_pos fun c hc => beq_iff_eq.2 (run_equals c hc),
          dropWhile_of_head head]
      rw [pairOf, hchars, pairOfChars]
      simp [Text.cutChars_append equals, hrun]
    · rw [Text.toList_trim] at equals
      rw [pairOf, pairOfChars, Text.cutChars_of_not_mem equals]
  · rintro rfl
    rcases Text.cutChars_cases '=' (Text.trimChars segment.toList) with
      ⟨hequals, heq⟩ | ⟨before, after, hequals, hchars, heq⟩
    · rw [pairOf, pairOfChars, heq]
      exact .unnamed (by rwa [Text.toList_trim])
    · -- the value is what is left of the text after the first `=`
      rw [pairOf, pairOfChars, heq]
      refine .named (String.ofList before) (String.ofList (after.takeWhile (· == '=')))
        (String.ofList (after.dropWhile (· == '='))) (by rwa [String.toList_ofList]) ?_ ?_ ?_
      · intro c hc
        rw [String.toList_ofList] at hc
        exact eq_of_beq (List.all_eq_true.1 List.all_takeWhile c hc)
      · intro hhead
        have hnot := List.head?_dropWhile_not (· == '=') after
        rw [String.toList_ofList] at hhead
        rw [hhead] at hnot
        exact absurd (beq_self_eq_true '=') (Bool.eq_false_iff.1 hnot)
      · exact String.toList_inj.1 (by simp [hchars, List.takeWhile_append_dropWhile])

/-- The value that counts is that of the last pair whose key folds to the key. -/
theorem lastValue_iff_pairs {block key value : String} :
    LastValue block key value ↔
      ∃ before after name, parameterPairs block = before ++ (name, value) :: after ∧
        Text.lowerAscii name = key ∧ ∀ p ∈ after, Text.lowerAscii p.1 ≠ key := by
  rw [LastValue, parameterPairs_eq]
  simp only [segmentKey_iff, segmentValue_iff]
  constructor
  · rintro ⟨before, segment, after, heq, hkey, rfl, hafter⟩
    refine ⟨before.map pairOf, after.map pairOf, (pairOf segment).1, ?_, hkey, ?_⟩
    · rw [heq, List.map_append, List.map_cons]
    · simpa using hafter
  · rintro ⟨before, after, name, heq, hkey, hafter⟩
    obtain ⟨before', rest, hsegments, -, hrest⟩ := List.map_eq_append_iff.1 heq
    obtain ⟨segment, after', rfl, hpair, rfl⟩ := List.map_eq_cons_iff.1 hrest
    refine ⟨before', segment, after', hsegments, ?_, ?_, fun later hlater => ?_⟩
    · rw [hpair, hkey]
    · rw [hpair]
    · exact hafter (pairOf later) (List.mem_map_of_mem hlater)

/-- The map of a block finds the value that counts. -/
theorem get?_parameterMap_eq_some_iff {block key value : String} :
    (parameterMap block).get? key = some value ↔ LastValue block key value := by
  rw [parameterMap, lastValue_iff_pairs, Dictionary.get?_ofList_eq_some_iff]
  constructor
  · rintro ⟨before, after, heq, hafter⟩
    obtain ⟨before', rest, hpairs, rfl, hrest⟩ := List.map_eq_append_iff.1 heq
    obtain ⟨p, after', rfl, hp, rfl⟩ := List.map_eq_cons_iff.1 hrest
    obtain ⟨hkey, rfl⟩ := Prod.mk.inj hp
    refine ⟨before', after', p.1, hpairs, hkey, fun q hq => ?_⟩
    exact hafter (Text.lowerAscii q.1, q.2) (List.mem_map.2 ⟨q, hq, rfl⟩)
  · rintro ⟨before, after, name, heq, rfl, hafter⟩
    refine ⟨_, _, by rw [heq, List.map_append, List.map_cons], ?_⟩
    intro e he
    obtain ⟨p, hp, rfl⟩ := List.mem_map.1 he
    exact hafter p hp

theorem LastValue.unique {block key v w : String} (hv : LastValue block key v)
    (hw : LastValue block key w) : v = w := by
  rw [← get?_parameterMap_eq_some_iff] at hv hw
  exact Option.some.inj (hv.symm.trans hw)

/-- A value that counts is that of a segment. -/
theorem LastValue.exists_segment {block key value : String} (h : LastValue block key value) :
    ∃ segment ∈ segments block, SegmentKey segment key := by
  obtain ⟨before, segment, after, heq, hkey, -⟩ := h
  refine ⟨segment, ?_, hkey⟩
  rw [heq]
  exact List.mem_append_right before List.mem_cons_self

/-- The key of every segment has a value that counts. -/
theorem exists_lastValue {block segment key : String} (hsegment : segment ∈ segments block)
    (hkey : SegmentKey segment key) : ∃ value, LastValue block key value := by
  cases h : (parameterMap block).get? key with
  | some value => exact ⟨value, get?_parameterMap_eq_some_iff.1 h⟩
  | none =>
    have habsent := Dictionary.get?_ofList_eq_none_iff.1 h
    simp only [parameterPairs_eq, List.forall_mem_map] at habsent
    exact absurd (segmentKey_iff.1 hkey) (habsent segment hsegment)

/-- Between two blocks: every value that counts in the pattern's block counts in the
candidate's. -/
theorem blockAccepts_some_iff {asked given : String} :
    BlockAccepts (some asked) (some given) ↔
      ∀ key value, LastValue asked key value → LastValue given key value := by
  constructor
  · rintro (_ | ⟨_, _, h⟩) key value hv
    obtain ⟨segment, hsegment, hkey⟩ := hv.exists_segment
    obtain ⟨value', hasked, hgiven⟩ := h segment hsegment key hkey
    rwa [hv.unique hasked]
  · intro h
    refine .listed asked given fun segment hsegment key hkey => ?_
    obtain ⟨value, hv⟩ := exists_lastValue hsegment hkey
    exact ⟨value, hv, h key value hv⟩

theorem BlockAccepts.refl (block : Option String) : BlockAccepts block block := by
  cases block with
  | none => exact .unasked none
  | some b => exact blockAccepts_some_iff.2 fun _ _ h => h

theorem BlockAccepts.trans {a b c : Option String} (hab : BlockAccepts a b)
    (hbc : BlockAccepts b c) : BlockAccepts a c := by
  cases hab with
  | unasked => exact .unasked c
  | listed asked middle h =>
    have hab := blockAccepts_some_iff.1 (.listed asked middle h)
    cases hbc with
    | listed _ given h' =>
      have hbc := blockAccepts_some_iff.1 (.listed middle given h')
      exact blockAccepts_some_iff.2 fun key value hv => hbc key value (hab key value hv)

/-- The comparison of the numbers of keys never changes the answer. -/
theorem mapIncluded_iff {asked given : String} :
    ((parameterMap asked).size ≤ (parameterMap given).size &&
      (parameterMap asked).entries.all fun e => (parameterMap given).get? e.1 == some e.2) = true ↔
      BlockAccepts (some asked) (some given) := by
  simp only [Bool.and_eq_true, decide_eq_true_eq, List.all_eq_true, beq_iff_eq,
    blockAccepts_some_iff, ← get?_parameterMap_eq_some_iff]
  constructor
  · rintro ⟨-, h⟩ key value hv
    exact h _ (Dictionary.get?_eq_some_iff.1 hv)
  · -- what is included has no more keys, so that the first test loses nothing
    intro h
    exact ⟨Dictionary.size_le_of_get? h, fun e he => h _ _ (Dictionary.get?_eq_some_iff.2 he)⟩

/-- The test of parameters decides what the block of the pattern asks. -/
theorem parametersMatch_iff {pattern candidate : String} :
    parametersMatch pattern candidate = true ↔
      BlockAccepts (splitBase pattern).2 (splitBase candidate).2 := by
  rw [parametersMatch]
  cases (splitBase pattern).2 with
  | none => simpa using BlockAccepts.unasked _
  | some asked =>
    cases (splitBase candidate).2 with
    | none =>
      constructor
      · intro h
        exact absurd h Bool.false_ne_true
      · intro h
        cases h
    | some given => exact mapIncluded_iff

end MediaType

end MediaTypes
