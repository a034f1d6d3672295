import MediaTypes.Proofs.MediaType.Preorder
import MediaTypes.Proofs.Resolver.Reverse

/-!
# Reverse lookups and the matcher

A reverse lookup selects mappings by the beginning of their types, and does not ask the matcher.
It selects the same mappings all the same: before its star a pattern `type/*` has no semicolon, so
that a type begins with it just if the type without its parameters does. For a type that is no
pattern the lookup selects more, since a type may begin with it and go on.

## Main definitions

- `Tables.Matched` — the extensions of the mappings that a pattern matches

## Main statements

- `matchesPattern_wildcard_iff` — what a pattern `type/*` matches
- `extensionsOfType_agrees_with_matcher` — the selected mappings are those that match
-/

namespace MediaTypes

namespace MediaType

/-- A beginning without a semicolon lies before the parameters. -/
theorem prefix_base_iff {leading : List Char} (hsemicolon : ';' ∉ leading) (s : String) :
    leading <+: Text.lowerAsciiChars (splitBase s).1.toList ↔
      leading <+: Text.lowerAsciiChars s.toList := by
  have hfold : Text.lowerAsciiChar ';' = ';' := rfl
  rcases hparts : splitBase s with ⟨base, block⟩
  cases splitBase_eq_iff.1 hparts with
  | bare => rfl
  | full base block =>
    have hs : Text.lowerAsciiChars (base ++ ";" ++ block).toList =
        Text.lowerAsciiChars base.toList ++ ';' :: Text.lowerAsciiChars block.toList := by
      simp [hfold]
    rw [hs]
    -- the block stands behind a semicolon, beyond which the beginning does not reach
    constructor
    · exact fun h => h.trans (List.prefix_append _ _)
    · exact prefix_of_not_mem hsemicolon

theorem not_fullWildcard_of_not_mem {s : String} (hstar : '*' ∉ s.toList) :
    isFullWildcard s = false := by
  rw [isFullWildcard_eq_false_iff]
  rintro (rfl | rfl) <;> exact hstar (by decide)

variable {t : String}

theorem toList_wildcard (t : String) : (t ++ "/*").toList = (t ++ "/").toList ++ ['*'] := by
  simp

/-- What begins with a type and a slash is too broad only if that type is the star. -/
theorem not_fullWildcard_of_leading {top s : String} (hnarrow : top ≠ "*")
    (h : (top ++ "/").toList <+: s.toList) : isFullWildcard s = false := by
  rw [isFullWildcard_eq_false_iff]
  rw [String.toList_append] at h
  rintro (rfl | rfl)
  · exact absurd (h.subset (by simp) : '/' ∈ ['*']) (by decide)
  · -- the only slash is behind a star
    have hparts : top.toList ++ ['/'] <+: ['*', '/'] ++ ['*'] := h
    rcases List.prefix_concat_iff.1 hparts with hwhole | hbefore
    · exact absurd (List.append_inj_right' hwhole rfl) (by decide)
    have hparts : top.toList ++ ['/'] <+: ['*'] ++ ['/'] := hbefore
    rcases List.prefix_concat_iff.1 hparts with hstar | hbefore
    · exact hnarrow (String.toList_inj.1 (List.append_cancel_right hstar))
    · exact absurd (hbefore.subset (by simp) : '/' ∈ ['*']) (by decide)

theorem not_fullWildcard_append (hstar : '*' ∉ t.toList) : isFullWildcard (t ++ "/*") = false := by
  refine not_fullWildcard_of_leading ?_ ⟨['*'], (toList_wildcard t).symm⟩
  rintro rfl
  exact hstar (by decide)

/-- A pattern `type/*` matches what begins with the type and a slash. -/
theorem matchesPattern_wildcard_iff (hstar : '*' ∉ t.toList) (hsemicolon : ';' ∉ t.toList)
    (candidate : String) :
    matchesPattern (t ++ "/*") candidate = true ↔
      Text.lowerAsciiChars (t ++ "/").toList <+: Text.lowerAsciiChars candidate.toList := by
  have hbase : splitBase (t ++ "/*") = (t ++ "/*", none) :=
    splitBase_of_not_mem (by simp [hsemicolon])
  have hcut : Text.cutChars '*' (t ++ "/*").toList = ((t ++ "/").toList, some []) := by
    rw [toList_wildcard]
    exact Text.cutChars_append (by simp [hstar]) []
  have hleading : ';' ∉ Text.lowerAsciiChars (t ++ "/").toList := by
    rw [Text.mem_lowerAsciiChars_iff (by decide)]
    simp [hsemicolon]
  -- nothing follows the star, and so the comparison of lengths asks for no more than the beginning
  rw [matchesPattern_iff_splitBase, hbase, ← baseMatches_iff, baseMatches,
    not_fullWildcard_append hstar, if_neg Bool.false_ne_true, hcut, ← prefix_base_iff hleading]
  simp only [matchesAround_iff, Text.lowerAsciiChars_nil, List.append_nil]
  constructor
  · rintro ⟨-, ⟨middle, hmiddle⟩, -⟩
    exact ⟨middle, hmiddle.symm⟩
  · rintro ⟨middle, hmiddle⟩
    exact ⟨by simp, ⟨middle, hmiddle.symm⟩, .unasked _⟩

/-- What a text without a star matches begins with it. -/
theorem prefix_of_matchesPattern {p candidate : String} (hstar : '*' ∉ p.toList)
    (hsemicolon : ';' ∉ p.toList) (h : matchesPattern p candidate = true) :
    Text.lowerAsciiChars p.toList <+: Text.lowerAsciiChars candidate.toList := by
  rw [matchesPattern_iff_splitBase, splitBase_of_not_mem hsemicolon] at h
  have hbase : BaseAccepts p (splitBase candidate).1 := h.2.1
  have hleading : ';' ∉ Text.lowerAsciiChars p.toList := by
    rwa [Text.mem_lowerAsciiChars_iff (by decide)]
  rw [← prefix_base_iff hleading]
  cases hbase with
  | anything h =>
    rw [← isFullWildcard_iff, not_fullWildcard_of_not_mem hstar] at h
    exact absurd h Bool.false_ne_true
  | literal _ fold =>
    exact ⟨[], (List.append_nil _).trans (Text.eqFold_iff_chars.1 fold)⟩
  | around left right middle _ cut _ => exact absurd (by simp [cut]) hstar

end MediaType

namespace Tables

theorem hasLeading_iff {leading : String} {m : Mapping} :
    hasLeading leading m = true ↔
      Text.lowerAsciiChars leading.toList <+: Text.lowerAsciiChars m.mediaType.toList := by
  rw [hasLeading, List.isPrefixOf_iff_prefix, Text.toList_lowerAscii, Text.toList_lowerAscii]

/-- An extension of a mapping whose type a pattern matches. -/
def Matched (t : Tables) (pattern : String) : String → Prop :=
  t.Listed fun m => MediaType.matchesPattern pattern m.mediaType = true

theorem leading_lowerAscii (t : Tables) (leading : String) :
    t.Leading (Text.lowerAscii leading) = t.Leading leading := by
  simp only [Leading, hasLeading_iff, Text.toList_lowerAscii, Text.lowerAsciiChars_lowerAsciiChars]

/-- A pattern `type/*` matches the mappings that begin with the type and a slash. -/
theorem leading_eq_matched (tables : Tables) {t : String} (hstar : '*' ∉ t.toList)
    (hsemicolon : ';' ∉ t.toList) : tables.Leading (t ++ "/") = tables.Matched (t ++ "/*") := by
  simp only [Leading, Matched, hasLeading_iff,
    MediaType.matchesPattern_wildcard_iff hstar hsemicolon]

/-- The mappings that a text without a star matches are among those that begin with it. -/
theorem leading_of_matched {tables : Tables} {p : String} (hstar : '*' ∉ p.toList)
    (hsemicolon : ';' ∉ p.toList) {e : String} : tables.Matched p e → tables.Leading p e :=
  Listed.mono fun _ h =>
    hasLeading_iff.2 (MediaType.prefix_of_matchesPattern hstar hsemicolon h)

end Tables

namespace Resolver

/-- A pattern `type/*` stands for its folded beginning and for the group of it. -/
theorem selection_wildcard (tables : Tables) (t : String) :
    selection tables (Text.lowerAscii (t ++ "/*")) =
      (Text.lowerAscii t ++ "/", (tables.groupFor (Text.lowerAscii t ++ "/")).members) := by
  have hfold : Text.lowerAsciiChars ['/', '*'] = ['/', '*'] := rfl
  have hchars : (Text.lowerAscii (t ++ "/*")).toList =
      (Text.lowerAscii t).toList ++ ['/'] ++ ['*'] := by
    simp [hfold]
  have hleading : String.ofList (Text.lowerAscii (t ++ "/*")).toList.dropLast =
      Text.lowerAscii t ++ "/" := by
    rw [hchars, List.dropLast_concat]
    exact String.toList_inj.1 (by simp)
  have hsuffix : ['/', '*'] <:+ (Text.lowerAscii (t ++ "/*")).toList :=
    ⟨(Text.lowerAscii t).toList, by rw [hchars, List.append_assoc]; rfl⟩
  rw [selection, if_pos (List.isSuffixOf_iff_suffix.2 hsuffix)]
  simp only [hleading]

/-- A text without a star stands for itself, folded. -/
theorem selection_of_not_mem (tables : Tables) {p : String} (hstar : '*' ∉ p.toList) :
    selection tables (Text.lowerAscii p) = (Text.lowerAscii p, [Text.lowerAscii p]) := by
  refine selection_of_not_wildcard fun hsuffix => hstar ?_
  rw [← Text.mem_lowerAsciiChars_iff (by decide), ← Text.toList_lowerAscii]
  exact hsuffix.subset (by decide)

/-- **Agreement with the matcher.** The extensions of a pattern `type/*` are, beside those that the
platform gives, those of the mappings that the pattern matches. The extensions of a type are, beside
those that the platform gives, those of the mappings whose type begins with it, among which are all
that it matches. -/
theorem extensionsOfType_agrees_with_matcher (r : Resolver) (tracing : Bool) :
    (∀ t, '*' ∉ t.toList → ';' ∉ t.toList →
      Outcome r.platform.registry (r.tables.groupFor (Text.lowerAscii t ++ "/")).members
          (r.tables.Matched (t ++ "/*")) (r.extensionsOfType tracing (t ++ "/*")).answer ∧
        ((∀ u, r.platform.registry.extensionsOf (some u) = .ok []) →
          ∃ found, (r.extensionsOfType tracing (t ++ "/*")).answer = .ok found ∧
            ∀ e, e ∈ found ↔ r.tables.Matched (t ++ "/*") e)) ∧
    ∀ p, '*' ∉ p.toList → ';' ∉ p.toList →
      Outcome r.platform.registry [Text.lowerAscii p] (r.tables.Leading p)
          (r.extensionsOfType tracing p).answer ∧
        ∀ e, r.tables.Matched p e → r.tables.Leading p e := by
  constructor
  · intro t hstar hsemicolon
    have houtcome := outcome_extensionsOfType (MediaType.not_fullWildcard_append hstar)
      (selection_wildcard r.tables t) tracing
    have hlower : Text.lowerAscii t ++ "/" = Text.lowerAscii (t ++ "/") :=
      String.toList_inj.1 (by simp [Text.lowerAsciiChars, Text.lowerAsciiChar])
    -- the beginning that selects is folded, which makes no difference to what begins with it
    rw [hlower, Tables.leading_lowerAscii, Tables.leading_eq_matched r.tables hstar hsemicolon,
      ← hlower] at houtcome
    exact ⟨houtcome, fun hnothing => houtcome.of_nothing_given fun u _ => hnothing u⟩
  · intro p hstar hsemicolon
    have houtcome := outcome_extensionsOfType (MediaType.not_fullWildcard_of_not_mem hstar)
      (selection_of_not_mem r.tables hstar) tracing
    rw [Tables.leading_lowerAscii] at houtcome
    exact ⟨houtcome, fun _ => Tables.leading_of_matched hstar hsemicolon⟩

/-- Tables with a parameter, a star and capitals in their types. -/
def untidyTables : Tables where
  primary := [⟨"Audio/OGG;codecs=opus", "opus"⟩, ⟨"audio/*", "snd"⟩, ⟨"audio-x/ogg", "ogx"⟩]
  secondary := [⟨"audio/ogg+json", "json"⟩]
  groups := [⟨some "audio/", ["audio/ogg"]⟩]
  fallback := ⟨none, []⟩

/-- On such tables a pattern selects what it matches, and a type selects more. -/
theorem extensionsOfType_agrees_with_matcher_untidy :
    ('*' ∉ "AUDIO".toList ∧ ';' ∉ "AUDIO".toList ∧
      (∀ u, Platform.silent.registry.extensionsOf (some u) = .ok []) ∧
      ∃ found,
        ((Resolver.mk untidyTables .silent).extensionsOfType false ("AUDIO" ++ "/*")).answer =
          .ok found ∧
        (∀ e, e ∈ found ↔ untidyTables.Matched ("AUDIO" ++ "/*") e) ∧
        found = ["opus", "snd", "json"]) ∧
    ('*' ∉ "audio/ogg".toList ∧ ';' ∉ "audio/ogg".toList ∧
      Outcome Platform.silent.registry [Text.lowerAscii "audio/ogg"]
        (untidyTables.Leading "audio/ogg")
        ((Resolver.mk untidyTables .silent).extensionsOfType false "audio/ogg").answer ∧
      ∀ e, untidyTables.Matched "audio/ogg" e → untidyTables.Leading "audio/ogg" e) := by
  obtain ⟨hwildcards, htypes⟩ :=
    extensionsOfType_agrees_with_matcher ⟨untidyTables, .silent⟩ false
  have hsilent : ∀ u, Platform.silent.registry.extensionsOf (some u) = .ok [] := fun _ => rfl
  obtain ⟨-, hexact⟩ := hwildcards "AUDIO" (by decide) (by decide)
  obtain ⟨found, hfound, hmem⟩ := hexact hsilent
  have hanswer :
      ((Resolver.mk untidyTables .silent).extensionsOfType false ("AUDIO" ++ "/*")).answer =
        .ok ["opus", "snd", "json"] := rfl
  refine ⟨⟨by decide, by decide, hsilent, found, hfound, hmem, ?_⟩, by decide, by decide,
    htypes "audio/ogg" (by decide) (by decide)⟩
  exact Except.ok.inj (hfound.symm.trans hanswer)

end Resolver

end MediaTypes
