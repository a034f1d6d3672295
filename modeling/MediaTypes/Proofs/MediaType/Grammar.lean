import MediaTypes.Proofs.MediaType.Parse

/-!
# The grammar of media types

A media type is spelt as a name, a slash and a name. A name is not empty, and its characters are
visible ASCII characters that delimit nothing in a header field. The slash and the semicolon are
delimiters, so that there is one slash to cut at, and no parameter to cut off. What is spelt in this
way is read with its case kept; everything else is handed back with the error.

## Main definitions

- `MediaType.IsName` — the texts on both sides of the slash
- `MediaType.Spells` — a text is the spelling of a media type

## Main statements

- `isTokenChar_iff`, `isToken_iff` — tokens are names
- `parse_grammar` — the texts that are read, and what becomes of all others
-/

namespace MediaTypes

namespace MediaType

/-- The visible characters that stand between the names in a header field. -/
def delimiters : List Char :=
  ['(', ')', '<', '>', '@', ',', ';', ':', '\\', '"', '/', '[', ']', '?', '=', '{', '}']

/-- A visible ASCII character that is no delimiter. -/
structure IsNameChar (c : Char) : Prop where
  first : 0x21 ≤ c.toNat
  last : c.toNat ≤ 0x7E
  plain : c ∉ delimiters

instance (c : Char) : Decidable (IsNameChar c) :=
  decidable_of_iff (0x21 ≤ c.toNat ∧ c.toNat ≤ 0x7E ∧ c ∉ delimiters)
    ⟨fun h => ⟨h.1, h.2.1, h.2.2⟩, fun h => ⟨h.first, h.last, h.plain⟩⟩

/-- A text that names a top-level type or a subtype. -/
structure IsName (s : String) : Prop where
  nonempty : s ≠ ""
  chars : ∀ c ∈ s.toList, IsNameChar c

instance (s : String) : Decidable (IsName s) :=
  decidable_of_iff (s ≠ "" ∧ s.toList.all (fun c => decide (IsNameChar c)) = true)
    ⟨fun h => ⟨h.1, by simpa using h.2⟩, fun h => ⟨h.nonempty, by simpa using h.chars⟩⟩

/-- A text is the spelling of a media type: the two names with a slash between them. -/
inductive Spells : String → MediaType → Prop where
  | pair {top sub : String} (htop : IsName top) (hsub : IsName sub) :
      Spells (top ++ "/" ++ sub) ⟨top, sub⟩

/-- The space and the tab are the separators that are not visible. -/
theorem mem_separators_iff {c : Char} : c ∈ separators ↔ c ∈ delimiters ∨ c = ' ' ∨ c = '\t' := by
  have happ : separators = delimiters ++ [' ', '\t'] := rfl
  rw [happ, List.mem_append, List.mem_cons, List.mem_singleton]

theorem isTokenChar_iff {c : Char} : isTokenChar c = true ↔ IsNameChar c := by
  have hspace : c = ' ' ↔ c.toNat = 0x20 := Char.toNat_inj.symm
  have htab : c = '\t' ↔ c.toNat = 0x09 := Char.toNat_inj.symm
  simp only [isTokenChar, Bool.and_eq_true, decide_eq_true_eq, Bool.not_eq_true',
    List.contains_eq_mem, decide_eq_false_iff_not, mem_separators_iff, hspace, htab]
  constructor
  · rintro ⟨⟨hfirst, hlast⟩, hplain⟩
    exact ⟨by omega, by omega, fun h => hplain (.inl h)⟩
  · rintro ⟨hfirst, hlast, hplain⟩
    refine ⟨by omega, ?_⟩
    rintro (h | h | h)
    · exact hplain h
    · omega
    · omega

/-- Tokens are names. -/
theorem isToken_iff {s : String} : isToken s = true ↔ IsName s := by
  simp only [isToken, isTokenChars, Bool.and_eq_true, Bool.not_eq_true', List.all_eq_true,
    isTokenChar_iff, List.isEmpty_eq_false_iff, ne_eq, String.toList_eq_nil_iff]
  constructor
  · rintro ⟨hne, hchars⟩
    exact ⟨hne, hchars⟩
  · rintro ⟨hne, hchars⟩
    exact ⟨hne, hchars⟩

theorem spells_iff {s : String} {m : MediaType} : Spells s m ↔ s = m.toText ∧ m.OfTokens := by
  constructor
  · rintro ⟨htop, hsub⟩
    exact ⟨rfl, isToken_iff.2 htop, isToken_iff.2 hsub⟩
  · rintro ⟨rfl, htop, hsub⟩
    exact .pair (isToken_iff.1 htop) (isToken_iff.1 hsub)

/-- The error hands back what was to be read. -/
theorem text_of_parse_eq_error {text : Option String} {e : NotTokenPair}
    (h : parse text = .error e) : e.text = text := by
  rw [parse] at h
  split at h
  · split at h
    · cases h
    · rw [← Except.error.inj h]
  · rw [← Except.error.inj h]

theorem parse_eq_error_iff {text : Option String} {e : NotTokenPair} :
    parse text = .error e ↔ e.text = text ∧ ∀ m, parse text ≠ .ok m := by
  constructor
  · intro h
    refine ⟨text_of_parse_eq_error h, fun m hm => ?_⟩
    rw [h] at hm
    cases hm
  · rintro ⟨rfl, hnone⟩
    cases hparse : parse e.text with
    | error e' =>
      obtain ⟨text⟩ := e
      obtain ⟨text'⟩ := e'
      obtain rfl : text' = text := text_of_parse_eq_error hparse
      rfl
    | ok m => exact absurd hparse (hnone m)

/-- **The grammar of media types.** A text is read as the media type that it spells, and as no
other, and so what is read is written back as it was, and has no parameters. A text that spells none
is refused and handed back with the error, and so is a missing text. -/
theorem parse_grammar :
    (∀ s m, parse (some s) = .ok m ↔ Spells s m) ∧
    (∀ s e, parse (some s) = .error e ↔ e.text = some s ∧ ∀ m, ¬ Spells s m) ∧
    (∀ s m, Spells s m → m.toText = s ∧ splitBase s = (s, none)) ∧
    ∀ e, parse none = .error e ↔ e.text = none := by
  have hok : ∀ s m, parse (some s) = .ok m ↔ Spells s m := by
    intro s m
    rw [parse_eq_ok_iff, spells_iff, Option.getD_some]
  refine ⟨hok, ?_, ?_, ?_⟩
  · intro s e
    simp only [parse_eq_error_iff, ne_eq, hok]
  · intro s m hspells
    obtain ⟨rfl, htokens⟩ := spells_iff.1 hspells
    exact ⟨rfl, splitBase_toText htokens⟩
  · intro e
    -- a missing text is read like the empty one, which has no slash
    have hmissing : ∀ m, parse none ≠ .ok m := by
      intro m hm
      have htext := congrArg String.toList (parse_eq_ok_iff.1 hm).1
      rw [toList_toText] at htext
      simp at htext
    rw [parse_eq_error_iff]
    exact ⟨fun h => h.1, fun h => ⟨h, hmissing⟩⟩

theorem parse_grammar_suffix :
    Spells ("Image" ++ "/" ++ "x.SVG+xml~") ⟨"Image", "x.SVG+xml~"⟩ ∧
    parse (some ("Image" ++ "/" ++ "x.SVG+xml~")) = .ok ⟨"Image", "x.SVG+xml~"⟩ ∧
    toText ⟨"Image", "x.SVG+xml~"⟩ = "Image" ++ "/" ++ "x.SVG+xml~" ∧
    splitBase ("Image" ++ "/" ++ "x.SVG+xml~") = ("Image" ++ "/" ++ "x.SVG+xml~", none) := by
  have hspells : Spells ("Image" ++ "/" ++ "x.SVG+xml~") ⟨"Image", "x.SVG+xml~"⟩ :=
    .pair (by decide) (by decide)
  obtain ⟨htext, hbase⟩ := parse_grammar.2.2.1 _ _ hspells
  exact ⟨hspells, (parse_grammar.1 _ _).2 hspells, htext, hbase⟩

/-- A second slash, an empty name and a parameter are refused. -/
example : parse (some "a/b/c") = .error ⟨some "a/b/c"⟩ ∧ parse (some "a/") = .error ⟨some "a/"⟩ ∧
    parse (some "a/b;c") = .error ⟨some "a/b;c"⟩ :=
  ⟨rfl, rfl, rfl⟩

end MediaType

end MediaTypes
