import MediaTypes.MediaType.Basic
import MediaTypes.Proofs.MediaType.Parameters

/-!
# What is read as a media type

The texts that are read as media types are those made of a token, a slash and a token. Neither
token has a slash of its own, so that there is one way to read such a text.

## Main definitions

- `MediaType.OfTokens` — the media types that can be read

## Main statements

- `not_mem_of_isToken` — a character that separates tokens stands in none of them
- `parse_eq_ok_iff` — a text is read as the media type that it is the text of
- `splitBase_toText` — such a text has no parameters
-/

namespace MediaTypes

namespace MediaType

/-- A character of no token stands in none. -/
theorem not_mem_of_isToken {c : Char} (hc : isTokenChar c = false) {s : String}
    (hs : isToken s = true) : c ∉ s.toList := by
  intro hmem
  rw [isToken, isTokenChars, Bool.and_eq_true, List.all_eq_true] at hs
  have := hs.2 c hmem
  rw [hc] at this
  exact Bool.false_ne_true this

/-- Both names are tokens. -/
structure OfTokens (m : MediaType) : Prop where
  topLevel : isToken m.topLevel = true
  subtype : isToken m.subtype = true

/-- No name has a slash: the one between them is the only one. -/
theorem OfTokens.slash {m : MediaType} (h : m.OfTokens) :
    '/' ∉ m.topLevel.toList ∧ '/' ∉ m.subtype.toList :=
  ⟨not_mem_of_isToken (by decide) h.topLevel, not_mem_of_isToken (by decide) h.subtype⟩

theorem toList_toText (m : MediaType) :
    m.toText.toList = m.topLevel.toList ++ '/' :: m.subtype.toList := by
  simp [toText]

theorem intercalate_pair (top sub : List Char) :
    ['/'].intercalate [top, sub] = top ++ '/' :: sub := by
  simp [List.intercalate]

theorem eq_of_splitOn_eq_pair {cs top sub : List Char} (h : cs.splitOn '/' = [top, sub]) :
    cs = top ++ '/' :: sub := by
  rw [← intercalate_pair, ← h, List.intercalate_splitOn]

theorem splitOn_pair {top sub : List Char} (htop : '/' ∉ top) (hsub : '/' ∉ sub) :
    (top ++ '/' :: sub).splitOn '/' = [top, sub] := by
  rw [← intercalate_pair]
  exact List.splitOn_intercalate '/' (by simp [htop, hsub]) (by simp)

/-- A text is read as the media type that it is the text of, if both names are tokens. -/
theorem parse_eq_ok_iff {text : Option String} {m : MediaType} :
    parse text = .ok m ↔ text.getD "" = m.toText ∧ m.OfTokens := by
  rw [parse]
  constructor
  · intro h
    split at h
    · rename_i top sub hsplit
      split at h
      · rename_i htokens
        obtain rfl := Except.ok.inj h
        rw [Bool.and_eq_true] at htokens
        refine ⟨String.toList_inj.1 ?_, ⟨?_, ?_⟩⟩
        · rw [eq_of_splitOn_eq_pair hsplit]
          simp [toText]
        · simpa [isToken] using htokens.1
        · simpa [isToken] using htokens.2
      · cases h
    · cases h
  · rintro ⟨htext, htokens⟩
    have hsplit : (text.getD "").toList.splitOn '/' = [m.topLevel.toList, m.subtype.toList] := by
      rw [htext, toList_toText]
      exact splitOn_pair htokens.slash.1 htokens.slash.2
    have htop := htokens.topLevel
    have hsub := htokens.subtype
    rw [isToken] at htop hsub
    simp only [hsplit, htop, hsub, Bool.and_self, if_true, String.ofList_toList]

/-- The text of two tokens has no parameters. -/
theorem splitBase_toText {m : MediaType} (h : m.OfTokens) :
    splitBase m.toText = (m.toText, none) := by
  have htop : ';' ∉ m.topLevel.toList := not_mem_of_isToken (by decide) h.topLevel
  have hsub : ';' ∉ m.subtype.toList := not_mem_of_isToken (by decide) h.subtype
  exact splitBase_of_not_mem (by simp [toList_toText, htop, hsub])

end MediaType

end MediaTypes
