import MediaTypes.Proofs.Tables.Listing
import MediaTypes.Proofs.Text.Spelling
import MediaTypes.Proofs.Text.Split
import MediaTypes.Tables.Standard

/-!
# Names of extensions

The list of a mapping is made of names without commas, joined by commas, and every list of a mapping
can be read so. A table therefore answers with the type of the first mapping that has a name spelt
like the extension. It looks at whole names only: what is found is never found through a name of
which it is a part or a look-alike.

## Main definitions

- `NamedType`, `NamedType.mapping` — a media type with its names, and the mapping made of them
- `Tables.FirstNamed` — the first media type that has a name spelt like an extension

## Main statements

- `NamedType.extensionList_mapping`, `Mapping.mapping_named` — names and lists determine each other
- `typeOf?_mappings_eq_some_iff`, `typeOf?_mappings_eq_none_iff` — the answer of a table
- `typeOf?_mappings_of_nearMiss` — a part or a look-alike of a name is not found through it
- `found_by_whole_names` — all of this for a table of mappings that are made of names
-/

namespace MediaTypes

open Text (SpeltAlike NearMiss)

/-- A media type and the names of its extensions. There is a name, and no name has a comma. -/
structure NamedType where
  mediaType : String
  names : List String
  names_ne_nil : names ≠ []
  comma_not_mem : ∀ name ∈ names, ',' ∉ name.toList

namespace NamedType

/-- The mapping that lists the names, joined by commas. -/
def mapping (t : NamedType) : Mapping where
  mediaType := t.mediaType
  extensions := ",".intercalate t.names

/-- Some name is spelt like the extension. -/
def HasName (t : NamedType) (extension : String) : Prop :=
  ∃ name ∈ t.names, SpeltAlike name extension

instance (t : NamedType) (extension : String) : Decidable (t.HasName extension) :=
  List.decidableBEx (SpeltAlike · extension) t.names

/-- The list of the mapping gives the names back, in order. -/
@[simp] theorem extensionList_mapping (t : NamedType) : t.mapping.extensionList = t.names :=
  Text.splitOn_intercalate t.names_ne_nil t.comma_not_mem

theorem lists_mapping_iff {t : NamedType} {extension : String} :
    t.mapping.Lists extension ↔ t.HasName extension := by
  simp only [Mapping.Lists, HasName, extensionList_mapping, Text.eqFold_iff_speltAlike]

/-- An extension with a comma is spelt like no name. -/
theorem not_hasName_of_comma {t : NamedType} {extension : String} (h : ',' ∈ extension.toList) :
    ¬ t.HasName extension := by
  rintro ⟨name, hname, halike⟩
  have hplain : Char.isAlpha ',' = false := rfl
  exact t.comma_not_mem name hname ((halike.mem_iff hplain).2 h)

end NamedType

/-- The entries of a mapping's list, as names. -/
def Mapping.named (m : Mapping) : NamedType where
  mediaType := m.mediaType
  names := m.extensionList
  names_ne_nil := Text.splitOn_ne_nil ',' m.extensions
  comma_not_mem := fun _ => Text.not_mem_piece

/-- Every mapping is made of names. -/
theorem Mapping.mapping_named (m : Mapping) : m.named.mapping = m := by
  have hjoin : ",".intercalate m.extensionList = m.extensions :=
    Text.intercalate_splitOn ',' m.extensions
  rw [NamedType.mapping, named, hjoin]

namespace Tables

/-- Every table is made of media types with names. -/
theorem map_mapping_named (mappings : List Mapping) :
    (mappings.map (·.named)).map (·.mapping) = mappings := by
  simp only [List.map_map, Function.comp_def, Mapping.mapping_named, List.map_id']

/-- The media type has a name spelt like the extension, and none before it does. -/
def FirstNamed (ts : List NamedType) (extension : String) (t : NamedType) : Prop :=
  t.HasName extension ∧ ∃ before after, ts = before ++ t :: after ∧
    ∀ earlier ∈ before, ¬ earlier.HasName extension

variable {ts : List NamedType} {extension : String}

/-- The mapping that counts for an extension is that of the first media type with such a name. -/
theorem firstListing_mappings_iff {m : Mapping} :
    FirstListing (ts.map (·.mapping)) extension m ↔
      ∃ t, FirstNamed ts extension t ∧ t.mapping = m := by
  constructor
  · rintro ⟨hlists, before, after, hcut, hbefore⟩
    obtain ⟨before', rest, rfl, rfl, hrest⟩ := List.map_eq_append_iff.1 hcut
    obtain ⟨t, after', rfl, rfl, -⟩ := List.map_eq_cons_iff.1 hrest
    refine ⟨t, ⟨NamedType.lists_mapping_iff.1 hlists, before', after', rfl, ?_⟩, rfl⟩
    intro earlier hearlier hname
    exact hbefore _ (List.mem_map_of_mem hearlier) (NamedType.lists_mapping_iff.2 hname)
  · rintro ⟨t, ⟨hname, before, after, rfl, hbefore⟩, rfl⟩
    refine ⟨NamedType.lists_mapping_iff.2 hname, before.map (·.mapping), after.map (·.mapping),
      by rw [List.map_append, List.map_cons], ?_⟩
    intro earlier hearlier
    obtain ⟨u, hu, rfl⟩ := List.mem_map.1 hearlier
    rw [NamedType.lists_mapping_iff]
    exact hbefore u hu

theorem typeOf?_mappings_eq_some_iff {mediaType : String} :
    typeOf? (ts.map (·.mapping)) extension = some mediaType ↔
      ∃ t, FirstNamed ts extension t ∧ t.mediaType = mediaType := by
  rw [typeOf?_eq_some_iff]
  constructor
  · rintro ⟨m, hm, rfl⟩
    obtain ⟨t, ht, rfl⟩ := firstListing_mappings_iff.1 hm
    exact ⟨t, ht, rfl⟩
  · rintro ⟨t, ht, rfl⟩
    exact ⟨t.mapping, firstListing_mappings_iff.2 ⟨t, ht, rfl⟩, rfl⟩

theorem typeOf?_mappings_eq_none_iff :
    typeOf? (ts.map (·.mapping)) extension = none ↔ ∀ t ∈ ts, ¬ t.HasName extension := by
  simp only [typeOf?_eq_none_iff, List.forall_mem_map, NamedType.lists_mapping_iff]

/-- A near miss of a name is found only as another name. -/
theorem typeOf?_mappings_of_nearMiss {name : String} (hmiss : NearMiss name extension) :
    typeOf? (ts.map (·.mapping)) extension = none ∨
      ∃ t ∈ ts, ∃ other ∈ t.names, other ≠ name ∧ SpeltAlike other extension := by
  by_cases hnamed : ∃ t ∈ ts, t.HasName extension
  · obtain ⟨t, ht, other, hother, halike⟩ := hnamed
    refine Or.inr ⟨t, ht, other, hother, ?_, halike⟩
    rintro rfl
    exact hmiss.not_speltAlike halike
  · refine Or.inl (typeOf?_mappings_eq_none_iff.2 fun t ht hname => ?_)
    exact hnamed ⟨t, ht, hname⟩

/-- **Whole names.** The lists of mappings that are made of names give the names back. A table of
such mappings answers with the type of the first one that has a name spelt like the extension, and
with nothing exactly if there is none. In particular it finds nothing with a comma, and no proper
beginning, ending or look-alike of a name that is not itself spelt like another name, as `htm` may
be listed beside `html`. -/
theorem found_by_whole_names (ts : List NamedType) :
    (∀ t ∈ ts, t.mapping.extensionList = t.names) ∧
    ∀ extension,
      (∀ mediaType, typeOf? (ts.map (·.mapping)) extension = some mediaType ↔
        ∃ t, FirstNamed ts extension t ∧ t.mediaType = mediaType) ∧
      (typeOf? (ts.map (·.mapping)) extension = none ↔ ∀ t ∈ ts, ¬ t.HasName extension) ∧
      (',' ∈ extension.toList → typeOf? (ts.map (·.mapping)) extension = none) ∧
      ∀ name, NearMiss name extension →
        typeOf? (ts.map (·.mapping)) extension = none ∨
          ∃ t ∈ ts, ∃ other ∈ t.names, other ≠ name ∧ SpeltAlike other extension := by
  refine ⟨fun t _ => t.extensionList_mapping, fun extension => ?_⟩
  refine ⟨fun _ => typeOf?_mappings_eq_some_iff, typeOf?_mappings_eq_none_iff, ?comma,
    fun _ => typeOf?_mappings_of_nearMiss⟩
  case comma =>
    intro h
    exact typeOf?_mappings_eq_none_iff.2 fun t _ => NamedType.not_hasName_of_comma h

/-- The first of two mappings of one name, two names with their comma, a part of three names, and a
name with a long s. -/
theorem found_by_whole_names_standard :
    (FirstNamed (standardPrimary.map (·.named)) "WebM" (Mapping.named ⟨"video/webm", "webm"⟩) ∧
      typeOf? standardPrimary "WebM" = some "video/webm") ∧
    (',' ∈ "html,htm".toList ∧ typeOf? standardPrimary "html,htm" = none) ∧
    (NearMiss "html" "HT" ∧ typeOf? standardPrimary "HT" = none) ∧
    (NearMiss "css" "c\u017Fs" ∧ typeOf? standardPrimary "c\u017Fs" = none) := by
  have hwebm : FirstNamed (standardPrimary.map (·.named)) "WebM"
      (Mapping.named ⟨"video/webm", "webm"⟩) := by
    refine ⟨by decide +kernel, (standardPrimary.take 12).map (·.named),
      (standardPrimary.drop 13).map (·.named), rfl, by decide +kernel⟩
  have hpart : NearMiss "html" "HT" :=
    .beginning "ht" (by decide) (by decide) (by decide +kernel)
  have hlookAlike : NearMiss "css" "c\u017Fs" :=
    .lookAlike 1 '\u017F' (by decide) (.inr rfl) (by decide)
  have hfound := (found_by_whole_names (standardPrimary.map (·.named))).2
  rw [map_mapping_named] at hfound
  refine ⟨⟨hwebm, ((hfound "WebM").1 _).2 ⟨_, hwebm, rfl⟩⟩,
    ⟨by decide, (hfound "html,htm").2.2.1 (by decide)⟩, ⟨hpart, ?_⟩, ⟨hlookAlike, ?_⟩⟩
  · exact ((hfound "HT").2.2.2 "html" hpart).resolve_right (by decide +kernel)
  · exact ((hfound "c\u017Fs").2.2.2 "css" hlookAlike).resolve_right (by decide +kernel)

/-- The empty text between two commas is a name too, and a part of a name may be another name. -/
example : typeOf? [⟨"a/one", "htm,,html"⟩, ⟨"a/two", "HTM"⟩] "" = some "a/one" ∧
    typeOf? [⟨"a/one", "htm,,html"⟩, ⟨"a/two", "HTM"⟩] "Htm" = some "a/one" := by decide +kernel

end Tables

end MediaTypes
