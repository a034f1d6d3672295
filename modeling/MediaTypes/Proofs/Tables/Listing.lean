import MediaTypes.Tables.Basic

/-!
# The first mapping of a table

Several mappings of a table may list one extension, and one mapping may list it several times. The
type of the first of these mappings is the type of the extension.

## Main definitions

- `Tables.FirstListing` — the mapping that counts for an extension

## Main statements

- `typeOf?_eq_some_iff`, `typeOf?_eq_none_iff` — the answer of a table
-/

namespace MediaTypes

namespace Tables

/-- The mapping lists the extension, and no mapping before it does. -/
def FirstListing (mappings : List Mapping) (extension : String) (m : Mapping) : Prop :=
  m.Lists extension ∧ ∃ before after, mappings = before ++ m :: after ∧
    ∀ earlier ∈ before, ¬ earlier.Lists extension

theorem find?_lists_eq_some_iff {mappings : List Mapping} {extension : String} {m : Mapping} :
    mappings.find? (·.lists extension) = some m ↔ FirstListing mappings extension m := by
  simp only [List.find?_eq_some_iff_append, FirstListing, ← Mapping.lists_iff, Bool.not_eq_true',
    Bool.not_eq_true]

theorem typeOf?_eq_some_iff {mappings : List Mapping} {extension mediaType : String} :
    typeOf? mappings extension = some mediaType ↔
      ∃ m, FirstListing mappings extension m ∧ m.mediaType = mediaType := by
  simp only [typeOf?, Option.map_eq_some_iff, find?_lists_eq_some_iff]

theorem typeOf?_eq_none_iff {mappings : List Mapping} {extension : String} :
    typeOf? mappings extension = none ↔ ∀ m ∈ mappings, ¬ m.Lists extension := by
  simp only [typeOf?, Option.map_eq_none_iff, List.find?_eq_none, Mapping.lists_iff]

theorem FirstListing.typeOf? {mappings : List Mapping} {extension : String} {m : Mapping}
    (h : FirstListing mappings extension m) :
    Tables.typeOf? mappings extension = some m.mediaType :=
  typeOf?_eq_some_iff.2 ⟨m, h, rfl⟩

theorem FirstListing.mem {mappings : List Mapping} {extension : String} {m : Mapping}
    (h : FirstListing mappings extension m) : m ∈ mappings := by
  obtain ⟨-, before, after, rfl, -⟩ := h
  exact List.mem_append_right before List.mem_cons_self

end Tables

end MediaTypes
