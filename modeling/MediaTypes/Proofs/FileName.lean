import MediaTypes.Proofs.Text.Split
import MediaTypes.Resolver
import MediaTypes.Tables.Standard

/-!
# The type of a file

Of a path only the last name counts: not the directory before it, and not the slashes and the single
dots after it. Hence a dot of a directory's name is never taken for that of an extension. The type
of a file is the type of the extension of that name.

## Main definitions

- `FileName.IsName` — the components of a path that count
- `FileName.Trailing` — what may follow the last name
- `FileName.HasExtension` — the extension of a name

## Main statements

- `FileName.components_append_trailing`, `FileName.nameOfPath_append` — the last name of a path
- `FileName.not_mem_extensionOfPath` — an extension has neither dots nor slashes
- `Resolver.file_seen_by_last_name` — the extension of a path, and the lookup by it
-/

namespace MediaTypes

namespace Text

variable {sep : Char} {cs after : List Char}

theorem afterLastChars_of_not_mem (h : sep ∉ cs) : afterLastChars sep cs = none := by
  rw [afterLastChars, if_neg]
  simpa using h

/-- A text with a separator has the last one, and what follows it is the part after it. -/
theorem afterLastChars_append_cons (h : sep ∉ after) (before : List Char) :
    afterLastChars sep (before ++ sep :: after) = some after := by
  have hafter : ∀ c ∈ after.reverse, (c != sep) = true := by
    intro c hc
    rw [bne_iff_ne]
    rintro rfl
    exact h (List.mem_reverse.1 hc)
  have hreverse : (before ++ sep :: after).reverse = after.reverse ++ sep :: before.reverse := by
    simp
  rw [afterLastChars, if_pos (by simp), hreverse, List.takeWhile_append_of_pos hafter]
  simp

theorem exists_last_of_mem (h : sep ∈ cs) :
    ∃ before after, cs = before ++ sep :: after ∧ sep ∉ after := by
  obtain ⟨after, before, hreverse, hafter⟩ := List.eq_append_cons_of_mem (List.mem_reverse.2 h)
  refine ⟨before.reverse, after.reverse, ?_, fun hmem => hafter (List.mem_reverse.1 hmem)⟩
  have := congrArg List.reverse hreverse
  simpa using this

end Text

namespace FileName

/-- A component of a path that counts: it is neither empty nor a single dot. -/
structure IsName (name : String) : Prop where
  no_slash : '/' ∉ name.toList
  ne_empty : name ≠ ""
  ne_dot : name ≠ "."

/-- Slashes, each of which a single dot may follow. -/
inductive Trailing : List Char → Prop where
  | nil : Trailing []
  | slash {z : List Char} : Trailing z → Trailing ('/' :: z)
  | slash_dot {z : List Char} : Trailing z → Trailing ('/' :: '.' :: z)

/-- The extension of a name is what follows its last dot, and it is empty where there is none. -/
inductive HasExtension (name : String) : String → Prop where
  | no_dot (h : '.' ∉ name.toList) : HasExtension name ""
  | after_dot {stem e : String} (h : name = stem ++ "." ++ e) (he : '.' ∉ e.toList) :
    HasExtension name e

theorem components_append (before after : List Char) :
    components (before ++ '/' :: after) = components before ++ components after := by
  rw [components, List.splitOn_append_cons_self, List.filter_append, components, components]

theorem components_of_isName {name : String} (h : IsName name) :
    components name.toList = [name.toList] := by
  have hempty : name.toList ≠ [] := fun heq => h.ne_empty (String.toList_inj.1 heq)
  have hdot : name.toList ≠ ['.'] := fun heq => h.ne_dot (String.toList_inj.1 heq)
  rw [components, List.splitOn_eq_singleton h.no_slash, List.filter_cons_of_pos, List.filter_nil]
  simp [hempty, hdot]

/-- What follows the last name adds no component that counts. -/
theorem components_append_trailing {z : List Char} (h : Trailing z) (cs : List Char) :
    components (cs ++ z) = components cs := by
  induction h generalizing cs with
  | nil => rw [List.append_nil]
  | @slash z _ ih =>
    have hrest : components z = [] := ih []
    rw [components_append, hrest, List.append_nil]
  | @slash_dot z _ ih =>
    have hrest : components ('.' :: z) = [] := ih ['.']
    rw [components_append, hrest, List.append_nil]

/-- The last name of a path, with and without a directory before it. -/
theorem nameOfPath_append {name : String} (h : IsName name) {z : List Char} (hz : Trailing z)
    (d : List Char) :
    nameOfPath (name.toList ++ z) = name.toList ∧
      nameOfPath (d ++ '/' :: (name.toList ++ z)) = name.toList := by
  have hname : components (name.toList ++ z) = [name.toList] := by
    rw [components_append_trailing hz, components_of_isName h]
  constructor
  · rw [nameOfPath, hname]
    rfl
  · rw [nameOfPath, components_append, hname, List.getLast?_concat]
    rfl

theorem not_mem_nameOfPath (path : List Char) : '/' ∉ nameOfPath path := by
  rw [nameOfPath]
  cases hlast : (components path).getLast? with
  | none => exact List.not_mem_nil
  | some name =>
    have hmem := List.mem_of_getLast? hlast
    exact Text.not_mem_of_mem_splitOn (List.mem_filter.1 hmem).1

/-- An extension has no dot, and no character that the name does not have. -/
theorem extensionOfName_spec (name : List Char) :
    '.' ∉ extensionOfName name ∧ extensionOfName name ⊆ name := by
  by_cases hdot : '.' ∈ name
  · obtain ⟨stem, e, rfl, he⟩ := Text.exists_last_of_mem hdot
    rw [extensionOfName, Text.afterLastChars_append_cons he]
    refine ⟨he, fun c hc => ?_⟩
    exact List.mem_append_right stem (List.mem_cons_of_mem '.' hc)
  · rw [extensionOfName, Text.afterLastChars_of_not_mem hdot]
    exact ⟨List.not_mem_nil, List.nil_subset name⟩

theorem not_mem_extensionOfPath (path : String) :
    '.' ∉ (extensionOfPath path).toList ∧ '/' ∉ (extensionOfPath path).toList := by
  obtain ⟨hdot, hsubset⟩ := extensionOfName_spec (nameOfPath path.toList)
  rw [extensionOfPath, String.toList_ofList]
  exact ⟨hdot, fun hslash => not_mem_nameOfPath path.toList (hsubset hslash)⟩

theorem hasExtension_extensionOfName (name : String) :
    HasExtension name (String.ofList (extensionOfName name.toList)) := by
  by_cases hdot : '.' ∈ name.toList
  · obtain ⟨stem, e, hname, he⟩ := Text.exists_last_of_mem hdot
    rw [extensionOfName, hname, Text.afterLastChars_append_cons he]
    have hcut : name = String.ofList stem ++ "." ++ String.ofList e := by
      apply String.toList_inj.1
      simp [hname]
    exact .after_dot hcut (by simpa using he)
  · rw [extensionOfName, Text.afterLastChars_of_not_mem hdot]
    exact .no_dot hdot

/-- The names without an extension: those without a dot, and those that end in one, `..` among
them. -/
theorem HasExtension.eq_empty_iff {name e : String} (h : HasExtension name e) :
    e = "" ↔ '.' ∉ name.toList ∨ name.toList.getLast? = some '.' := by
  cases h with
  | no_dot h => exact iff_of_true rfl (.inl h)
  | @after_dot stem _ h he =>
    subst h
    constructor
    · rintro rfl
      exact .inr (by simp)
    · rintro (hdot | hlast)
      · exact absurd (by simp) hdot
      · cases hend : e.toList.getLast? with
        | none => exact String.toList_inj.1 (List.getLast?_eq_none_iff.1 hend)
        | some c =>
          rw [String.toList_append, List.getLast?_append, hend, Option.some_or] at hlast
          rw [Option.some.inj hlast] at hend
          exact absurd (List.mem_of_getLast? hend) he

end FileName

namespace Resolver

open FileName (IsName Trailing HasExtension extensionOfPath)

/-- Only the extension of a path counts for the type of the file. -/
theorem typeOfFile_congr (r : Resolver) (tracing : Bool) {path path' : String}
    (h : extensionOfPath path = extensionOfPath path') :
    r.typeOfFile tracing path = r.typeOfFile tracing path' := by
  rw [typeOfFile, typeOfFile, h]

/-- **The last name of a path** alone gives the extension of a file, and by it the type: neither the
directory before it nor slashes and single dots after it matter. No extension has dots or slashes.
The type of a file is looked up as that of its extension, with the same queries, and without an
extension there is no type and no query. -/
theorem file_seen_by_last_name :
    (∀ d name z : String, IsName name → Trailing z.toList → ∃ e,
      HasExtension name e ∧ (e = "" ↔ '.' ∉ name.toList ∨ name.toList.getLast? = some '.') ∧
      extensionOfPath (name ++ z) = e ∧ extensionOfPath (d ++ "/" ++ name ++ z) = e ∧
      ∀ (r : Resolver) (tracing : Bool),
        r.typeOfFile tracing (d ++ "/" ++ name ++ z) = r.typeOfFile tracing (name ++ z)) ∧
    (∀ path, '.' ∉ (extensionOfPath path).toList ∧ '/' ∉ (extensionOfPath path).toList) ∧
    ∀ (r : Resolver) (tracing : Bool) (path : String),
      (extensionOfPath path ≠ "" →
        r.typeOfFile tracing path = r.typeOfExtension tracing (extensionOfPath path)) ∧
      (extensionOfPath path = "" →
        (r.typeOfFile tracing path).answer = .ok none ∧
          (r.typeOfFile tracing path).queries = []) := by
  refine ⟨?names, FileName.not_mem_extensionOfPath, ?lookups⟩
  case names =>
    intro d name z hname hz
    obtain ⟨halone, hbelow⟩ := FileName.nameOfPath_append hname hz d.toList
    have hextension := FileName.hasExtension_extensionOfName name
    have hpath : extensionOfPath (name ++ z) =
        String.ofList (FileName.extensionOfName name.toList) := by
      rw [extensionOfPath, String.toList_append, halone]
    have hpath' : extensionOfPath (d ++ "/" ++ name ++ z) =
        String.ofList (FileName.extensionOfName name.toList) := by
      have hchars : (d ++ "/" ++ name ++ z).toList =
          d.toList ++ '/' :: (name.toList ++ z.toList) := by
        simp
      rw [extensionOfPath, hchars, hbelow]
    exact ⟨_, hextension, hextension.eq_empty_iff, hpath, hpath',
      fun r tracing => r.typeOfFile_congr tracing (hpath'.trans hpath.symm)⟩
  case lookups =>
    intro r tracing path
    constructor
    · intro hne
      rw [typeOfFile, if_neg hne]
    · intro hempty
      rw [typeOfFile, if_pos hempty]
      exact ⟨rfl, rfl⟩

/-- A name with several dots, below a directory with a dot and before slashes and dots; and a name
without a dot, for which a platform that answers nothing is not asked. -/
theorem file_seen_by_last_name_archive :
    IsName "archive.tar.gz" ∧ Trailing "//./".toList ∧
    (∃ e, HasExtension "archive.tar.gz" e ∧
      extensionOfPath ("docs/v1.2" ++ "/" ++ "archive.tar.gz" ++ "//./") = e) ∧
    (extensionOfPath "docs/v1.2/archive.tar.gz//./" ≠ "" ∧
      (Resolver.mk Tables.standard .silent).typeOfFile true "docs/v1.2/archive.tar.gz//./" =
        (Resolver.mk Tables.standard .silent).typeOfExtension true "gz") ∧
    (extensionOfPath "docs/v1.2/readme" = "" ∧
      ((Resolver.mk Tables.standard (.custom Registry.refusing)).typeOfFile true
        "docs/v1.2/readme").answer = .ok none) := by
  obtain ⟨hnames, -, hlookups⟩ := file_seen_by_last_name
  have hname : IsName "archive.tar.gz" := ⟨by decide, by decide, by decide⟩
  have hz : Trailing "//./".toList := .slash (.slash_dot (.slash .nil))
  have hgz : extensionOfPath "docs/v1.2/archive.tar.gz//./" = "gz" := by decide +kernel
  have hreadme : extensionOfPath "docs/v1.2/readme" = "" := by decide +kernel
  obtain ⟨e, he, -, -, hbelow, -⟩ := hnames "docs/v1.2" "archive.tar.gz" "//./" hname hz
  have hne : extensionOfPath "docs/v1.2/archive.tar.gz//./" ≠ "" := by
    rw [hgz]
    decide
  have htype := (hlookups ⟨Tables.standard, .silent⟩ true _).1 hne
  rw [hgz] at htype
  exact ⟨hname, hz, ⟨e, he, hbelow⟩, ⟨hne, htype⟩, hreadme,
    ((hlookups ⟨Tables.standard, .custom Registry.refusing⟩ true _).2 hreadme).1⟩

end Resolver

end MediaTypes
