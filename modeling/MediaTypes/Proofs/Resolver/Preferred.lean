import MediaTypes.Proofs.Resolver.Fallback
import MediaTypes.Proofs.Resolver.LetterCase

/-!
# The preferred extension is a known one

The extension that a type prefers and the extensions that it has are two lookups. The platform is
asked about the type as it is in the one, and about its folded form in the other; the tables compare
whole types in the one, and beginnings of types in the other. Still a preferred extension is among
the extensions of the type, if the registry prefers the first of the extensions that it has for the
folded type.

## Main definitions

- `Registry.PrefersFirst` — the registries of this kind
- `Resolver.PreferredKnown` — a preferred extension is among the extensions of the type

## Main statements

- `preferredKnown_of_prefersFirst` — what is asked of the registry
- `preferred_known` — no registry and the system's database are of this kind
- `preferredExtension_eq_none_iff` — the types that prefer no extension
-/

namespace MediaTypes

open MimeFile (AllDecodable lineFile registered)

/-- A list of extensions has a first one, and it is the one that is preferred. -/
theorem Mapping.firstExtension_mem (m : Mapping) : m.firstExtension ∈ m.extensionList := by
  rw [firstExtension]
  cases hlist : m.extensionList with
  | nil => exact absurd hlist (Text.splitOn_ne_nil ',' m.extensions)
  | cons first rest => exact List.mem_cons_self

/-- The registry prefers the first of the extensions that it has for the folded type. -/
def Registry.PrefersFirst (registry : Registry) : Prop :=
  ∀ mediaType, ∃ given,
    registry.extensionsOf (some (Text.lowerAscii mediaType)) = .ok given ∧
      registry.preferredOf (some mediaType) = .ok given.head?

theorem Registry.prefersFirst_silent : Registry.silent.PrefersFirst :=
  fun _ => ⟨[], rfl, rfl⟩

/-- A database lowers the type in both answers, and then it makes no difference whether its ASCII
letters have been folded before. -/
theorem Database.prefersFirst_registry (db : Database) : db.registry.PrefersFirst := by
  intro mediaType
  refine ⟨db.extensionsOf (Text.lowerAscii mediaType), rfl, ?_⟩
  change Except.ok (db.extensionsOf mediaType).head? = _
  rw [extensionsOf, extensionsOf, Text.lower_lowerAscii]

namespace Resolver

open Database (history)

/-- What the type prefers is among its extensions. -/
def PreferredKnown (r : Resolver) : Prop :=
  ∀ mediaType, mediaType ≠ "*" → (∀ s, mediaType ≠ s ++ "/*") → ∀ tracing,
    ∃ preferred found, (r.preferredExtension (some mediaType)).answer = .ok preferred ∧
      (r.extensionsOfType tracing mediaType).answer = .ok found ∧
      ∀ e, preferred = some e → e ∈ found

theorem preferredKnown_of_prefersFirst {r : Resolver} (h : r.platform.registry.PrefersFirst) :
    PreferredKnown r := by
  intro mediaType hstar hwild tracing
  obtain ⟨given, hgiven, hprefers⟩ := h mediaType
  obtain ⟨found, hfound, hmem⟩ := answer_extensionsOfType hstar hwild hgiven tracing
  have hcourse := preferredExtension_of_answer hprefers
  refine ⟨_, found, congrArg Lookup.answer hcourse, hfound, fun e he => (hmem e).2 ?_⟩
  rcases Option.or_eq_some_iff.1 he with hplatform | ⟨-, htables⟩
  · exact .inl (List.mem_of_mem_head? (nonEmpty?_eq_some_iff.1 hplatform).1)
  · obtain ⟨m, hm, rfl⟩ := Tables.prefers_some_iff.1 (tablePreferred_eq_iff.1 htables)
    have hfolded : m.mediaType = Text.lowerAscii mediaType := hm.1
    -- a type begins with itself, so the mapping is among those that are selected
    have hleading : Tables.hasLeading (Text.lowerAscii mediaType) m = true := by
      have hself := Tables.hasLeading_lowerAscii m
      rwa [hfolded, Text.lowerAscii_lowerAscii] at hself
    exact .inr ⟨m, List.mem_append.1 hm.mem, hleading, m.firstExtension_mem⟩

/-- **The preferred extension is known**, without a registry as well as around the database loaded
from decodable mime files. -/
theorem preferred_known (tables : Tables) {files : FileSystem} {names : List String}
    (hfiles : AllDecodable files names) :
    PreferredKnown ⟨tables, .silent⟩ ∧
      ∃ db, (Database.load files names).2 = .ok db ∧ PreferredKnown ⟨tables, .system db⟩ :=
  ⟨preferredKnown_of_prefersFirst Registry.prefersFirst_silent, _,
    Database.load_of_allDecodable hfiles,
    preferredKnown_of_prefersFirst (Database.prefersFirst_registry _)⟩

/-- A type prefers the only extension that is registered for it, also if the type is written in
capitals. -/
theorem preferred_known_upperCase :
    AllDecodable (lineFile "image/x-foo" "foo") ["mime.types"] ∧
    ∃ db, (Database.load (lineFile "image/x-foo" "foo") ["mime.types"]).2 = .ok db ∧
      ((Resolver.mk Tables.standard (.system db)).preferredExtension
        (some "IMAGE/X-FOO")).answer = .ok (some "foo") ∧
      ∃ found, ((Resolver.mk Tables.standard (.system db)).extensionsOfType false
          "IMAGE/X-FOO").answer = .ok found ∧ "foo" ∈ found := by
  have hfiles := MimeFile.allDecodable_lineFile "image/x-foo" "foo"
  have hregistered : registered (lineFile "image/x-foo" "foo") ["mime.types"] =
      [⟨"image/x-foo", "foo"⟩] :=
    MimeFile.registered_lineFile (MimeFile.isTypeWord_ofList rfl) (MimeFile.isTypeWord_ofList rfl)
  obtain ⟨-, db, hload, hknown⟩ := preferred_known Tables.standard hfiles
  have hwild : ∀ s, "IMAGE/X-FOO" ≠ s ++ "/*" := by
    intro s hs
    have := congrArg (fun t => t.toList.getLast?) hs
    simp at this
  obtain ⟨preferred, found, hpreferred, hfound, hmem⟩ :=
    hknown "IMAGE/X-FOO" (by decide) hwild false
  have hfirst : db.preferredOf? "IMAGE/X-FOO" = some "foo" := by
    obtain rfl := Except.ok.inj ((Database.load_of_allDecodable hfiles).symm.trans hload)
    have hlower : Text.lower "IMAGE/X-FOO" = "image/x-foo" := by
      decide +kernel
    have hrecords := Database.records_ofHistory
      (Database.builtinStrict ++ registered (lineFile "image/x-foo" "foo") ["mime.types"])
      Database.builtinCommon
    rw [Database.preferredOf?_eq_some_iff hrecords.1 hrecords.2, hlower, hregistered]
    exact ⟨Database.builtinStrict, Database.builtinCommon, List.append_assoc .., by decide +kernel⟩
  have hanswer : ((Resolver.mk Tables.standard (.system db)).preferredExtension
      (some "IMAGE/X-FOO")).answer = .ok (some "foo") := by
    have hgiven : (Platform.system db).registry.preferredOf (some "IMAGE/X-FOO") =
        .ok (some "foo") := congrArg Except.ok hfirst
    rw [preferredExtension_of_answer (r := ⟨Tables.standard, .system db⟩) hgiven]
    rfl
  obtain rfl := Except.ok.inj (hpreferred.symm.trans hanswer)
  exact ⟨hfiles, db, hload, hanswer, found, hfound, hmem "foo" rfl⟩

/-- A database prefers nothing where nothing has been registered, and never the empty extension. -/
theorem nonEmpty?_preferredOf?_eq_none_iff {files : FileSystem} {names : List String}
    {db : Database} (hfiles : AllDecodable files names)
    (hload : (Database.load files names).2 = .ok db) (mediaType : String) :
    nonEmpty? (db.preferredOf? mediaType) = none ↔
      ∀ e, ⟨Text.lower mediaType, e⟩ ∉ history files names := by
  have hmem := Database.mem_extensionsOf_of_load hfiles hload mediaType
  rw [nonEmpty?_eq_none_iff]
  constructor
  · intro h e he
    -- the type has an extension, so it prefers one
    cases hfirst : db.preferredOf? mediaType with
    | none =>
      rw [← hmem, Database.preferredOf?_eq_none_iff.1 hfirst] at he
      cases he
    | some first =>
      have hgiven : first ∈ db.extensionsOf mediaType := List.mem_of_mem_head? hfirst
      exact Database.extension_ne_empty_of_mem_history ((hmem first).1 hgiven) (h first hfirst)
  · intro h e hfirst
    exact absurd ((hmem e).1 (List.mem_of_mem_head? hfirst)) (h e)

/-- A type prefers no extension exactly if none is registered for it in lower case and no mapping is
of the folded type. -/
theorem preferredExtension_eq_none_iff (tables : Tables) {files : FileSystem}
    {names : List String} {db : Database} (hfiles : AllDecodable files names)
    (hload : (Database.load files names).2 = .ok db) (mediaType : String) :
    ((Resolver.mk tables (.system db)).preferredExtension (some mediaType)).answer = .ok none ↔
      (∀ e, ⟨Text.lower mediaType, e⟩ ∉ history files names) ∧
        ∀ m ∈ tables.primary ++ tables.secondary, m.mediaType ≠ Text.lowerAscii mediaType := by
  have hgiven : (Platform.system db).registry.preferredOf (some mediaType) =
      .ok (db.preferredOf? mediaType) := rfl
  rw [preferredExtension_of_answer (r := ⟨tables, .system db⟩) hgiven, Except.ok.injEq,
    Option.or_eq_none_iff, nonEmpty?_preferredOf?_eq_none_iff hfiles hload,
    tablePreferred_eq_iff, Tables.prefers_none_iff, Option.getD_some]

end Resolver

end MediaTypes
