import MediaTypes.Proofs.MediaType.Pattern
import MediaTypes.Proofs.Platform.MimeFile
import MediaTypes.Proofs.Resolver.Precedence
import MediaTypes.Proofs.Resolver.Reverse

/-!
# Agreement of both directions

Around the system's database the type of an extension has that extension among its own, up to
ASCII case, whichever source the type comes from. A table gives back the entry that listed the
extension. The database gives back the extension in the case in which it was registered: what is
registered is never taken away, so it does not matter that a later registration may have given the
same extension another type.

The types in mime files must be in lower case for this, since the database is asked about types in
lower case only.

## Main statements

- `answer_extensionsOfType` — the extensions of a type that is no pattern
- `forward_reverse_agreement` — the type of an extension has the extension
-/

namespace MediaTypes

/-- A mapping's type begins with its own folded form. -/
theorem Tables.hasLeading_lowerAscii (m : Mapping) :
    Tables.hasLeading (Text.lowerAscii m.mediaType) m = true := by
  rw [Tables.hasLeading, Text.lowerAscii_lowerAscii]
  exact List.isPrefixOf_iff_prefix.2 List.prefix_rfl

namespace Resolver

/-- A type that is no pattern stands for itself. The platform is asked about its folded form. -/
theorem answer_extensionsOfType {r : Resolver} {t : String} {given : List String}
    (hstar : t ≠ "*") (hwild : ∀ s, t ≠ s ++ "/*")
    (hgiven : r.platform.registry.extensionsOf (some (Text.lowerAscii t)) = .ok given)
    (tracing : Bool) :
    ∃ found, (r.extensionsOfType tracing t).answer = .ok found ∧
      ∀ e, e ∈ found ↔ e ∈ given ∨
        ∃ m, (m ∈ r.tables.primary ∨ m ∈ r.tables.secondary) ∧
          Tables.hasLeading (Text.lowerAscii t) m = true ∧ e ∈ m.extensionList := by
  have hfull : MediaType.isFullWildcard t = false := by
    rw [MediaType.isFullWildcard_eq_false_iff]
    rintro (h | h)
    · exact hstar h
    · exact hwild "*" h
  have hselection : selection r.tables (Text.lowerAscii t) =
      (Text.lowerAscii t, [Text.lowerAscii t]) :=
    selection_of_not_wildcard fun h =>
      (Text.exists_of_wildcard_lowerAscii h).elim hwild
  obtain ⟨found, hfound, hmem⟩ := mem_extensionsOfType hfull hselection (f := fun _ => given)
    (fun u hu => by rw [List.mem_singleton.1 hu, hgiven]) tracing
  refine ⟨found, hfound, ?_⟩
  intro e
  rw [hmem e]
  simp only [List.mem_singleton, exists_eq_left]

/-- The system's database always answers. -/
theorem answer_extensionsOfType_system (tables : Tables) (db : Database) {t : String}
    (hstar : t ≠ "*") (hwild : ∀ s, t ≠ s ++ "/*") (tracing : Bool) :
    ∃ found, ((Resolver.mk tables (.system db)).extensionsOfType tracing t).answer = .ok found ∧
      ∀ e, e ∈ found ↔ e ∈ db.extensionsOf (Text.lowerAscii t) ∨
        ∃ m, (m ∈ tables.primary ∨ m ∈ tables.secondary) ∧
          Tables.hasLeading (Text.lowerAscii t) m = true ∧ e ∈ m.extensionList :=
  answer_extensionsOfType (r := ⟨tables, .system db⟩) hstar hwild rfl tracing

/-- **Agreement.** Around the database loaded from mime files whose types are in lower case, the
type of an extension has the extension among its own up to ASCII case, unless the type is a
pattern. -/
theorem forward_reverse_agreement (tables : Tables) {files : FileSystem} {names : List String}
    (hfiles : MimeFile.AllDecodable files names)
    (hlower : ∀ reg ∈ MimeFile.registered files names,
      Text.lower reg.mediaType = reg.mediaType) :
    ∃ db, (Database.load files names).2 = .ok db ∧
      ∀ tracing tracing' extension t,
        ((Resolver.mk tables (.system db)).typeOfExtension tracing extension).answer =
          .ok (some t) →
        t ≠ "*" → (∀ s, t ≠ s ++ "/*") →
        ∃ found,
          ((Resolver.mk tables (.system db)).extensionsOfType tracing' t).answer = .ok found ∧
          ∃ e ∈ found, Text.EqFold e extension := by
  refine ⟨_, Database.load_of_allDecodable hfiles, ?_⟩
  intro tracing tracing' extension t h hstar hwild
  obtain ⟨found, hfound, hmem⟩ := answer_extensionsOfType_system tables
    (Database.ofHistory (Database.builtinStrict ++ MimeFile.registered files names)
      Database.builtinCommon) hstar hwild tracing'
  refine ⟨found, hfound, ?_⟩
  rcases source_of_typeOfExtension _ tracing rfl h with hgiven | ⟨m, hm, ⟨e, he, hfold⟩, rfl⟩
  · obtain ⟨e, hfold, hreg⟩ := Database.registered_of_typeOf? hgiven
    have hcase : Text.lower t = t := by
      rcases List.mem_append.1 hreg with hstrict | hcommon
      · rcases List.mem_append.1 hstrict with hbuiltin | hfile
        · exact Database.lower_of_mem_builtin ⟨t, e⟩ (List.mem_append_left _ hbuiltin)
        · exact hlower ⟨t, e⟩ hfile
      · exact Database.lower_of_mem_builtin ⟨t, e⟩ (List.mem_append_right _ hcommon)
    -- the database lowers the type it is asked about, which leaves a registered type as it is
    refine ⟨e, (hmem e).2 (Or.inl ?_), hfold⟩
    rw [Text.lowerAscii_of_lower hcase, Database.mem_extensionsOf_ofHistory, hcase]
    exact hreg
  · -- the mapping that gave the type is among those selected by the type
    exact ⟨e, (hmem e).2 (Or.inr ⟨m, hm, Tables.hasLeading_lowerAscii m, he⟩), hfold⟩

/-- A mime file that registers one extension for two types. -/
def overridingFile : FileSystem :=
  [("mime.types", .content "image/x-foo foo\naudio/x-bar foo bar # both".toByteArray)]

/-- The later of the two types counts, and it has the extension. -/
theorem forward_reverse_agreement_overridden :
    MimeFile.AllDecodable overridingFile ["mime.types"] ∧
    (∀ reg ∈ MimeFile.registered overridingFile ["mime.types"],
      Text.lower reg.mediaType = reg.mediaType) ∧
    ∃ db, (Database.load overridingFile ["mime.types"]).2 = .ok db ∧
      ((Resolver.mk Tables.standard (.system db)).typeOfExtension false "foo").answer =
        .ok (some "audio/x-bar") ∧
      ∃ found, ((Resolver.mk Tables.standard (.system db)).extensionsOfType false
          "audio/x-bar").answer = .ok found ∧ ∃ e ∈ found, Text.EqFold e "foo" := by
  have hfiles : MimeFile.AllDecodable overridingFile ["mime.types"] := by
    intro name hname bytes hbytes
    obtain rfl := List.mem_singleton.1 hname
    obtain rfl := FileEntry.content.inj (Option.some.inj hbytes)
    exact ⟨_, MimeFile.fromUTF8?_toByteArray _⟩
  have hregistered : MimeFile.registered overridingFile ["mime.types"] =
      [⟨"image/x-foo", "foo"⟩, ⟨"audio/x-bar", "foo"⟩, ⟨"audio/x-bar", "bar"⟩] := by
    simp only [MimeFile.registered, overridingFile, List.flatMap_singleton, List.lookup_cons_self,
      MimeFile.registrationsOfEntry, MimeFile.fromUTF8?_toByteArray, Option.map_some,
      Option.getD_some]
    decide +kernel
  have hlower : ∀ reg ∈ MimeFile.registered overridingFile ["mime.types"],
      Text.lower reg.mediaType = reg.mediaType := by
    rw [hregistered]
    simp only [List.forall_mem_cons]
    exact ⟨Text.lower_ofList rfl, Text.lower_ofList rfl, Text.lower_ofList rfl,
      List.forall_mem_nil _⟩
  obtain ⟨db, hload, hagree⟩ := forward_reverse_agreement Tables.standard hfiles hlower
  have hdb : db = Database.ofHistory (Database.builtinStrict ++
      MimeFile.registered overridingFile ["mime.types"]) Database.builtinCommon :=
    Except.ok.inj (hload.symm.trans (Database.load_of_allDecodable hfiles))
  have hforward : db.strict.forward.get? "foo" = some "audio/x-bar" := by
    rw [hdb, hregistered]
    refine TypeMap.get?_forward_eq_some_iff.2
      ⟨Database.builtinStrict ++ [⟨"image/x-foo", "foo"⟩], [⟨"audio/x-bar", "bar"⟩], ?_, by decide⟩
    rw [List.append_assoc, List.singleton_append]
  have htype : db.typeOf? "foo" = some "audio/x-bar" := by
    rw [Database.typeOf?, TypeMap.typeOf?, hforward]
    rfl
  have hprimary : nonEmpty? (Tables.typeOf? Tables.standard.primary "foo") = none := by
    decide +kernel
  have hanswer : ((Resolver.mk Tables.standard (.system db)).typeOfExtension false "foo").answer =
      .ok (some "audio/x-bar") := by
    obtain ⟨-, hanswer⟩ := typeOfExtension_of_no_primary
      ⟨Tables.standard, .system db⟩ false (by decide) hprimary
    rw [hanswer _ (congrArg Except.ok htype), nonEmpty?_eq_some_iff.2 ⟨rfl, by decide⟩]
    rfl
  have hwild : ∀ s, "audio/x-bar" ≠ s ++ "/*" := by
    intro s hs
    have := congrArg (fun t => t.toList.getLast?) hs
    simp at this
  exact ⟨hfiles, hlower, db, hload, hanswer,
    hagree false false "foo" "audio/x-bar" hanswer (by decide) hwild⟩

end Resolver

end MediaTypes
