import MediaTypes.Proofs.Platform.TypeWord
import MediaTypes.Proofs.Resolver.Agreement

/-!
# The case of types around the system's database

The system's database keeps types as they are registered, and is asked about types in full lower
case. So it compares types up to the case of ASCII letters for some types only. A registration is
found under its own type if that is in lower case. And what is found for a type has been registered
for it, up to the case of ASCII letters, if it has no capitals but those; U+212A KELVIN SIGN is one
that lowers to a `k`.

## Main definitions

- `Database.history` — the registrations that a database knows
- `Resolver.FindsRegistered` — whatever is found for a type has been registered for it
- `Resolver.RegisteredFound` — whatever is registered for a type is found for it

## Main statements

- `findsRegistered_iff`, `registeredFound_iff` — the types of which this is true
- `not_findsRegistered_kelvin`, `not_registeredFound_capital` — not every type is one of them
-/

namespace MediaTypes

open MimeFile (registered AllDecodable IsTypeWord lineFile)

namespace Database

/-- The registrations that the database loaded from files knows. -/
def history (files : FileSystem) (names : List String) : List Registration :=
  builtinStrict ++ registered files names ++ builtinCommon

/-- The extension has been registered for the type, up to the case of ASCII letters. -/
def RegisteredFor (files : FileSystem) (names : List String) (mediaType e : String) : Prop :=
  ∃ t, ⟨t, e⟩ ∈ history files names ∧ Text.EqFold t mediaType

theorem mem_extensionsOf_of_load {files : FileSystem} {names : List String} {db : Database}
    (hfiles : AllDecodable files names) (hload : (load files names).2 = .ok db) (t e : String) :
    e ∈ db.extensionsOf t ↔ ⟨Text.lower t, e⟩ ∈ history files names := by
  obtain rfl := Except.ok.inj ((load_of_allDecodable hfiles).symm.trans hload)
  exact mem_extensionsOf_ofHistory

/-- A database is asked about the same type whether or not ASCII letters are folded before. -/
theorem mem_extensionsOf_lowerAscii {files : FileSystem} {names : List String} {db : Database}
    (hfiles : AllDecodable files names) (hload : (load files names).2 = .ok db) (t e : String) :
    e ∈ db.extensionsOf (Text.lowerAscii t) ↔ ⟨Text.lower t, e⟩ ∈ history files names := by
  rw [mem_extensionsOf_of_load hfiles hload, Text.lower_lowerAscii]

theorem mem_history_iff {files : FileSystem} {names : List String} {r : Registration} :
    r ∈ history files names ↔
      r ∈ registered files names ∨ r ∈ builtinStrict ++ builtinCommon := by
  simp only [history, List.mem_append]
  rw [or_right_comm, or_comm]

theorem isTypeWord_of_mem_history {files : FileSystem} {names : List String} {r : Registration}
    (h : r ∈ history files names) : IsTypeWord r.mediaType := by
  rcases mem_history_iff.1 h with hfile | hbuiltin
  · exact MimeFile.isTypeWord_of_mem_registered hfile
  · exact isTypeWord_of_mem_builtin r hbuiltin

/-- Words of a line are not empty, and neither are the extensions that are built in. -/
theorem extension_ne_empty_of_mem_history {files : FileSystem} {names : List String}
    {r : Registration} (h : r ∈ history files names) : r.extension ≠ "" := by
  rcases mem_history_iff.1 h with hfile | hbuiltin
  · exact MimeFile.extension_ne_empty_of_mem_registered hfile
  · exact extension_ne_empty_of_mem_builtin r hbuiltin

/-- An extension that is not built in. -/
def freshExtension : String := "zz"

theorem isTypeWord_fresh : IsTypeWord freshExtension :=
  MimeFile.isTypeWord_ofList rfl

theorem ne_fresh_of_mem_builtin :
    ∀ r ∈ builtinStrict ++ builtinCommon, r.extension ≠ freshExtension := by
  decide +kernel

/-- Where one line registers the extension, it is known for the type of that line only. -/
theorem mem_history_lineFile {mediaType t : String} (hword : IsTypeWord mediaType) :
    ⟨t, freshExtension⟩ ∈ history (lineFile mediaType freshExtension) ["mime.types"] ↔
      t = mediaType := by
  rw [mem_history_iff, MimeFile.registered_lineFile hword isTypeWord_fresh, List.mem_singleton,
    Registration.mk.injEq]
  constructor
  · rintro (⟨htype, -⟩ | hbuiltin)
    · exact htype
    · exact absurd rfl (ne_fresh_of_mem_builtin _ hbuiltin)
  · rintro rfl
    exact .inl ⟨rfl, rfl⟩

end Database

namespace Resolver

open Database (history RegisteredFor freshExtension)

/-- Whatever files are read, what the registry gives for the type has been registered for it, and so
has what a resolver finds for it, unless a table lists it there. -/
def FindsRegistered (mediaType : String) : Prop :=
  ∀ files names, AllDecodable files names → ∃ db, (Database.load files names).2 = .ok db ∧
    (∃ given, db.registry.extensionsOf (some mediaType) = .ok given ∧
      ∀ e ∈ given, RegisteredFor files names mediaType e) ∧
    (mediaType ≠ "*" → (∀ s, mediaType ≠ s ++ "/*") → ∀ tables tracing, ∃ found,
      ((Resolver.mk tables (.system db)).extensionsOfType tracing mediaType).answer = .ok found ∧
      ∀ e ∈ found, RegisteredFor files names mediaType e ∨
        tables.Leading (Text.lowerAscii mediaType) e)

/-- Whatever files are read, what they register for the type is given and found for it, in any case
of ASCII letters. -/
def RegisteredFound (mediaType : String) : Prop :=
  ∀ files names, AllDecodable files names → ∃ db, (Database.load files names).2 = .ok db ∧
    ∀ e, ⟨mediaType, e⟩ ∈ registered files names → ∀ t, Text.EqFold t mediaType →
      (∃ given, db.registry.extensionsOf (some t) = .ok given ∧ e ∈ given) ∧
      (t ≠ "*" → (∀ s, t ≠ s ++ "/*") → ∀ tables tracing, ∃ found,
        ((Resolver.mk tables (.system db)).extensionsOfType tracing t).answer = .ok found ∧
        e ∈ found)

/-- **What is found has been registered** for the type, up to the case of ASCII letters, exactly if
lower-casing the type only folds ASCII letters, or makes it a text that no file can register. -/
theorem findsRegistered_iff (mediaType : String) :
    FindsRegistered mediaType ↔
      Text.lower mediaType = Text.lowerAscii mediaType ∨
        ¬ IsTypeWord (Text.lower mediaType) := by
  constructor
  · intro h
    by_cases hword : IsTypeWord (Text.lower mediaType)
    · left
      -- a file registers an extension for the lowered type, and so it is found for this one
      have hfiles := MimeFile.allDecodable_lineFile (Text.lower mediaType) freshExtension
      obtain ⟨db, hload, ⟨given, hgiven, hregistered⟩, -⟩ := h _ _ hfiles
      have hmem := Database.mem_extensionsOf_of_load hfiles hload
      obtain rfl := Except.ok.inj hgiven
      obtain ⟨t, ht, hfold⟩ := hregistered freshExtension
        ((hmem _ _).2 ((Database.mem_history_lineFile hword).2 rfl))
      obtain rfl := (Database.mem_history_lineFile hword).1 ht
      rw [Text.EqFold, Text.lowerAscii_lower] at hfold
      exact hfold
    · exact .inr hword
  · intro h files names hfiles
    obtain ⟨db, hload⟩ : ∃ db, (Database.load files names).2 = .ok db :=
      ⟨_, Database.load_of_allDecodable hfiles⟩
    have hmem := Database.mem_extensionsOf_of_load hfiles hload
    have hfolded := Database.mem_extensionsOf_lowerAscii hfiles hload
    have hregistered : ∀ e, ⟨Text.lower mediaType, e⟩ ∈ history files names →
        RegisteredFor files names mediaType e := by
      intro e he
      rcases h with hlower | hword
      · refine ⟨_, he, ?_⟩
        rw [Text.EqFold, Text.lowerAscii_lower, hlower]
      · exact absurd (Database.isTypeWord_of_mem_history he) hword
    refine ⟨db, hload, ⟨_, rfl, fun e he => hregistered e ((hmem _ _).1 he)⟩, ?_⟩
    intro hstar hwild tables tracing
    obtain ⟨found, hfound, hfoundmem⟩ :=
      answer_extensionsOfType_system tables db hstar hwild tracing
    refine ⟨found, hfound, fun e he => ?_⟩
    rcases (hfoundmem e).1 he with hgiven | hlisted
    · exact .inl (hregistered e ((hfolded _ _).1 hgiven))
    · exact .inr hlisted

/-- The type of PKCS #7 messages with U+212A KELVIN SIGN for its `k`. -/
def kelvinType : String := "application/p\u212Acs7-mime"

/-- The registry gives the built-in extension `p7c` for the type with the KELVIN SIGN. -/
theorem not_findsRegistered_kelvin : ¬ ∀ mediaType, FindsRegistered mediaType := by
  intro h
  have hfiles : AllDecodable [] [] := by
    rintro name ⟨⟩
  obtain ⟨db, hload, ⟨given, hgiven, hregistered⟩, -⟩ := h kelvinType [] [] hfiles
  have hmem := Database.mem_extensionsOf_of_load hfiles hload
  obtain rfl := Except.ok.inj hgiven
  have hlower : Text.lower kelvinType = "application/pkcs7-mime" := by
    decide +kernel
  have hp7c : ⟨"application/pkcs7-mime", "p7c"⟩ ∈ history [] [] := by
    decide +kernel
  obtain ⟨t, ht, hfold⟩ := hregistered "p7c" ((hmem _ _).2 (hlower ▸ hp7c))
  have hnone : ∀ r ∈ history [] [], r.extension = "p7c" → ¬ Text.EqFold r.mediaType kelvinType := by
    decide +kernel
  exact hnone _ ht rfl hfold

/-- **What is registered is found**, in any case of ASCII letters, exactly if the type is in lower
case or is a text that no file can register. -/
theorem registeredFound_iff (mediaType : String) :
    RegisteredFound mediaType ↔
      Text.lower mediaType = mediaType ∨ ¬ IsTypeWord mediaType := by
  constructor
  · intro h
    by_cases hword : IsTypeWord mediaType
    · left
      have hfiles := MimeFile.allDecodable_lineFile mediaType freshExtension
      obtain ⟨db, hload, hfound⟩ := h _ _ hfiles
      have hmem := Database.mem_extensionsOf_of_load hfiles hload
      have hline : ⟨mediaType, freshExtension⟩ ∈
          registered (lineFile mediaType freshExtension) ["mime.types"] := by
        rw [MimeFile.registered_lineFile hword Database.isTypeWord_fresh]
        exact List.mem_singleton_self _
      obtain ⟨⟨given, hgiven, he⟩, -⟩ := hfound freshExtension hline mediaType rfl
      obtain rfl := Except.ok.inj hgiven
      exact (Database.mem_history_lineFile hword).1 ((hmem _ _).1 he)
    · exact .inr hword
  · intro h files names hfiles
    obtain ⟨db, hload⟩ : ∃ db, (Database.load files names).2 = .ok db :=
      ⟨_, Database.load_of_allDecodable hfiles⟩
    have hmem := Database.mem_extensionsOf_of_load hfiles hload
    have hfolded := Database.mem_extensionsOf_lowerAscii hfiles hload
    refine ⟨db, hload, fun e he t hfold => ?_⟩
    rcases h with hlower | hword
    · have hknown : ⟨Text.lower t, e⟩ ∈ history files names := by
        rw [← Text.lower_lowerAscii, hfold, Text.lower_lowerAscii, hlower]
        exact List.mem_append_left _ (List.mem_append_right _ he)
      refine ⟨⟨_, rfl, (hmem _ _).2 hknown⟩, fun hstar hwild tables tracing => ?_⟩
      obtain ⟨found, hfound, hfoundmem⟩ :=
        answer_extensionsOfType_system tables db hstar hwild tracing
      exact ⟨found, hfound,
        (hfoundmem e).2 (.inl ((hfolded _ _).2 hknown))⟩
    · exact absurd (MimeFile.isTypeWord_of_mem_registered he) hword

/-- The registry does not give the extension that the one line `Image/X-Foo foo` registers. -/
theorem not_registeredFound_capital : ¬ ∀ mediaType, RegisteredFound mediaType := by
  intro h
  have hregistered : registered (lineFile "Image/X-Foo" "foo") ["mime.types"] =
      [⟨"Image/X-Foo", "foo"⟩] :=
    MimeFile.registered_lineFile (MimeFile.isTypeWord_ofList rfl) (MimeFile.isTypeWord_ofList rfl)
  have hfiles := MimeFile.allDecodable_lineFile "Image/X-Foo" "foo"
  obtain ⟨db, hload, hfound⟩ := h "Image/X-Foo" _ _ hfiles
  have hmem := Database.mem_extensionsOf_of_load hfiles hload
  have hline : ⟨"Image/X-Foo", "foo"⟩ ∈
      registered (lineFile "Image/X-Foo" "foo") ["mime.types"] := by
    rw [hregistered]
    exact List.mem_singleton_self _
  obtain ⟨⟨given, hgiven, hfoo⟩, -⟩ := hfound "foo" hline "Image/X-Foo" rfl
  obtain rfl := Except.ok.inj hgiven
  have hknown := (hmem _ _).1 hfoo
  have hlower : Text.lower "Image/X-Foo" = "image/x-foo" := by
    decide +kernel
  rw [hlower, history, hregistered] at hknown
  have hnone : ⟨"image/x-foo", "foo"⟩ ∉
      Database.builtinStrict ++ [⟨"Image/X-Foo", "foo"⟩] ++ Database.builtinCommon := by
    decide +kernel
  exact hnone hknown

end Resolver

end MediaTypes
