import MediaTypes.Proofs.Dictionary
import MediaTypes.Proofs.Resolver.LetterCase

/-!
# Case variants of an extension

Two spellings of an extension that differ in the case of ASCII letters have the same type in the
tables, where extensions are compared up to case. The system's database looks for a key as it is
spelt first, and for the folded key only if there is none. So a spelling can have a type of its own
there, but only if a file registers it with a capital letter; all other spellings have the type of
the folded one.

## Main definitions

- `Text.HasCapital` — some character is a capital ASCII letter
- `Database.CapitalKey` — the extension is a key of one of the maps and has a capital letter

## Main statements

- `Database.typeOf?_lowerAscii` — an extension that is no such key has the type of the folded one
- `Database.capitalKey_iff` — the keys with a capital letter are those that a file registers
- `Resolver.case_variants_agree` — the lookups around the system's database
-/

namespace MediaTypes

open MimeFile (AllDecodable lineFile registered)

namespace Text

/-- Some character is a capital ASCII letter. -/
def HasCapital (s : String) : Prop :=
  ∃ c ∈ s.toList, 'A' ≤ c ∧ c ≤ 'Z'

instance (s : String) : Decidable (HasCapital s) :=
  List.decidableBEx (fun c => 'A' ≤ c ∧ c ≤ 'Z') s.toList

/-- A text without capital letters is its own folded form. -/
theorem lowerAscii_of_not_hasCapital {s : String} (h : ¬ HasCapital s) : lowerAscii s = s := by
  apply String.toList_inj.1
  rw [toList_lowerAscii]
  calc
    lowerAsciiChars s.toList = s.toList.map id :=
      List.map_congr_left fun c hc => if_neg fun hcapital => h ⟨c, hc, hcapital⟩
    _ = s.toList := List.map_id _

theorem EqFold.length_eq {a b : String} (h : EqFold a b) : a.length = b.length := by
  rw [← length_lowerAscii a, h, length_lowerAscii]

end Text

/-- A mapping lists all spellings of an extension or none. -/
theorem Mapping.lists_congr (m : Mapping) {e e' : String} (h : Text.EqFold e e') :
    m.lists e = m.lists e' := by
  apply Bool.eq_iff_iff.2
  rw [lists_iff, lists_iff]
  constructor
  · rintro ⟨entry, hentry, hfold⟩
    exact ⟨entry, hentry, hfold.trans h⟩
  · rintro ⟨entry, hentry, hfold⟩
    exact ⟨entry, hentry, hfold.trans h.symm⟩

theorem Tables.typeOf?_congr (mappings : List Mapping) {e e' : String} (h : Text.EqFold e e') :
    Tables.typeOf? mappings e = Tables.typeOf? mappings e' := by
  have hlists : (fun m : Mapping => m.lists e) = fun m => m.lists e' := by
    funext m
    exact m.lists_congr h
  rw [Tables.typeOf?, Tables.typeOf?, hlists]

namespace TypeMap

variable {m : TypeMap} {e : String}

/-- What is no key as it is spelt has the type of the folded key. That key is its own folded form,
so that looking for it once more finds nothing else. -/
theorem typeOf?_of_not_mem_keys (h : e ∉ m.forward.keys) :
    m.typeOf? e = m.typeOf? (Text.lowerAscii e) := by
  rw [typeOf?, typeOf?, Dictionary.get?_eq_none_iff.2 h, Option.none_or, Text.lowerAscii_lowerAscii,
    Option.or_self]

theorem mem_keys_register {r : Registration} :
    e ∈ (m.register r).forward.keys ↔ e = r.extension ∨ e ∈ m.forward.keys :=
  Dictionary.mem_keys_insert

/-- The keys are the extensions that have been registered. -/
theorem mem_keys_registerAll {rs : List Registration} :
    e ∈ (m.registerAll rs).forward.keys ↔
      e ∈ rs.map (·.extension) ∨ e ∈ m.forward.keys := by
  induction rs generalizing m with
  | nil => simp [registerAll]
  | cons r rest ih =>
    have hstep : m.registerAll (r :: rest) = (m.register r).registerAll rest := rfl
    rw [hstep, ih, mem_keys_register, List.map_cons, List.mem_cons, or_left_comm, or_assoc]

end TypeMap

namespace Database

/-- The extension, as it is spelt, is a key of the strict or of the common map, and it has a capital
ASCII letter. -/
def CapitalKey (db : Database) (e : String) : Prop :=
  Text.HasCapital e ∧ (e ∈ db.strict.forward.keys ∨ e ∈ db.common.forward.keys)

/-- An extension has the type of the folded one, unless it is itself a key with a capital. -/
theorem typeOf?_lowerAscii {db : Database} {e : String} (h : ¬ db.CapitalKey e) :
    db.typeOf? (Text.lowerAscii e) = db.typeOf? e := by
  by_cases hcapital : Text.HasCapital e
  · have hkeys : e ∉ db.strict.forward.keys ∧ e ∉ db.common.forward.keys := by
      rw [← not_or]
      exact fun hmem => h ⟨hcapital, hmem⟩
    rw [typeOf?, typeOf?, TypeMap.typeOf?_of_not_mem_keys hkeys.1,
      TypeMap.typeOf?_of_not_mem_keys hkeys.2]
  · rw [Text.lowerAscii_of_not_hasCapital hcapital]

/-- Spellings of an extension that are no such keys have the same type. -/
theorem registry_congr {db : Database} {e e' : String} (hfold : Text.EqFold e e')
    (h : ¬ db.CapitalKey e) (h' : ¬ db.CapitalKey e') :
    ∃ given, db.registry.typeOf (some e) = .ok given ∧
      db.registry.typeOf (some e') = .ok given := by
  refine ⟨db.typeOf? (Text.lowerAscii e), ?_, ?_⟩
  · rw [typeOf?_lowerAscii h]
    rfl
  · rw [hfold, typeOf?_lowerAscii h']
    rfl

theorem not_hasCapital_of_mem_builtin :
    ∀ r ∈ builtinStrict ++ builtinCommon, ¬ Text.HasCapital r.extension := by
  decide +kernel

/-- The keys with a capital letter are those that some file registers: there is none among the
built-in ones. -/
theorem capitalKey_iff {files : FileSystem} {names : List String} {db : Database}
    (hfiles : AllDecodable files names) (hload : (load files names).2 = .ok db) {e : String} :
    db.CapitalKey e ↔ Text.HasCapital e ∧ ∃ r ∈ registered files names, r.extension = e := by
  obtain rfl := Except.ok.inj ((load_of_allDecodable hfiles).symm.trans hload)
  have hkeys : e ∈ (ofHistory (builtinStrict ++ registered files names)
        builtinCommon).strict.forward.keys ∨
      e ∈ (ofHistory (builtinStrict ++ registered files names) builtinCommon).common.forward.keys ↔
      ∃ r ∈ history files names, r.extension = e := by
    have hempty : e ∉ TypeMap.empty.forward.keys := List.not_mem_nil
    rw [ofHistory, TypeMap.mem_keys_registerAll, TypeMap.mem_keys_registerAll,
      or_iff_left hempty, or_iff_left hempty, ← List.mem_append, ← List.map_append, List.mem_map,
      history]
  rw [CapitalKey, hkeys, and_congr_right_iff]
  intro hcapital
  constructor
  · rintro ⟨r, hr, rfl⟩
    rcases mem_history_iff.1 hr with hfile | hbuiltin
    · exact ⟨r, hfile, rfl⟩
    · exact absurd hcapital (not_hasCapital_of_mem_builtin r hbuiltin)
  · rintro ⟨r, hr, rfl⟩
    exact ⟨r, mem_history_iff.2 (.inl hr), rfl⟩

end Database

namespace Resolver

variable {r : Resolver} {e e' : String}

/-- What a lookup answers that is given this by the platform. -/
theorem answer_typeOfExtension (hlen : e.length ≤ maxExtensionLength) {given : Option String}
    (hgiven : r.platform.registry.typeOf (some e) = .ok given) (tracing : Bool) :
    (r.typeOfExtension tracing e).answer =
      .ok ((nonEmpty? (Tables.typeOf? r.tables.primary e)).or
        ((nonEmpty? given).or (Tables.typeOf? r.tables.secondary e))) := by
  cases hprimary : nonEmpty? (Tables.typeOf? r.tables.primary e) with
  | some found => exact (r.typeOfExtension_of_primary tracing hlen hprimary).1
  | none => exact (r.typeOfExtension_of_no_primary tracing hlen hprimary).2 given hgiven

/-- The tables alone tell no spelling of an extension from another one. -/
theorem wellKnownType_congr (r : Resolver) (hfold : Text.EqFold e e') (tracing tracing' : Bool) :
    ∃ found, (r.wellKnownType tracing e).answer = .ok found ∧
      (r.wellKnownType tracing' e').answer = .ok found := by
  by_cases hlen : e.length ≤ maxExtensionLength
  · refine ⟨_, r.answer_wellKnownType tracing hlen, ?_⟩
    rw [r.answer_wellKnownType tracing' (hfold.length_eq ▸ hlen), Tables.typeOf?_congr _ hfold,
      Tables.typeOf?_congr _ hfold]
  · have hlong : maxExtensionLength < e.length := Nat.lt_of_not_le hlen
    refine ⟨none, ?_, ?_⟩
    · rw [wellKnownType, r.findType_of_tooLong tracing hlong]
    · rw [wellKnownType, r.findType_of_tooLong tracing' (hfold.length_eq ▸ hlong)]

/-- Spellings of an extension have the same type around a platform that gives them the same. -/
theorem typeOfExtension_congr (hfold : Text.EqFold e e') {given : Option String}
    (hgiven : r.platform.registry.typeOf (some e) = .ok given)
    (hgiven' : r.platform.registry.typeOf (some e') = .ok given) (tracing tracing' : Bool) :
    ∃ found, (r.typeOfExtension tracing e).answer = .ok found ∧
      (r.typeOfExtension tracing' e').answer = .ok found := by
  by_cases hlen : e.length ≤ maxExtensionLength
  · refine ⟨_, answer_typeOfExtension hlen hgiven tracing, ?_⟩
    rw [answer_typeOfExtension (hfold.length_eq ▸ hlen) hgiven' tracing',
      Tables.typeOf?_congr _ hfold, Tables.typeOf?_congr _ hfold]
  · have hlong : maxExtensionLength < e.length := Nat.lt_of_not_le hlen
    refine ⟨none, ?_, ?_⟩
    · rw [typeOfExtension, r.findType_of_tooLong tracing hlong]
    · rw [typeOfExtension, r.findType_of_tooLong tracing' (hfold.length_eq ▸ hlong)]

/-- **Case variants.** Around the database loaded from decodable mime files, spellings of an
extension that differ in the case of ASCII letters only are given the same type by the registry, and
have the same type between any tables, unless one of them is itself a key with a capital letter. In
the tables alone they have the same type without exception. -/
theorem case_variants_agree {files : FileSystem} {names : List String}
    (hfiles : AllDecodable files names) :
    ∃ db, (Database.load files names).2 = .ok db ∧ ∀ e e', Text.EqFold e e' →
      (¬ db.CapitalKey e → ¬ db.CapitalKey e' →
        (∃ given, db.registry.typeOf (some e) = .ok given ∧
          db.registry.typeOf (some e') = .ok given) ∧
        ∀ tables tracing tracing', ∃ found,
          ((Resolver.mk tables (.system db)).typeOfExtension tracing e).answer = .ok found ∧
          ((Resolver.mk tables (.system db)).typeOfExtension tracing' e').answer = .ok found) ∧
      ∀ tables tracing tracing', ∃ found,
        ((Resolver.mk tables (.system db)).wellKnownType tracing e).answer = .ok found ∧
        ((Resolver.mk tables (.system db)).wellKnownType tracing' e').answer = .ok found := by
  refine ⟨_, Database.load_of_allDecodable hfiles, ?_⟩
  intro e e' hfold
  refine ⟨?_, fun tables => wellKnownType_congr ⟨tables, _⟩ hfold⟩
  intro h h'
  obtain ⟨given, hgiven, hgiven'⟩ := Database.registry_congr hfold h h'
  exact ⟨⟨given, hgiven, hgiven'⟩,
    fun tables => typeOfExtension_congr (r := ⟨tables, .system _⟩) hfold hgiven hgiven'⟩

/-- A file registers `foo` and no other spelling of it, and all of them have its type. -/
theorem case_variants_agree_foo :
    AllDecodable (lineFile "image/x-foo" "foo") ["mime.types"] ∧
    ∃ db, (Database.load (lineFile "image/x-foo" "foo") ["mime.types"]).2 = .ok db ∧
      Text.EqFold "Foo" "foo" ∧ ¬ db.CapitalKey "Foo" ∧ ¬ db.CapitalKey "foo" ∧
      db.registry.typeOf (some "Foo") = .ok (some "image/x-foo") ∧
      ∃ found,
        ((Resolver.mk Tables.standard (.system db)).typeOfExtension false "Foo").answer =
          .ok found ∧
        ((Resolver.mk Tables.standard (.system db)).typeOfExtension true "foo").answer =
          .ok found := by
  have hfiles := MimeFile.allDecodable_lineFile "image/x-foo" "foo"
  have hregistered : registered (lineFile "image/x-foo" "foo") ["mime.types"] =
      [⟨"image/x-foo", "foo"⟩] :=
    MimeFile.registered_lineFile (MimeFile.isTypeWord_ofList rfl) (MimeFile.isTypeWord_ofList rfl)
  obtain ⟨db, hload, hagree⟩ := case_variants_agree hfiles
  have hfold : Text.EqFold "Foo" "foo" := by decide +kernel
  have hFoo : ¬ db.CapitalKey "Foo" := by
    rw [Database.capitalKey_iff hfiles hload, hregistered]
    decide +kernel
  have hfoo : ¬ db.CapitalKey "foo" := by
    rw [Database.capitalKey_iff hfiles hload, hregistered]
    decide +kernel
  obtain ⟨⟨given, hgiven, hgiven'⟩, hanswers⟩ := (hagree "Foo" "foo" hfold).1 hFoo hfoo
  have htype : db.typeOf? "foo" = some "image/x-foo" := by
    obtain rfl := Except.ok.inj ((Database.load_of_allDecodable hfiles).symm.trans hload)
    rw [Database.typeOf?, TypeMap.typeOf?, Database.ofHistory,
      TypeMap.get?_forward_eq_some_iff.2 ⟨Database.builtinStrict, [], by rw [hregistered],
        List.forall_mem_nil _⟩]
    rfl
  obtain rfl : db.typeOf? "foo" = given := Except.ok.inj hgiven'
  rw [htype] at hgiven
  exact ⟨hfiles, db, hload, hfold, hFoo, hfoo, hgiven, hanswers Tables.standard false true⟩

end Resolver

end MediaTypes
