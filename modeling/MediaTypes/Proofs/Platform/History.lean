import MediaTypes.Proofs.Platform.Invariant

/-!
# The history behind a database

A database is what a history of registrations has left. The type of an extension is that of its
last registration, while the extensions of a type are all that were ever registered for it: a
later registration of an extension for another type takes nothing away.

## Main definitions

- `Database.ofHistory` — the database that two histories leave

## Main statements

- `mem_extensionsOf_iff`, `preferredOf?_eq_some_iff` — what a database knows of a type, where its
  maps know their histories
- `Database.mem_extensionsOf_ofHistory`, `Database.registered_of_typeOf?` — the answers of a
  database in terms of the history that has left it
-/

namespace MediaTypes

namespace TypeMap

theorem registerAll_append (m : TypeMap) (rs rs' : List Registration) :
    m.registerAll (rs ++ rs') = (m.registerAll rs).registerAll rs' :=
  List.foldl_append

/-- The forward direction finds the last registration of an extension. -/
theorem get?_forward_eq_some_iff {rs : List Registration} {extension mediaType : String} :
    (empty.registerAll rs).forward.get? extension = some mediaType ↔
      ∃ before after, rs = before ++ ⟨mediaType, extension⟩ :: after ∧
        ∀ r ∈ after, r.extension ≠ extension :=
  (records_registerAll rs).forward extension mediaType

/-- The type that a map gives to an extension was registered for it, up to the case of the
extension. -/
theorem registered_of_typeOf? {rs : List Registration} {extension mediaType : String}
    (h : (empty.registerAll rs).typeOf? extension = some mediaType) :
    ∃ e, Text.EqFold e extension ∧ ⟨mediaType, e⟩ ∈ rs := by
  rcases Option.or_eq_some_iff.1 h with h | ⟨-, h⟩
  · obtain ⟨before, after, rfl, -⟩ := get?_forward_eq_some_iff.1 h
    exact ⟨extension, rfl, by simp⟩
  · obtain ⟨before, after, rfl, -⟩ := get?_forward_eq_some_iff.1 h
    exact ⟨Text.lowerAscii extension, Text.lowerAscii_lowerAscii extension, by simp⟩

end TypeMap

namespace Database

open TypeMap (Records FirstRegistered)

/-- The database that a history of strict and one of common registrations leave. -/
def ofHistory (strict common : List Registration) : Database :=
  ⟨TypeMap.empty.registerAll strict, TypeMap.empty.registerAll common⟩

theorem registered_of_typeOf? {strict common : List Registration} {extension mediaType : String}
    (h : (ofHistory strict common).typeOf? extension = some mediaType) :
    ∃ e, Text.EqFold e extension ∧ ⟨mediaType, e⟩ ∈ strict ++ common := by
  rcases Option.or_eq_some_iff.1 h with h | ⟨-, h⟩
  · obtain ⟨e, he, hmem⟩ := TypeMap.registered_of_typeOf? h
    exact ⟨e, he, List.mem_append_left common hmem⟩
  · obtain ⟨e, he, hmem⟩ := TypeMap.registered_of_typeOf? h
    exact ⟨e, he, List.mem_append_right strict hmem⟩

variable {db : Database} {strict common : List Registration} {mediaType e : String}

/-- The extensions of a type are those that either map was ever told of for the type in lower
case. -/
theorem mem_extensionsOf_iff (hstrict : db.strict.Records strict)
    (hcommon : db.common.Records common) :
    e ∈ db.extensionsOf mediaType ↔ ⟨Text.lower mediaType, e⟩ ∈ strict ++ common := by
  simp only [extensionsOf, hstrict.inverse, hcommon.inverse, List.mem_eraseDups, List.mem_append,
    TypeMap.mem_registeredFor]

/-- The preferred extension of a type is the first one that was registered for the type in lower
case, where the strict registrations count as the earlier ones. -/
theorem preferredOf?_eq_some_iff (hstrict : db.strict.Records strict)
    (hcommon : db.common.Records common) :
    db.preferredOf? mediaType = some e ↔
      FirstRegistered (strict ++ common) (Text.lower mediaType) e := by
  rw [← TypeMap.find?_eq_some_iff_firstRegistered, List.find?_append, Option.map_or]
  simp only [preferredOf?, extensionsOf, hstrict.inverse, hcommon.inverse,
    TypeMap.head?_eraseDups, List.head?_append, TypeMap.head?_registeredFor]

theorem preferredOf?_eq_none_iff :
    db.preferredOf? mediaType = none ↔ db.extensionsOf mediaType = [] :=
  List.head?_eq_none_iff

/-- What the registry of a database answers about types. -/
theorem answers_of_records (hstrict : db.strict.Records strict)
    (hcommon : db.common.Records common) (mediaType : String) :
    ∃ extensions preferred,
      db.registry.extensionsOf (some mediaType) = .ok extensions ∧
      db.registry.preferredOf (some mediaType) = .ok preferred ∧
      (∀ e, e ∈ extensions ↔ ⟨Text.lower mediaType, e⟩ ∈ strict ++ common) ∧
      (∀ e, preferred = some e ↔ FirstRegistered (strict ++ common) (Text.lower mediaType) e) ∧
      (preferred = none ↔ extensions = []) :=
  ⟨db.extensionsOf mediaType, db.preferredOf? mediaType, rfl, rfl,
    fun _ => mem_extensionsOf_iff hstrict hcommon,
    fun _ => preferredOf?_eq_some_iff hstrict hcommon, preferredOf?_eq_none_iff⟩

theorem records_ofHistory (strict common : List Registration) :
    (ofHistory strict common).strict.Records strict ∧
      (ofHistory strict common).common.Records common :=
  ⟨TypeMap.records_registerAll strict, TypeMap.records_registerAll common⟩

/-- The extensions of a type are those ever registered for the type in lower case. -/
theorem mem_extensionsOf_ofHistory :
    e ∈ (ofHistory strict common).extensionsOf mediaType ↔
      ⟨Text.lower mediaType, e⟩ ∈ strict ++ common :=
  mem_extensionsOf_iff (records_ofHistory strict common).1 (records_ofHistory strict common).2

end Database

end MediaTypes
