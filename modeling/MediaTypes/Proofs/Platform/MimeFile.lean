import MediaTypes.Platform.MimeFile
import MediaTypes.Proofs.Platform.History
import MediaTypes.Proofs.Text.Lowercase

/-!
# The history in mime files

Files that can be decoded add their registrations, in order, to the built-in ones. The database
that is loaded from them is the one that this history leaves. The first file that cannot be decoded
ends the loading, after the reports of the files before it.

## Main definitions

- `MimeFile.registered` — what a list of files registers
- `MimeFile.AllDecodable` — no file of a list makes the loading fail
- `MimeFile.Undecodable` — a file that does
- `MimeFile.refusals` — what is reported of a list of files

## Main statements

- `Database.extend_append` — how the reading goes on after files that can be decoded
- `Database.load_of_allDecodable` — the database that is loaded
- `Database.undecodable_of_load` — the file that makes the loading fail
- `Database.load_records` — what it knows, and its answers about types
-/

namespace MediaTypes

namespace MimeFile

/-- What a file registers. One that is missing or cannot be opened registers nothing. -/
def registrationsOfEntry : Option FileEntry → List Registration
  | some (.content bytes) => ((String.fromUTF8? bytes).map registrations).getD []
  | _ => []

/-- What the files of these names register, in order. -/
def registered (files : FileSystem) (names : List String) : List Registration :=
  names.flatMap fun name => registrationsOfEntry (files.lookup name)

/-- The bytes of every file that can be opened are UTF-8. -/
def AllDecodable (files : FileSystem) (names : List String) : Prop :=
  ∀ name ∈ names, ∀ bytes, files.lookup name = some (.content bytes) →
    ∃ text, String.fromUTF8? bytes = some text

/-- The file can be opened, and its bytes are no UTF-8. -/
def Undecodable (files : FileSystem) (name : String) : Prop :=
  ∃ bytes, files.lookup name = some (.content bytes) ∧ String.fromUTF8? bytes = none

/-- What is reported of a file: that it exists and cannot be opened. -/
def refusal? (files : FileSystem) (name : String) : Option Log.Event :=
  match files.lookup name with
  | some (.unopenable reason) => some (.unreadableFile name reason)
  | _ => none

/-- What is reported of the files of these names, in order. -/
def refusals (files : FileSystem) (names : List String) : List Log.Event :=
  names.filterMap (refusal? files)

theorem registered_cons (files : FileSystem) (name : String) (rest : List String) :
    registered files (name :: rest) =
      registrationsOfEntry (files.lookup name) ++ registered files rest :=
  List.flatMap_cons

theorem not_allDecodable_of_mem {files : FileSystem} {names : List String} {name : String}
    (hname : name ∈ names) (h : Undecodable files name) : ¬ AllDecodable files names := by
  obtain ⟨bytes, hbytes, hnone⟩ := h
  intro hall
  obtain ⟨text, htext⟩ := hall name hname bytes hbytes
  rw [hnone] at htext
  cases htext

/-- Either all files can be decoded, or there is a first one that cannot. -/
theorem allDecodable_or_first (files : FileSystem) (names : List String) :
    AllDecodable files names ∨
      ∃ before name after, names = before ++ name :: after ∧ AllDecodable files before ∧
        Undecodable files name := by
  induction names with
  | nil => exact .inl (List.forall_mem_nil _)
  | cons name rest ih =>
    by_cases hname : Undecodable files name
    · exact .inr ⟨[], name, rest, rfl, List.forall_mem_nil _, hname⟩
    have htext : ∀ bytes, files.lookup name = some (.content bytes) →
        ∃ text, String.fromUTF8? bytes = some text := by
      intro bytes hbytes
      rw [← Option.ne_none_iff_exists']
      exact fun hnone => hname ⟨bytes, hbytes, hnone⟩
    rcases ih with hrest | ⟨before, bad, after, rfl, hbefore, hbad⟩
    · exact .inl (List.forall_mem_cons.2 ⟨htext, hrest⟩)
    · exact .inr ⟨name :: before, bad, after, rfl, List.forall_mem_cons.2 ⟨htext, hbefore⟩, hbad⟩

/-- The bytes of a text are decoded to the text. -/
theorem fromUTF8?_toByteArray (s : String) : String.fromUTF8? s.toByteArray = some s := by
  rw [String.fromUTF8?, dif_pos s.isValidUTF8]
  rfl

end MimeFile

namespace Database

open MimeFile (registered registered_cons registrationsOfEntry AllDecodable Undecodable refusal?
  refusals)

theorem registerAll_append (db : Database) (rs rs' : List Registration) :
    db.registerAll (rs ++ rs') = (db.registerAll rs).registerAll rs' := by
  simp only [registerAll, TypeMap.registerAll_append]

theorem builtin_registerAll (rs : List Registration) :
    builtin.registerAll rs = ofHistory (builtinStrict ++ rs) builtinCommon := by
  rw [registerAll, builtin, ofHistory, TypeMap.registerAll_append]

variable {files : FileSystem}

/-- A file that can be decoded, or is passed over, adds its report and its registrations. -/
theorem extend_cons {name : String} (h : ¬ Undecodable files name) (db : Database)
    (rest : List String) :
    extend files db (name :: rest) =
      let further := extend files (db.registerAll (registrationsOfEntry (files.lookup name))) rest
      ((refusal? files name).toList ++ further.1, further.2) := by
  rw [extend, refusal?]
  rcases hfile : files.lookup name with _ | (bytes | reason)
  · rfl
  · cases htext : String.fromUTF8? bytes with
    | none => exact absurd ⟨bytes, hfile, htext⟩ h
    | some text => simp [registrationsOfEntry, htext]
  · rfl

theorem extend_cons_of_undecodable {name : String} (h : Undecodable files name) (db : Database)
    (rest : List String) : extend files db (name :: rest) = ([], .error ⟨name⟩) := by
  obtain ⟨bytes, hfile, hnone⟩ := h
  simp only [extend, hfile, hnone]

/-- After files that can be decoded the reading goes on with their registrations, and what was
reported of them comes first. -/
theorem extend_append {before : List String} (h : AllDecodable files before) (db : Database)
    (after : List String) :
    extend files db (before ++ after) =
      let further := extend files (db.registerAll (registered files before)) after
      (refusals files before ++ further.1, further.2) := by
  induction before generalizing db with
  | nil => rfl
  | cons name rest ih =>
    have hname : ¬ Undecodable files name := fun hbad =>
      MimeFile.not_allDecodable_of_mem List.mem_cons_self hbad h
    have hrest : AllDecodable files rest := fun n hn => h n (List.mem_cons_of_mem name hn)
    rw [List.cons_append, extend_cons hname, ih hrest, registered_cons, registerAll_append]
    cases hrefusal : refusal? files name <;> simp [refusals, hrefusal]

/-- What is loaded from files that can be decoded, with the reports on the way. -/
theorem load_eq_of_allDecodable {names : List String} (h : AllDecodable files names) :
    load files names =
      (refusals files names, .ok (builtin.registerAll (registered files names))) := by
  have happend := extend_append h builtin []
  rw [List.append_nil] at happend
  rw [load, happend]
  simp [extend]

/-- The first file that cannot be decoded ends the loading. -/
theorem load_eq_of_undecodable {before : List String} {name : String}
    (hbefore : AllDecodable files before) (hname : Undecodable files name) (after : List String) :
    load files (before ++ name :: after) = (refusals files before, .error ⟨name⟩) := by
  rw [load, extend_append hbefore, extend_cons_of_undecodable hname]
  simp

/-- The database loaded from files that can be decoded is left by the built-in registrations
followed by theirs. -/
theorem load_of_allDecodable {files : FileSystem} {names : List String}
    (h : AllDecodable files names) :
    (load files names).2 = .ok (ofHistory (builtinStrict ++ registered files names)
      builtinCommon) := by
  rw [load_eq_of_allDecodable h, builtin_registerAll]

/-- A file that makes the loading fail is one of those named, and its bytes are no UTF-8. -/
theorem undecodable_of_load {files : FileSystem} {names : List String} {file : UndecodableFile}
    (h : (load files names).2 = .error file) :
    file.name ∈ names ∧ Undecodable files file.name := by
  rcases MimeFile.allDecodable_or_first files names with hall | hfirst
  · rw [load_eq_of_allDecodable hall] at h
    cases h
  · obtain ⟨before, name, after, rfl, hbefore, hname⟩ := hfirst
    rw [load_eq_of_undecodable hbefore hname] at h
    obtain rfl := Except.error.inj h
    exact ⟨by simp, hname⟩

/-- The built-in types are in lower case. -/
theorem lower_of_mem_builtin :
    ∀ r ∈ builtinStrict ++ builtinCommon, Text.lower r.mediaType = r.mediaType := by
  simp only [builtinStrict, builtinCommon, List.cons_append, List.nil_append, List.forall_mem_cons]
  and_intros
  all_goals first | exact Text.lower_ofList rfl | exact List.forall_mem_nil _

/-- **The system database.** Whatever files are read, as long as they can be decoded, both maps of
the database know their histories: the built-in registrations and, in the strict map, those of
the files in order. Hence the extensions of a type are all that were ever registered for it in
lower case, and the preferred one is the first of them. -/
theorem load_records {files : FileSystem} {names : List String} (h : AllDecodable files names) :
    ∃ db, (load files names).2 = .ok db ∧
      db.strict.Records (builtinStrict ++ registered files names) ∧
      db.common.Records builtinCommon ∧
      ∀ mediaType, ∃ extensions preferred,
        db.registry.extensionsOf (some mediaType) = .ok extensions ∧
        db.registry.preferredOf (some mediaType) = .ok preferred ∧
        (∀ e, e ∈ extensions ↔ ⟨Text.lower mediaType, e⟩ ∈
          builtinStrict ++ registered files names ++ builtinCommon) ∧
        (∀ e, preferred = some e ↔ TypeMap.FirstRegistered
          (builtinStrict ++ registered files names ++ builtinCommon) (Text.lower mediaType) e) ∧
        (preferred = none ↔ extensions = []) := by
  obtain ⟨hstrict, hcommon⟩ :=
    records_ofHistory (builtinStrict ++ registered files names) builtinCommon
  exact ⟨_, load_of_allDecodable h, hstrict, hcommon, answers_of_records hstrict hcommon⟩

/-- Two mime files that register one extension for two types, and then again for the first one. -/
def competingFiles : FileSystem :=
  [("first.types", .content "image/x-foo foo fu\naudio/x-bar foo # image/x-foo".toByteArray),
   ("second.types", .content "image/x-foo fig foo".toByteArray)]

/-- The first type has the extension again, in its first place; the second type keeps it. -/
theorem load_records_competing :
    AllDecodable competingFiles ["first.types", "second.types"] ∧
    ∃ db, (load competingFiles ["first.types", "second.types"]).2 = .ok db ∧
      db.strict.Records (builtinStrict ++
        registered competingFiles ["first.types", "second.types"]) ∧
      db.common.Records builtinCommon ∧
      db.strict.extensionsOf "image/x-foo" = ["foo", "fu", "fig"] ∧
      db.strict.extensionsOf "audio/x-bar" = ["foo"] ∧
      db.strict.forward.get? "foo" = some "image/x-foo" ∧
      db.registry.preferredOf (some "IMAGE/X-FOO") = .ok (some "foo") := by
  have hfirst : competingFiles.lookup "first.types" =
      some (.content "image/x-foo foo fu\naudio/x-bar foo # image/x-foo".toByteArray) := by
    simp only [competingFiles, List.lookup_cons_self]
  have hsecond : competingFiles.lookup "second.types" =
      some (.content "image/x-foo fig foo".toByteArray) := by
    simp [competingFiles, List.lookup_cons]
  have hfiles : AllDecodable competingFiles ["first.types", "second.types"] := by
    intro name hname bytes hbytes
    simp only [List.mem_cons, List.not_mem_nil, or_false] at hname
    rcases hname with rfl | rfl
    · rw [hfirst] at hbytes
      obtain rfl := FileEntry.content.inj (Option.some.inj hbytes)
      exact ⟨_, MimeFile.fromUTF8?_toByteArray _⟩
    · rw [hsecond] at hbytes
      obtain rfl := FileEntry.content.inj (Option.some.inj hbytes)
      exact ⟨_, MimeFile.fromUTF8?_toByteArray _⟩
  have hregistered : registered competingFiles ["first.types", "second.types"] =
      [⟨"image/x-foo", "foo"⟩, ⟨"image/x-foo", "fu"⟩, ⟨"audio/x-bar", "foo"⟩,
        ⟨"image/x-foo", "fig"⟩, ⟨"image/x-foo", "foo"⟩] := by
    simp only [registered, List.flatMap_cons, List.flatMap_nil, hfirst, hsecond,
      MimeFile.registrationsOfEntry, MimeFile.fromUTF8?_toByteArray, Option.map_some,
      Option.getD_some]
    decide +kernel
  obtain ⟨db, hload, hstrict, hcommon, hanswers⟩ := load_records hfiles
  refine ⟨hfiles, db, hload, hstrict, hcommon, ?_, ?_, ?_, ?_⟩
  · rw [hstrict.inverse, hregistered]
    decide +kernel
  · rw [hstrict.inverse, hregistered]
    decide +kernel
  · rw [hstrict.forward, hregistered]
    exact ⟨builtinStrict ++ [⟨"image/x-foo", "foo"⟩, ⟨"image/x-foo", "fu"⟩,
      ⟨"audio/x-bar", "foo"⟩, ⟨"image/x-foo", "fig"⟩], [], by rw [List.append_assoc]; rfl,
      List.forall_mem_nil _⟩
  · obtain ⟨_, preferred, -, hpreferred, -, hfirst, -⟩ := hanswers "IMAGE/X-FOO"
    have hlower : Text.lower "IMAGE/X-FOO" = "image/x-foo" := by
      decide +kernel
    rw [hpreferred, (hfirst "foo").2]
    rw [hlower, ← TypeMap.find?_eq_some_iff_firstRegistered, hregistered]
    decide +kernel

end Database

end MediaTypes
